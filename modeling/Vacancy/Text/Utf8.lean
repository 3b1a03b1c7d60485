/-!
Text out of bytes that need not be UTF-8. Each longest start of a character that does not go on as
it should is replaced by one replacement character.
-/

namespace Vacancy.Text.Utf8

def replacement : Char := '\uFFFD'

def isContinuation (b : UInt8) : Bool :=
  0x80 ≤ b && b ≤ 0xBF

/--
The number of bytes after the first one of a character, and the range of the one that comes next.
-/
def lead? (a : UInt8) : Option (Nat × UInt8 × UInt8) :=
  if a < 0xC2 then none
  else if a < 0xE0 then some (1, 0x80, 0xBF)
  else if a < 0xF0 then
    some (2, if a = 0xE0 then 0xA0 else 0x80, if a = 0xED then 0x9F else 0xBF)
  else if a < 0xF5 then
    some (3, if a = 0xF0 then 0x90 else 0x80, if a = 0xF4 then 0x8F else 0xBF)
  else none

def codePoint (a : UInt8) (tail : List UInt8) : Nat :=
  let high := match tail.length with
    | 1 => a.toNat % 0x20
    | 2 => a.toNat % 0x10
    | _ => a.toNat % 0x08
  tail.foldl (fun n b => 0x40 * n + b.toNat % 0x40) high

def first (a : UInt8) (rest : List UInt8) : Char × Nat :=
  if a < 0x80 then (Char.ofNat a.toNat, 0)
  else
    match lead? a, rest with
    | some (n, low, high), b :: bs =>
      if low ≤ b && b ≤ high then
        let tail := b :: (bs.take (n - 1)).takeWhile isContinuation
        (if tail.length = n then Char.ofNat (codePoint a tail) else replacement, tail.length)
      else (replacement, 0)
    | _, _ => (replacement, 0)

def chars : List UInt8 → List Char
  | [] => []
  | a :: rest => (first a rest).1 :: chars (rest.drop (first a rest).2)
termination_by bs => bs.length
decreasing_by simp only [List.length_drop, List.length_cons]; omega

def decode (bs : List UInt8) : String :=
  String.ofList (chars bs)

def encode (s : String) : List UInt8 :=
  s.toUTF8.toList

end Vacancy.Text.Utf8
