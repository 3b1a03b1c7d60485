import Vacancy.Failure
import Vacancy.Json.Reader
import Vacancy.Text.Utf8

/-!
Where a database is and how it is opened. Most paths are just that; one that starts with `file:` may
escape its bytes and go on with options, of which some have a meaning.
-/

namespace Vacancy

inductive OpenMode where
  | readOnly
  | readWrite
  | create
  | memory
  deriving DecidableEq

namespace OpenMode

def ofName? : String → Option OpenMode
  | "ro" => some .readOnly
  | "rw" => some .readWrite
  | "rwc" => some .create
  | "memory" => some .memory
  | _ => none

/-- Only databases in memory may get more access by a later option than they had. -/
def allows : OpenMode → OpenMode → Bool
  | _, .memory | _, .readOnly | .create, _ | .memory, _ => true
  | .readWrite, mode => mode == .readWrite
  | .readOnly, _ => false

end OpenMode

structure Location where
  path : String
  mode : OpenMode := .create
  /-- The content of the file never changes. -/
  immutable : Bool := false
  /-- A new file belongs to whom this one belongs. -/
  model : Option String := none
  /-- No file is meant, whatever the path. -/
  virtual : Bool := false
  deriving Inhabited

namespace Location

def isTemporary (l : Location) : Bool :=
  l.path.isEmpty || l.path == ":memory:" || l.mode == .memory || l.virtual

def isNamed (l : Location) : Bool :=
  !(l.path.isEmpty || l.path == ":memory:" || l.mode == .memory)

def isWritable (l : Location) : Bool :=
  l.mode != .readOnly && !(l.immutable && l.isNamed)

def creates (l : Location) : Bool :=
  l.mode == .create

/-! ### Addresses -/

def hexValue? (b : UInt8) : Option Nat :=
  if b < 0x80 then Json.hexDigit? (Char.ofNat b.toNat) else none

def escape? : List UInt8 → Option UInt8
  | a :: b :: _ => do return UInt8.ofNat (16 * (← hexValue? a) + (← hexValue? b))
  | _ => none

/--
The bytes with every `%` and two hexadecimal digits replaced; a zero among them ends the rest.
-/
def unescape : List UInt8 → List UInt8
  | [] => []
  | b :: rest =>
    if b = '%'.toUInt8 then
      match escape? rest with
      | some 0 => []
      | some c => c :: unescape (rest.drop 2)
      | none => b :: unescape rest
    else b :: unescape rest
termination_by bs => bs.length
decreasing_by all_goals simp only [List.length_drop, List.length_cons]; omega

def decode (cs : List Char) : String :=
  Text.Utf8.decode (unescape (Text.Utf8.encode (String.ofList cs)))

def splitAt (c : Char) (cs : List Char) : List Char × List Char :=
  (cs.takeWhile (· != c), (cs.dropWhile (· != c)).drop 1)

def options (cs : List Char) : List (String × String) :=
  ((String.ofList cs).splitOn "&").filterMap fun field =>
    let (name, value) := splitAt '=' field.toList
    if decode name = "" then none else some (decode name, decode value)

/-- What is at home on the machine itself stands after an empty authority. -/
def withoutAuthority (cs : List Char) : Except SqlError (List Char) :=
  match cs with
  | '/' :: '/' :: cs =>
    let name := String.ofList (cs.takeWhile (· != '/'))
    if name = "" ∨ name = "localhost" then .ok (cs.dropWhile (· != '/'))
    else .error (.authority name)
  | cs => .ok cs

def withMode (l : Location) (option : String × String) : Except SqlError Location :=
  match option with
  | ("mode", name) =>
    match OpenMode.ofName? name with
    | some mode =>
      if l.mode.allows mode then .ok { l with mode } else .error (.modeNotAllowed name)
    | none => .error (.noSuchMode "access" name)
  | ("cache", name) =>
    if name = "shared" ∨ name = "private" then .ok l else .error (.noSuchMode "cache" name)
  | _ => .ok l

def systems : List String :=
  ["unix", "unix-none", "unix-dotfile", "unix-excl", "memdb"]

def withSystem (l : Location) (names : List String) : Except SqlError Location :=
  match names.getLast? with
  | none => .ok l
  | some name =>
    if systems.contains name then .ok { l with virtual := name == "memdb" }
    else .error (.noSuchSystem name)

def isSwitchedOn (s : String) : Bool :=
  match s.toList with
  | c :: cs =>
    if c.isDigit then
      let n := Decimal.natOfDigits (c :: cs.takeWhile Char.isDigit)
      n < Decimal.pow2 31 && n % 256 != 0
    else ["on", "yes", "true"].contains (String.ofList ((c :: cs).map Char.toLower))
  | [] => false

def ofAddress (cs : List Char) : Except SqlError Location := do
  let cs ← withoutAuthority cs
  let (path, query) := splitAt '?' (splitAt '#' cs).1
  let options := options query
  let l ← options.foldlM withMode { path := decode path }
  let l ← l.withSystem ((options.filter (·.1 == "vfs")).map (·.2))
  return { l with
    immutable := (options.lookup "immutable").any isSwitchedOn
    model := options.lookup "modeof" }

def ofPath (path : String) : Except SqlError Location :=
  match path.toList with
  | 'f' :: 'i' :: 'l' :: 'e' :: ':' :: cs => ofAddress cs
  | _ => .ok { path }

end Location

end Vacancy
