import Vacancy.Failure
import Vacancy.Sql.Affinity

/-!
Functions of all values of a group. All but the count of rows skip null. Integers are added exactly;
with a double among them, or beyond 64 bits, the sum is a double with a running compensation of its
rounding.
-/

namespace Vacancy.Sql

inductive Aggregate where
  | count
  | sum
  | total
  | average
  | least
  | greatest
  | joined
  deriving DecidableEq

inductive Addend where
  | integer (n : Int64)
  | real (x : Float)

def addend? : Value → Option Addend
  | .null => none
  | .integer n => some (.integer n)
  | .real x => some (.real x)
  | .text s =>
    match wholeNumber? s with
    | some (.integer n) => some (.integer n)
    | some (.real x) => some (.real x)
    | _ => some (.real (leadingNumber s))

/-- A sum of doubles and the rounding that it lost. -/
structure Compensated where
  sum : Float
  error : Float

namespace Compensated

def add (c : Compensated) (x : Float) : Compensated :=
  let t := c.sum + x
  let lost := if x.abs < c.sum.abs then (c.sum - t) + x else (x - t) + c.sum
  ⟨t, c.error + lost⟩

/-- Integers that a double may round are split in two parts that it does not. -/
def split (n : Int) : Int × Int :=
  if Decimal.pow2 52 ≤ n.natAbs then (n - n.tmod 16384, n.tmod 16384) else (n, 0)

def ofInt (n : Int) : Compensated :=
  ⟨Float.ofInt (split n).1, Float.ofInt (split n).2⟩

def addInt (c : Compensated) (n : Int) : Compensated :=
  match split n with
  | (big, 0) => c.add (Float.ofInt big)
  | (big, small) => (c.add (Float.ofInt big)).add (Float.ofInt small)

def value (c : Compensated) : Float :=
  if c.error.isFinite then c.sum + c.error else c.sum

end Compensated

inductive Sum where
  | exact (n : Int64)
  /-- The sum of integers left 64 bits, and no double has been added since. -/
  | approximate (c : Compensated) (overflowed : Bool)

namespace Sum

def add : Sum → Addend → Sum
  | .exact s, .integer n =>
    match Decimal.int64? (s.toInt + n.toInt) with
    | some t => .exact t
    | none => .approximate ((Compensated.ofInt s.toInt).addInt n.toInt) true
  | .exact s, .real x => .approximate ((Compensated.ofInt s.toInt).add x) false
  | .approximate c o, .integer n => .approximate (c.addInt n.toInt) o
  | .approximate c _, .real x => .approximate (c.add x) false

def ofAddends (xs : List Addend) : Sum :=
  xs.foldl add (.exact 0)

end Sum

def sumOf (vs : List Value) : Except SqlError Value :=
  match vs.filterMap addend? with
  | [] => .ok .null
  | xs =>
    match Sum.ofAddends xs with
    | .exact n => .ok (.integer n)
    | .approximate c false => .ok (Value.bound (.real c.value))
    | .approximate _ true => .error .overflow

def doubleSum (xs : List Addend) : Float :=
  match Sum.ofAddends xs with
  | .exact n => Float.ofInt n.toInt
  | .approximate c _ => c.value

def averageOf (vs : List Value) : Value :=
  match vs.filterMap addend? with
  | [] => .null
  | xs => Value.bound (.real (doubleSum xs / Float.ofInt xs.length))

def totalOf (vs : List Value) : Value :=
  Value.bound (.real (doubleSum (vs.filterMap addend?)))

namespace Aggregate

/-- Whether the result is one of the values, so that it stands in one of the rows. -/
def isExtreme : Aggregate → Bool
  | .least | .greatest => true
  | _ => false

def improves (a : Aggregate) (v best : Value) : Bool :=
  match a with
  | .least => (SortKey.ofValue v).lt (.ofValue best)
  | .greatest => (SortKey.ofValue best).lt (.ofValue v)
  | _ => false

def better (a : Aggregate) (best v : Value) : Value :=
  if v.isNull then best else if best.isNull || a.improves v best then v else best

end Aggregate

def leastOf (vs : List Value) : Value :=
  vs.foldl Aggregate.least.better .null

def greatestOf (vs : List Value) : Value :=
  vs.foldl Aggregate.greatest.better .null

def joinedOf (vs : List (List Value)) : Value :=
  let parts := vs.filterMap fun args =>
    match args.map Value.toText with
    | [.text s] => some (",", s)
    | [.text s, .text separator] => some (separator, s)
    | [.text s, _] => some ("", s)
    | _ => none
  match parts with
  | [] => .null
  | (_, s) :: rest => .text (rest.foldl (fun t (separator, s) => t ++ separator ++ s) s)

def Aggregate.apply (a : Aggregate) (args : List (List Value)) : Except SqlError Value :=
  let values := args.filterMap List.head?
  match a with
  | .count =>
    .ok (.integer (Int64.ofNat (args.countP fun vs => vs.head?.all (!·.isNull))))
  | .sum => sumOf values
  | .total => .ok (totalOf values)
  | .average => .ok (averageOf values)
  | .least => .ok (leastOf values)
  | .greatest => .ok (greatestOf values)
  | .joined => .ok (joinedOf args)

end Vacancy.Sql
