import Vacancy.View

/-!
The rules that a new chart starts with.
-/

namespace Vacancy.View

def pieQuarters : List (Int64 × Int64) :=
  [(0, 25), (26, 50), (51, 75), (76, 100)]

def pieStarter : List Parameter :=
  (pieQuarters.zipIdx.map fun ((start, last), i) =>
    Parameter.groupNamed (toString i)
      ("空き家推定確率" ++ toString start.toInt ++ "~" ++ toString last.toInt ++ "%")
      (Condition.range .floatRange (.integer start) true (.integer last) true)) ++
    [.aggregation .count]

def takeBytes? : Nat → List Char → Option (List Char)
  | 0, _ => some []
  | _ + 1, [] => none
  | n + 1, c :: cs =>
    if c.utf8Size ≤ n + 1 then (takeBytes? (n + 1 - c.utf8Size) cs).map (c :: ·) else none

def yearOf? (date : String) : Option String :=
  (takeBytes? 4 date.toList).map String.ofList

/-- One rule for each date that has a year, labelled with it, and the average. -/
def lineStarter (dates : List String) : List Parameter :=
  ((dates.filterMap fun date => (yearOf? date).map (date, ·)).zipIdx.map fun ((date, year), i) =>
    Parameter.groupNamed (toString i) (year ++ "年") (Condition.compare .date .eq (.text date))) ++
    [.aggregation .average]

end Vacancy.View
