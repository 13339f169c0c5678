import PublishGate.Duration

/-! # Durations as text -/

namespace PublishGate.Duration

/-- A count with its unit, which takes an `s` if it is a word and the count is not one. -/
def item (count : Nat) (unit : String) (word : Bool) : String :=
  toString count ++ unit ++ (if word && count != 1 then "s" else "")

/-- Counts of years, months, days, hours, minutes, seconds and parts of a second that add up to
the span, each as large as it can be, with the name of the unit and whether that is a word. -/
def counts (d : Duration) : List (Nat × String × Bool) :=
  let inYear := d.seconds % 31557600
  let inMonth := inYear % 2630016
  let inDay := inMonth % 86400
  [(d.seconds / 31557600, "year", true), (inYear / 2630016, "month", true),
   (inMonth / 86400, "day", true), (inDay / 3600, "h", false), (inDay % 3600 / 60, "m", false),
   (inDay % 60, "s", false), (d.nanos / 1000000, "ms", false),
   (d.nanos / 1000 % 1000, "us", false), (d.nanos % 1000, "ns", false)]

def text (d : Duration) : String :=
  match d.counts.filter (·.1 ≠ 0) with
  | [] => "0s"
  | parts => " ".intercalate (parts.map fun (n, unit, word) => item n unit word)

end PublishGate.Duration
