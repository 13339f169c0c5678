import PublishGate.Text.Decimal

/-! # Points in time and their RFC 3339 text -/

namespace PublishGate

/-- Seconds since the start of 1970 in UTC, leap seconds not counted, and nanoseconds after. -/
structure Instant where
  seconds : Int
  nanos : Nat
  deriving DecidableEq, Repr

/-- A day of the Gregorian calendar, extended to all years; year 0 is the one before year 1. -/
structure CalendarDay where
  year : Int
  month : Nat
  day : Nat
  deriving DecidableEq, Repr

namespace CalendarDay

/-- The day with the given number of days after 1 March of year 0. Years are counted from March, so
that a leap day is the last of its year; 400 such years have 146097 days. -/
def ofMarchDays (n : Int) : CalendarDay :=
  let era := n.fdiv 146097
  let dayOfEra := (n.fmod 146097).toNat
  let yearOfEra :=
    (dayOfEra - dayOfEra / 1460 + dayOfEra / 36524 - dayOfEra / 146096) / 365
  let dayOfYear := dayOfEra - (365 * yearOfEra + yearOfEra / 4 - yearOfEra / 100)
  let marchMonth := (5 * dayOfYear + 2) / 153
  let day := dayOfYear - (153 * marchMonth + 2) / 5 + 1
  let month := if marchMonth < 10 then marchMonth + 3 else marchMonth - 9
  let year := era * 400 + (yearOfEra : Int) + (if month ≤ 2 then 1 else 0)
  ⟨year, month, day⟩

def epoch : Int := 719468

/-- Four digits for the years 0 to 9999, and a sign with at least four digits for all others. -/
def yearText (y : Int) : List Char :=
  if 0 ≤ y ∧ y ≤ 9999 then Text.padded 4 y.toNat
  else (if y < 0 then '-' else '+') :: Text.padded 4 y.natAbs

end CalendarDay

namespace Instant

/-- No fraction, or one of 3, 6 or 9 digits, the shortest that is exact. -/
def fractionText (nanos : Nat) : List Char :=
  if nanos = 0 then []
  else if nanos % 1000000 = 0 then '.' :: Text.padded 3 (nanos / 1000000)
  else if nanos % 1000 = 0 then '.' :: Text.padded 6 (nanos / 1000)
  else '.' :: Text.padded 9 nanos

def text (t : Instant) : String :=
  let date := CalendarDay.ofMarchDays (t.seconds.fdiv 86400 + CalendarDay.epoch)
  let second := (t.seconds.fmod 86400).toNat
  String.ofList (CalendarDay.yearText date.year ++ '-' :: (Text.padded 2 date.month ++
    '-' :: (Text.padded 2 date.day ++ 'T' :: (Text.padded 2 (second / 3600) ++
    ':' :: (Text.padded 2 (second / 60 % 60) ++ ':' :: (Text.padded 2 (second % 60) ++
    (fractionText t.nanos ++ ['Z'])))))))

end Instant

end PublishGate
