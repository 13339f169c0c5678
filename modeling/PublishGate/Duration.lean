import PublishGate.Text.Decimal

/-! # Spans of time and the units they are written in -/

namespace PublishGate

/-- A span of whole seconds and nanoseconds, the seconds within an unsigned word of 64 bits. -/
structure Duration where
  seconds : Nat
  nanos : Nat
  seconds_lt : seconds < 0x10000000000000000 := by decide
  nanos_lt : nanos < 1000000000 := by decide
  deriving DecidableEq, Repr

/-- The units of time. A month is 30.44 days and a year 365.25 days. -/
inductive TimeUnit where
  | nanosecond
  | microsecond
  | millisecond
  | second
  | minute
  | hour
  | day
  | week
  | month
  | year
  deriving DecidableEq, Repr

namespace TimeUnit

def names : TimeUnit → List String
  | nanosecond => ["nanos", "nsec", "ns"]
  | microsecond => ["usec", "us", "µs"]
  | millisecond => ["millis", "msec", "ms"]
  | second => ["seconds", "second", "secs", "sec", "s"]
  | minute => ["minutes", "minute", "min", "mins", "m"]
  | hour => ["hours", "hour", "hr", "hrs", "h"]
  | day => ["days", "day", "d"]
  | week => ["weeks", "week", "wk", "wks", "w"]
  | month => ["months", "month", "M"]
  | year => ["years", "year", "yr", "yrs", "y"]

def all : List TimeUnit :=
  [nanosecond, microsecond, millisecond, second, minute, hour, day, week, month, year]

def ofName? (name : String) : Option TimeUnit :=
  all.find? (·.names.contains name)

def length : TimeUnit → Nat × Nat
  | nanosecond => (0, 1)
  | microsecond => (0, 1000)
  | millisecond => (0, 1000000)
  | second => (1, 0)
  | minute => (60, 0)
  | hour => (3600, 0)
  | day => (86400, 0)
  | week => (604800, 0)
  | month => (2630016, 0)
  | year => (31557600, 0)

/-- The length that fractions of the unit are taken of. Up to a minute it is counted in
nanoseconds, above in seconds, and a nanosecond has no fractions. -/
def divisible? : TimeUnit → Option (Nat × Nat)
  | nanosecond => none
  | second => some (0, 1000000000)
  | minute => some (0, 60000000000)
  | u => some u.length

end TimeUnit

namespace Duration

def zero : Duration := ⟨0, 0, by decide, by decide⟩

instance : Inhabited Duration := ⟨zero⟩

def plus? (d : Duration) (seconds nanos : Nat) : Option Duration :=
  let n := d.nanos + nanos
  if h : d.seconds + seconds + n / 1000000000 < 0x10000000000000000 then
    if n < 0x10000000000000000 then
      some ⟨d.seconds + seconds + n / 1000000000, n % 1000000000, h, Nat.mod_lt _ (by decide)⟩
    else none
  else none

end Duration

end PublishGate
