namespace PoliteCrawl.Time

/-- Seconds since 1970 began, and nanoseconds into that second. More than a whole second of them is
a leap second. -/
structure Moment where
  seconds : Int
  nanos : Nat := 0
  deriving DecidableEq, Repr

/-- Days before a month in a year that begins with March. -/
def daysBeforeMonth (month : Nat) : Nat := (153 * month + 2) / 5

/-- Days from the start of March in year zero to the start of 1970. -/
def epochDay : Int := 719468

def dateOf (days : Int) : Int × Nat × Nat :=
  let day := days + epochDay
  let era := day.fdiv 146097
  let dayOfEra := (day - era * 146097).toNat
  let yearOfEra := (dayOfEra - dayOfEra / 1460 + dayOfEra / 36524 - dayOfEra / 146096) / 365
  let dayOfYear := dayOfEra - (365 * yearOfEra + yearOfEra / 4 - yearOfEra / 100)
  let fromMarch := (5 * dayOfYear + 2) / 153
  let month := if fromMarch < 10 then fromMarch + 3 else fromMarch - 9
  let year := era * 400 + yearOfEra + (if month ≤ 2 then 1 else 0)
  (year, month, dayOfYear - daysBeforeMonth fromMarch + 1)

def padded (width n : Nat) : String :=
  let digits := Nat.toDigits 10 n
  String.ofList (List.replicate (width - digits.length) '0' ++ digits)

/-- Four digits for a year of four; any other has a sign. -/
def yearText (year : Int) : String :=
  if 0 ≤ year ∧ year ≤ 9999 then padded 4 year.toNat
  else (if year < 0 then "-" else "+") ++ padded 4 year.natAbs

/-- As few of none, three, six and nine places as hold all of it. -/
def fractionText (nanos : Nat) : String :=
  if nanos = 0 then ""
  else if nanos % 1000000 = 0 then "." ++ padded 3 (nanos / 1000000)
  else if nanos % 1000 = 0 then "." ++ padded 6 (nanos / 1000)
  else "." ++ padded 9 nanos

def Moment.text (m : Moment) : String :=
  let (year, month, day) := dateOf (m.seconds.fdiv 86400)
  let inDay := (m.seconds.fmod 86400).toNat
  let second := inDay % 60 + m.nanos / 1000000000
  s!"{yearText year}-{padded 2 month}-{padded 2 day}T{padded 2 (inDay / 3600)}:" ++
    s!"{padded 2 (inDay / 60 % 60)}:{padded 2 second}{fractionText (m.nanos % 1000000000)}+00:00"

end PoliteCrawl.Time
