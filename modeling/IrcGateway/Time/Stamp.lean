/-!
# Time stamps of lines

A line is dated either with a moment given in Unix milliseconds or with the moment it is written,
which only the outer layer can read off a clock. The text of a moment is its date and time in UTC
with three decimals of the second; a year outside 0 to 9999 carries its sign.
-/

namespace IrcGateway.Time

/-- When a line is dated. -/
inductive Stamp where
  /-- The moment of writing. -/
  | clock
  /-- A moment in Unix milliseconds. -/
  | at (ms : Int)
  deriving DecidableEq, Repr, Inhabited

/-- A date of the Gregorian calendar, extended to all years. -/
structure Date where
  year : Int
  month : Nat
  day : Nat
  deriving DecidableEq, Repr

/-- The date that lies `days` days after 1 January 1970. The calendar repeats every 146097 days;
within such an era years are counted from 1 March, so that a leap day ends its year. -/
def Date.ofDays (days : Int) : Date :=
  let shifted := days + 719468
  let era := shifted / 146097
  let dayOfEra := (shifted % 146097).toNat
  let yearOfEra :=
    (dayOfEra - dayOfEra / 1460 + dayOfEra / 36524 - dayOfEra / 146096) / 365
  let dayOfYear := dayOfEra - (365 * yearOfEra + yearOfEra / 4 - yearOfEra / 100)
  let month := (5 * dayOfYear + 2) / 153
  { year := yearOfEra + era * 400 + (if month < 10 then 0 else 1)
    month := if month < 10 then month + 3 else month - 9
    day := dayOfYear - (153 * month + 2) / 5 + 1 }

/-- A number with at least `width` digits. -/
def padded (width n : Nat) : String :=
  let ds := Nat.toDigits 10 n
  String.ofList (List.replicate (width - ds.length) '0' ++ ds)

/-- A year: four digits from 0 to 9999, otherwise a sign and at least four digits. -/
def yearText (y : Int) : String :=
  if 0 ≤ y ∧ y ≤ 9999 then padded 4 y.toNat
  else (if y < 0 then "-" else "+") ++ padded 4 y.natAbs

/-- The moment `ms` milliseconds after the start of 1970, as text. -/
def momentText (ms : Int) : String :=
  let date := Date.ofDays (ms / 86400000)
  let inDay := (ms % 86400000).toNat
  yearText date.year ++ "-" ++ padded 2 date.month ++ "-" ++ padded 2 date.day ++ "T"
    ++ padded 2 (inDay / 3600000) ++ ":" ++ padded 2 (inDay / 60000 % 60) ++ ":"
    ++ padded 2 (inDay / 1000 % 60) ++ "." ++ padded 3 (inDay % 1000) ++ "Z"

/-- The text of a stamp, for a clock that shows `now`. -/
def Stamp.text (now : String) : Stamp → String
  | .clock => now
  | .at ms => momentText ms

/-- The stamp of an event dated in Unix seconds. A moment that no calendar date is known for is
taken to be the moment of writing. -/
def Stamp.ofSeconds (s : Int) : Stamp :=
  if -8334601228800 ≤ s ∧ s ≤ 8210266876799 then .at (s * 1000) else .clock

end IrcGateway.Time
