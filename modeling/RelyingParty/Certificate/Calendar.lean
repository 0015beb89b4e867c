namespace RelyingParty

abbrev Timestamp := Int

namespace Calendar

structure DateTime where
  year : Int
  month : Nat
  day : Nat
  hour : Nat
  minute : Nat
  second : Nat
  deriving DecidableEq

def isLeapYear (year : Int) : Bool :=
  year % 4 = 0 && (year % 100 ≠ 0 || year % 400 = 0)

def daysInMonth (year : Int) (month : Nat) : Nat :=
  if month = 2 then (if isLeapYear year then 29 else 28)
  else if month = 4 ∨ month = 6 ∨ month = 9 ∨ month = 11 then 30
  else 31

def DateTime.isValid (t : DateTime) : Bool :=
  1 ≤ t.month && t.month ≤ 12 && 1 ≤ t.day && t.day ≤ daysInMonth t.year t.month
    && t.hour < 24 && t.minute < 60 && t.second < 60

/-- The days from the beginning of 1970 to a date. Years are taken to begin in March, so that a leap
day is the last of its year. -/
def daysFromDate (year : Int) (month day : Nat) : Int :=
  let y := if month ≤ 2 then year - 1 else year
  let shifted : Int := if month ≤ 2 then month + 9 else month - 3
  365 * y + y / 4 - y / 100 + y / 400 + (153 * shifted + 2) / 5 + day - 719469

def dateOfDays (days : Int) : Int × Nat × Nat :=
  let z := days + 719468
  let era := z / 146097
  let dayOfEra := z % 146097
  let yearOfEra := (dayOfEra - dayOfEra / 1460 + dayOfEra / 36524 - dayOfEra / 146096) / 365
  let dayOfYear := dayOfEra - (365 * yearOfEra + yearOfEra / 4 - yearOfEra / 100)
  let shifted := (5 * dayOfYear + 2) / 153
  let day := dayOfYear - (153 * shifted + 2) / 5 + 1
  let month := if shifted < 10 then shifted + 3 else shifted - 9
  let year := yearOfEra + era * 400 + (if month ≤ 2 then 1 else 0)
  (year, month.toNat, day.toNat)

def DateTime.toTimestamp (t : DateTime) : Timestamp :=
  daysFromDate t.year t.month t.day * 86400 + (t.hour * 3600 + t.minute * 60 + t.second : Nat)

def DateTime.ofTimestamp (seconds : Timestamp) : DateTime :=
  let (year, month, day) := dateOfDays (seconds / 86400)
  let inDay := (seconds % 86400).toNat
  ⟨year, month, day, inDay / 3600, inDay / 60 % 60, inDay % 60⟩

def monthName (month : Nat) : String :=
  ["Jan", "Feb", "Mar", "Apr", "May", "Jun", "Jul", "Aug", "Sep", "Oct", "Nov", "Dec"].getD (month - 1) ""

def padLeft (filler : Char) (width n : Nat) : String :=
  let digits := toString n
  String.ofList (List.replicate (width - digits.length) filler) ++ digits

def toText (seconds : Timestamp) : String :=
  let t := DateTime.ofTimestamp seconds
  monthName t.month ++ " " ++ padLeft ' ' 2 t.day ++ " " ++ padLeft '0' 2 t.hour ++ ":"
    ++ padLeft '0' 2 t.minute ++ ":" ++ padLeft '0' 2 t.second ++ " " ++ toString t.year ++ " +00:00"

def lastTimestamp : Timestamp := (DateTime.mk 9999 12 31 23 59 59).toTimestamp

end Calendar

end RelyingParty
