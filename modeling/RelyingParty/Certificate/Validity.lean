import RelyingParty.Asn1.Reader
import RelyingParty.Certificate.Calendar

namespace RelyingParty.Certificate

open Asn1 (Reader)
open Calendar (DateTime)

structure Validity where
  notBefore : Timestamp
  notAfter : Timestamp

def Validity.includes (v : Validity) (time : Timestamp) : Bool :=
  v.notBefore ≤ time && time ≤ v.notAfter

def twoDigits? : Bytes → Option (Nat × Bytes)
  | a :: b :: rest =>
    if 48 ≤ a ∧ a ≤ 57 ∧ 48 ≤ b ∧ b ≤ 57 then some ((a.toNat - 48) * 10 + (b.toNat - 48), rest)
    else none
  | _ => none

def seconds (bs : Bytes) : Nat × Bytes := (twoDigits? bs).getD (0, bs)

/-- What a time is ahead of UTC, in seconds: a letter for UTC, or hours and minutes with a sign. -/
def zone? : Bytes → Option Int
  | [0x5a] => some 0
  | sign :: digits => do
    let (hours, rest) ← twoDigits? digits
    let (minutes, rest) ← twoDigits? rest
    let offset : Int := (hours * 60 + minutes) * 60
    if rest = [] ∧ hours ≤ 12 ∧ minutes ≤ 59 then
      if sign = 0x2b then some offset else if sign = 0x2d then some (-offset) else none
    else none
  | [] => none

/-- The point in time of a year and what is written after it: month, day, hours, minutes, perhaps
seconds, and the zone. -/
def timeInYear? (year : Int) (bs : Bytes) : Option Timestamp := do
  let (month, bs) ← twoDigits? bs
  let (day, bs) ← twoDigits? bs
  let (hour, bs) ← twoDigits? bs
  let (minute, bs) ← twoDigits? bs
  let (second, bs) := seconds bs
  let offset ← zone? bs
  let date : DateTime := ⟨year, month, day, hour, minute, second⟩
  if date.isValid then some (date.toTimestamp - offset) else none

/-- The point in time of a text whose year has two digits, of the century from 1950. -/
def utcTime? (bs : Bytes) : Option Timestamp := do
  let (year, rest) ← twoDigits? bs
  timeInYear? (if 50 ≤ year then 1900 + year else 2000 + year) rest

/-- The point in time of a text whose year has four digits; it is one of UTC. -/
def generalizedTime? (bs : Bytes) : Option Timestamp := do
  let (century, rest) ← twoDigits? bs
  let (year, rest) ← twoDigits? rest
  if rest.getLast? = some 0x5a then timeInYear? (century * 100 + year : Nat) rest else none

def time : Reader Timestamp := do
  let e ← Reader.element
  let time? :=
    if e.number = Asn1.utcTimeNumber then utcTime? e.content
    else if e.number = Asn1.generalizedTimeNumber then generalizedTime? e.content
    else none
  match time? with
  | some t => pure t
  | none => failure

def Validity.read : Reader Validity := Reader.sequence do
  let notBefore ← time
  let notAfter ← time
  pure ⟨notBefore, notAfter⟩

end RelyingParty.Certificate
