import Downstream.Number.Integer
import Downstream.Yaml.Failure
import Downstream.Yaml.PlainType

/-!
Moments written in a YAML document. What a moment is used for needs no more than that it exists in
the calendar, so that is all that is checked.
-/
namespace Downstream.Yaml

namespace TimestampText

def isLeapYear (year : Nat) : Bool :=
  year % 4 = 0 && (year % 100 != 0 || year % 400 = 0)

def daysIn (year month : Nat) : Nat :=
  if month = 2 then if isLeapYear year then 29 else 28
  else if [4, 6, 9, 11].contains month then 30
  else 31

def valueOf (digits : List Char) : Nat :=
  Number.digitsValue 10 digits

def checkDay (t : TimestampText) : Except CalendarError Unit := do
  let year := valueOf t.year
  let month := valueOf t.month
  let day := valueOf t.day
  if year = 0 then throw (.year year)
  if month = 0 || 12 < month then throw .month
  if day = 0 || daysIn year month < day then throw .day

def checkTime (time : List Char × List Char × List Char) : Except CalendarError Unit := do
  let (hour, minute, second) := time
  if 23 < valueOf hour then throw .hour
  if 59 < valueOf minute then throw .minute
  if 59 < valueOf second then throw .second

def checkZone (zone : Char × List Char × List Char) : Except CalendarError Unit := do
  let (sign, hours, minutes) := zone
  let size : Int := valueOf hours * 3600 + valueOf minutes * 60
  let offset := if sign = '-' then -size else size
  if 86400 ≤ size then throw (.offset offset)

/-- Checks that a moment exists: its zone first, then its day, then its time. -/
def check (t : TimestampText) : Except CalendarError Unit := do
  match t.time with
  | none => t.checkDay
  | some time =>
    match t.zone with
    | some zone => checkZone zone
    | none => pure ()
    t.checkDay
    checkTime time

end TimestampText

def checkTimestamp (text : String) : Except Failure Unit :=
  match TimestampText.parse? (dropFinalBreak text.toList) with
  | none => .error .notADate
  | some t =>
    match t.check with
    | .ok _ => .ok ()
    | .error e => .error (.calendar e)

end Downstream.Yaml
