import Downstream.Number.Integer
import Downstream.Yaml.Complaint

/-!
Why a YAML document has no value. Most documents are refused because they break the format; a few
have the right form but hold a scalar that its tag cannot read.
-/
namespace Downstream.Yaml

inductive CalendarError where
  | year (value : Nat)
  | month
  | day
  | hour
  | minute
  | second
  | offset (seconds : Int)
  deriving DecidableEq, Repr

namespace CalendarError

def spanText (seconds : Int) : String :=
  let days := seconds / 86400
  let rest := seconds % 86400
  let parts := (if days = 0 then [] else ["days=" ++ toString days])
    ++ (if rest = 0 then [] else ["seconds=" ++ toString rest])
  "datetime.timedelta(" ++ ", ".intercalate (if parts.isEmpty then ["0"] else parts) ++ ")"

def message : CalendarError → String
  | .year value => "year " ++ toString value ++ " is out of range"
  | .month => "month must be in 1..12"
  | .day => "day is out of range for month"
  | .hour => "hour must be in 0..23"
  | .minute => "minute must be in 0..59"
  | .second => "second must be in 0..59"
  | .offset seconds =>
    "offset must be a timedelta strictly between -timedelta(hours=24) and timedelta(hours=24), not "
      ++ spanText seconds ++ "."

end CalendarError

inductive Failure where
  | malformed (complaint : Complaint)
  /-- An escape in a quoted scalar names no character. -/
  | noSuchCharacter
  /-- An escape in a quoted scalar names a number too large even to be looked up. -/
  | characterOverflow
  | integer (error : Number.IntegerError)
  | emptyNumber
  | notAFloat (text : String)
  /-- A part of a sexagesimal number weighs more than any float. -/
  | floatOverflow
  | notABool (text : String)
  | calendar (error : CalendarError)
  | notADate
  | dateFromCollection
  /-- Collections are nested too deep, or a scalar is its own value. -/
  | tooDeep
  deriving DecidableEq, Repr

def Failure.message : Failure → String
  | .malformed complaint => complaint.problem.text
  | .noSuchCharacter => "chr() arg not in range(0x110000)"
  | .characterOverflow => "Python int too large to convert to C int"
  | .integer error => error.message
  | .emptyNumber => "string index out of range"
  | .notAFloat text => "could not convert string to float: " ++ Text.quoted text
  | .floatOverflow => "int too large to convert to float"
  | .notABool text => Text.quoted text
  | .calendar error => error.message
  | .notADate => "'NoneType' object has no attribute 'groupdict'"
  | .dateFromCollection => "expected string or bytes-like object, got 'list'"
  | .tooDeep => "maximum recursion depth exceeded"

structure Stream (α : Type) where
  items : List α
  failure : Option Failure

end Downstream.Yaml
