import Downstream.Text.Search

/-!
The type of an untagged plain scalar, by its form: null, truth value, integer, float, timestamp,
merge key or default key, and text where it has none of these forms.
-/
namespace Downstream.Yaml

def standardTag (name : String) : String :=
  "tag:yaml.org,2002:" ++ name

namespace PlainType

def boolWords : List String :=
  ["yes", "Yes", "YES", "no", "No", "NO", "true", "True", "TRUE", "false", "False", "FALSE",
    "on", "On", "ON", "off", "Off", "OFF"]

def nullWords : List String :=
  ["", "~", "null", "Null", "NULL"]

def dropSign : List Char → List Char
  | '+' :: rest => rest
  | '-' :: rest => rest
  | cs => cs

def isSpacedDigit (c : Char) : Bool :=
  c.isDigit || c == '_'

/-- Sexagesimal places behind a text of digits: a colon and a number below sixty, at least once;
what follows them. -/
def afterPlaces : (steps : Nat) → List Char → Option (List Char)
  | 0, _ => none
  | steps + 1, ':' :: a :: b :: rest =>
    if a.isDigit && b.isDigit && a < '6' then some ((afterPlaces steps rest).getD rest)
    else if a.isDigit then some ((afterPlaces steps (b :: rest)).getD (b :: rest))
    else none
  | _, [':', a] => if a.isDigit then some [] else none
  | _, _ => none

def isExponentOrEmpty : List Char → Bool
  | [] => true
  | e :: sign :: digits =>
    (e == 'e' || e == 'E') && (sign == '+' || sign == '-') && !digits.isEmpty
      && digits.all Char.isDigit
  | _ => false

def isInteger (cs : List Char) : Bool :=
  match dropSign cs with
  | ['0'] => true
  | '0' :: 'b' :: digits => !digits.isEmpty && digits.all fun c => c == '0' || c == '1' || c == '_'
  | '0' :: 'x' :: digits =>
    !digits.isEmpty && digits.all fun c =>
      isSpacedDigit c || ('a' ≤ c && c ≤ 'f') || ('A' ≤ c && c ≤ 'F')
  | '0' :: digits => digits.all fun c => ('0' ≤ c && c ≤ '7') || c == '_'
  | c :: rest =>
    c.isDigit &&
      (rest.all isSpacedDigit
        || afterPlaces (rest.length + 1) (rest.dropWhile isSpacedDigit) == some [])
  | [] => false

def isFloat (cs : List Char) : Bool :=
  let unsigned := dropSign cs
  [".inf", ".Inf", ".INF"].any (fun word => word.toList == unsigned)
    || [".nan", ".NaN", ".NAN"].any (fun word => word.toList == cs)
    || match cs with
      | '.' :: c :: rest =>
        c.isDigit && isExponentOrEmpty (rest.dropWhile isSpacedDigit)
      | _ =>
        match unsigned with
        | c :: rest =>
          c.isDigit &&
            match rest.dropWhile isSpacedDigit with
            | '.' :: fraction => isExponentOrEmpty (fraction.dropWhile isSpacedDigit)
            | places =>
              match afterPlaces (places.length + 1) places with
              | some ('.' :: fraction) => fraction.all isSpacedDigit
              | _ => false
        | [] => false

end PlainType

/-- A moment written in digits. The parts of the time of day are absent where only a day is given,
and the distance from universal time where none is. -/
structure TimestampText where
  year : List Char
  month : List Char
  day : List Char
  time : Option (List Char × List Char × List Char)
  zone : Option (Char × List Char × List Char)
  deriving DecidableEq, Repr

namespace TimestampText

def oneOrTwo : List Char → Option (List Char × List Char)
  | a :: b :: rest =>
    if a.isDigit && b.isDigit then some ([a, b], rest)
    else if a.isDigit then some ([a], b :: rest)
    else none
  | [a] => if a.isDigit then some ([a], []) else none
  | [] => none

def two : List Char → Option (List Char × List Char)
  | a :: b :: rest => if a.isDigit && b.isDigit then some ([a, b], rest) else none
  | _ => none

def behind (c : Char) : List Char → Option (List Char)
  | d :: rest => if d = c then some rest else none
  | [] => none

def isGap (c : Char) : Bool := c == ' ' || c == '\t'

/-- The zone at the end: the letter of universal time, or a sign with hours and perhaps minutes. -/
def zone? : List Char → Option (Char × List Char × List Char)
  | ['Z'] => some ('Z', [], [])
  | c :: rest =>
    if c = '+' || c = '-' then do
      let (hours, rest) ← oneOrTwo rest
      match rest with
      | [] => return (c, hours, [])
      | rest =>
        let (minutes, rest) ← two (← behind ':' rest)
        if rest.isEmpty then return (c, hours, minutes) else none
    else none
  | [] => none

def time? (cs : List Char) :
    Option ((List Char × List Char × List Char) × Option (Char × List Char × List Char)) := do
  let cs ←
    match cs with
    | 'T' :: rest => some rest
    | 't' :: rest => some rest
    | c :: rest => if isGap c then some (rest.dropWhile isGap) else none
    | [] => none
  let (hour, cs) ← oneOrTwo cs
  let (minute, cs) ← two (← behind ':' cs)
  let (second, cs) ← two (← behind ':' cs)
  let cs :=
    match cs with
    | '.' :: rest => rest.dropWhile Char.isDigit
    | cs => cs
  if cs.isEmpty then return ((hour, minute, second), none)
  else
    let zone ← zone? (cs.dropWhile isGap)
    return ((hour, minute, second), some zone)

def parse? (cs : List Char) : Option TimestampText := do
  let year := cs.take 4
  if year.length != 4 || !year.all Char.isDigit then none
  let (month, cs) ← oneOrTwo (← behind '-' (cs.drop 4))
  let (day, cs) ← oneOrTwo (← behind '-' cs)
  match cs with
  | [] => return ⟨year, month, day, none, none⟩
  | cs =>
    let (time, zone) ← time? cs
    return ⟨year, month, day, some time, zone⟩

end TimestampText

def dropFinalBreak (cs : List Char) : List Char :=
  if cs.getLast? = some '\n' then cs.dropLast else cs

namespace PlainType

/-- Whether a text has the form of a moment; a day alone has two digits for month and day. -/
def isTimestamp (cs : List Char) : Bool :=
  match TimestampText.parse? cs with
  | some t => t.time.isSome || (t.month.length = 2 && t.day.length = 2)
  | none => false

def tagOf (text : String) : String :=
  let cs := dropFinalBreak text.toList
  let form := String.ofList cs
  if boolWords.contains form then standardTag "bool"
  else if isFloat cs then standardTag "float"
  else if isInteger cs then standardTag "int"
  else if form = "<<" then standardTag "merge"
  else if nullWords.contains form && (text = "" || form != "") then standardTag "null"
  else if isTimestamp cs then standardTag "timestamp"
  else if form = "=" then standardTag "value"
  else if form = "!" || form = "&" || form = "*" then standardTag "yaml"
  else standardTag "str"

end PlainType

end Downstream.Yaml
