import Downstream.Json.Basic
import Downstream.Text.Half

/-!
Reading JSON texts. A text that is no JSON is refused at the place where reading stopped, given as a
count of characters. The words NaN, Infinity and -Infinity are read as numbers. Half of a pair of
escaped code units is kept as a half, and values are nested only so deep.
-/
namespace Downstream.Json

inductive Defect where
  | expectedValue
  | expectedName
  | expectedColon
  | expectedComma
  | unterminatedString
  | invalidEscape
  | invalidCodeEscape
  | controlCharacter
  | extraText
  | tooManyDigits
  | tooDeep
  deriving DecidableEq, Repr

structure Refusal where
  defect : Defect
  rest : List Char
  deriving Repr

abbrev Reader (α : Type) := List Char → Except Refusal (α × List Char)

def isSpace (c : Char) : Bool :=
  c == ' ' || c == '\t' || c == '\n' || c == '\r'

def skipSpace (cs : List Char) : List Char :=
  cs.dropWhile isSpace

def escaped? : Char → Option Char
  | '"' => some '"'
  | '\\' => some '\\'
  | '/' => some '/'
  | 'b' => some '\u0008'
  | 'f' => some '\u000c'
  | 'n' => some '\n'
  | 'r' => some '\r'
  | 't' => some '\t'
  | _ => none

def hexQuad? : List Char → Option (Nat × List Char)
  | a :: b :: c :: d :: e :: rest =>
    if [a, b, c, d].all (Number.isDigitOf 16) then
      some (Number.digitsValue 16 [a, b, c, d], e :: rest)
    else none
  | _ => none

/-- Reads the body of a string up to its closing quote; `opening` is the text from the opening one
on, and `done` holds the characters read, last first. -/
def readStringBody (opening : List Char) : (steps : Nat) → (done cs : List Char) →
    Except Refusal (String × List Char)
  | 0, _, _ => .error ⟨.unterminatedString, opening⟩
  | _, _, [] => .error ⟨.unterminatedString, opening⟩
  | _, done, '"' :: rest => .ok (String.ofList done.reverse, rest)
  | _, _, ['\\'] => .error ⟨.unterminatedString, opening⟩
  | steps + 1, done, '\\' :: 'u' :: rest =>
    match hexQuad? rest with
    | none => .error ⟨.invalidCodeEscape, 'u' :: rest⟩
    | some (unit, after) =>
      match Text.isHighUnit unit, after with
      | true, '\\' :: 'u' :: low =>
        if low.length < 5 then readStringBody opening steps (Text.charOfUnit unit :: done) after
        else
          match hexQuad? low with
          | none => .error ⟨.invalidCodeEscape, 'u' :: low⟩
          | some (second, afterLow) =>
            if Text.isLowUnit second then
              readStringBody opening steps (Text.charOfPair unit second :: done) afterLow
            else readStringBody opening steps (Text.charOfUnit unit :: done) after
      | _, _ => readStringBody opening steps (Text.charOfUnit unit :: done) after
  | steps + 1, done, '\\' :: c :: rest =>
    match escaped? c with
    | some plain => readStringBody opening steps (plain :: done) rest
    | none => .error ⟨.invalidEscape, '\\' :: c :: rest⟩
  | steps + 1, done, c :: rest =>
    if c.toNat < 0x20 then .error ⟨.controlCharacter, c :: rest⟩
    else readStringBody opening steps (c :: done) rest

def readString : Reader String := fun cs =>
  readStringBody ('"' :: cs) (cs.length + 1) [] cs

def spanDigits (cs : List Char) : List Char × List Char :=
  cs.span Char.isDigit

def spanFraction : List Char → List Char × List Char
  | '.' :: rest =>
    match spanDigits rest with
    | ([], _) => ([], '.' :: rest)
    | (digits, after) => ('.' :: digits, after)
  | cs => ([], cs)

def spanExponent : List Char → List Char × List Char
  | c :: rest =>
    if c = 'e' || c = 'E' then
      let (sign, digitsFrom) :=
        match rest with
        | '+' :: after => (['+'], after)
        | '-' :: after => (['-'], after)
        | after => ([], after)
      match spanDigits digitsFrom with
      | ([], _) => ([], c :: rest)
      | (digits, after) => (c :: sign ++ digits, after)
    else ([], c :: rest)
  | [] => ([], [])

def finishNumber (negative : Bool) (whole after : List Char) : Except Refusal (Json × List Char) :=
  let (fraction, after) := spanFraction after
  let (exponent, after) := spanExponent after
  if fraction.isEmpty && exponent.isEmpty then
    if Number.maxDecimalDigits < whole.length then .error ⟨.tooManyDigits, after⟩
    else
      let size : Int := Number.digitsValue 10 whole
      .ok (.int (if negative then -size else size), after)
  else
    let bits := (Number.unsignedBits? (whole ++ fraction ++ exponent)).getD Number.nanBits
    .ok (.real (if negative then Number.negateBits bits else bits), after)

/-- Reads a number: an integer part without leading zeros, a fraction and an exponent. -/
def readNumber : Reader Json := fun cs =>
  let (negative, digitsFrom) :=
    match cs with
    | '-' :: rest => (true, rest)
    | rest => (false, rest)
  match digitsFrom with
  | '0' :: rest => finishNumber negative ['0'] rest
  | c :: rest =>
    if c.isDigit then
      let (digits, after) := spanDigits (c :: rest)
      finishNumber negative digits after
    else .error ⟨.expectedValue, cs⟩
  | [] => .error ⟨.expectedValue, cs⟩

def words : List (String × Json) :=
  [("null", .null), ("true", .bool true), ("false", .bool false), ("NaN", .real Number.nanBits),
    ("Infinity", .real Number.infinityBits),
    ("-Infinity", .real (Number.negateBits Number.infinityBits))]

def readWord? (cs : List Char) : Option (Json × List Char) :=
  words.findSome? fun (word, value) =>
    if word.toList.isPrefixOf cs then some (value, cs.drop word.length) else none

def maxNesting : Nat := 960

mutual

def readValue (nesting : Nat) : (steps : Nat) → Reader Json
  | 0, cs => .error ⟨.expectedValue, cs⟩
  | _, [] => .error ⟨.expectedValue, []⟩
  | steps + 1, c :: rest =>
    if c = '"' then do
      let (value, after) ← readString rest
      return (.str value, after)
    else if (c = '\x7b' || c = '[') && maxNesting ≤ nesting then .error ⟨.tooDeep, c :: rest⟩
    else if c = '\x7b' then
      match skipSpace rest with
      | '\x7d' :: after => .ok (.obj [], after)
      | body => readMembers (nesting + 1) steps [] body
    else if c = '[' then
      match skipSpace rest with
      | ']' :: after => .ok (.arr [], after)
      | body => readItems (nesting + 1) steps [] body
    else
      match readWord? (c :: rest) with
      | some found => .ok found
      | none => readNumber (c :: rest)

def readItems (nesting : Nat) : (steps : Nat) → (done : List Json) → Reader Json
  | 0, _, cs => .error ⟨.expectedValue, cs⟩
  | steps + 1, done, cs => do
    let (item, after) ← readValue nesting steps cs
    match skipSpace after with
    | ']' :: rest => return (.arr (item :: done).reverse, rest)
    | ',' :: rest => readItems nesting steps (item :: done) (skipSpace rest)
    | other => .error ⟨.expectedComma, other⟩

def readMembers (nesting : Nat) : (steps : Nat) → (done : List (String × Json)) → Reader Json
  | 0, _, cs => .error ⟨.expectedName, cs⟩
  | steps + 1, done, '"' :: cs => do
    let (key, after) ← readString cs
    match skipSpace after with
    | ':' :: rest =>
      let (value, after) ← readValue nesting steps (skipSpace rest)
      match skipSpace after with
      | '\x7d' :: rest => return (.obj ((key, value) :: done).reverse, rest)
      | ',' :: rest => readMembers nesting steps ((key, value) :: done) (skipSpace rest)
      | other => .error ⟨.expectedComma, other⟩
    | other => .error ⟨.expectedColon, other⟩
  | _, _, cs => .error ⟨.expectedName, cs⟩

end

/-- Reads a text that holds one value and nothing else but white space. Reading takes at most two
steps for a character. -/
def readText (cs : List Char) : Except Refusal Json := do
  let (value, after) ← readValue 0 (2 * cs.length + 2) (skipSpace cs)
  match skipSpace after with
  | [] => return value
  | other => .error ⟨.extraText, other⟩

structure ParseError where
  defect : Defect
  offset : Nat
  deriving DecidableEq, Repr

def parse (text : String) : Except ParseError Json :=
  let cs := text.toList
  match readText cs with
  | .ok value => .ok value
  | .error refusal => .error ⟨refusal.defect, cs.length - refusal.rest.length⟩

end Downstream.Json
