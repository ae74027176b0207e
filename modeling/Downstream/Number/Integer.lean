import Downstream.Text.Blank
import Downstream.Text.DecimalDigit
import Downstream.Text.Quoted

/-!
Integers as text: a sign, an optional base mark, digits of any script with single underscores
between them, and white space around the whole. Decimal texts are limited in length.
-/
namespace Downstream.Number

def maxDecimalDigits : Nat := 4300

inductive IntegerError where
  | malformed (base : Nat) (text : String)
  | tooManyDigits (count : Nat)
  /-- The integer has more decimal digits than are written. -/
  | tooLargeToWrite
  deriving DecidableEq, Repr

def IntegerError.message : IntegerError → String
  | .malformed base text =>
    s!"invalid literal for int() with base {base}: " ++
      String.ofList ((Text.quote text.toList).take 200)
  | .tooManyDigits count =>
    s!"Exceeds the limit ({maxDecimalDigits} digits) for integer string conversion: " ++
      s!"value has {count} digits; use sys.set_int_max_str_digits() to increase the limit"
  | .tooLargeToWrite =>
    s!"Exceeds the limit ({maxDecimalDigits} digits) for integer string conversion; " ++
      "use sys.set_int_max_str_digits() to increase the limit"

def isPlainBlank (c : Char) : Bool :=
  c == ' ' || (9 ≤ c.toNat && c.toNat ≤ 13)

/-- Digits and spaces of other scripts become plain ones; any other foreign character ends the text
as one that no integer holds. -/
def plainDigits : List Char → List Char
  | [] => []
  | c :: cs =>
    if c.toNat < 127 then c :: plainDigits cs
    else if c.toNat < 128 then ['?']
    else if Text.isBlank c then ' ' :: plainDigits cs
    else
      match Text.decimalValue? c with
      | some d => Text.hexDigit d :: plainDigits cs
      | none => ['?']

def digitValue? (c : Char) : Option Nat :=
  let n := c.toNat
  if '0' ≤ c && c ≤ '9' then some (n - 48)
  else if 'a' ≤ c && c ≤ 'z' then some (n - 87)
  else if 'A' ≤ c && c ≤ 'Z' then some (n - 55)
  else none

def isDigitOf (base : Nat) (c : Char) : Bool :=
  (digitValue? c).any (· < base)

def digitsValue (base : Nat) (digits : List Char) : Nat :=
  digits.foldl (fun acc c => acc * base + (digitValue? c).getD 0) 0

def underscoresSingle (run : List Char) : Bool :=
  run.head? != some '_' && run.getLast? != some '_' && !(run.zip run.tail).contains ('_', '_')

def dropBaseMark (base : Nat) : List Char → List Char
  | '0' :: c :: rest =>
    if (base = 16 && (c = 'x' || c = 'X')) || (base = 8 && (c = 'o' || c = 'O'))
        || (base = 2 && (c = 'b' || c = 'B')) then
      match rest with
      | '_' :: digits => digits
      | digits => digits
    else '0' :: c :: rest
  | cs => cs

/-- The integer that a text stands for in a base. Only bases that are no power of two have the
limit on the count of digits. -/
def readInteger (base : Nat) (text : String) : Except IntegerError Int :=
  let malformed := IntegerError.malformed base text
  let body := (plainDigits text.toList).dropWhile isPlainBlank
  let (negative, body) :=
    match body with
    | '-' :: rest => (true, rest)
    | '+' :: rest => (false, rest)
    | rest => (false, rest)
  let body := dropBaseMark base body
  let run := body.takeWhile fun c => c == '_' || isDigitOf base c
  let rest := body.drop run.length
  let digits := run.filter (· != '_')
  if !underscoresSingle run then .error malformed
  else if base = 10 && maxDecimalDigits < digits.length then .error (.tooManyDigits digits.length)
  else if digits.isEmpty || !rest.all isPlainBlank then .error malformed
  else
    let size : Int := digitsValue base digits
    .ok (if negative then -size else size)

def writeInteger (n : Int) : Except IntegerError String :=
  let text := toString n
  if maxDecimalDigits < (toString n.natAbs).length then .error .tooLargeToWrite else .ok text

end Downstream.Number
