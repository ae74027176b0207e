import Downstream.Yaml.Complaint

/-!
Bytes written with sixty-four characters, six bits each. Characters outside the alphabet are passed
over; padding has to complete the last group, and nothing behind it is read.
-/
namespace Downstream.Yaml.Base64

def value? (c : Char) : Option Nat :=
  let n := c.toNat
  if 'A' ≤ c && c ≤ 'Z' then some (n - 65)
  else if 'a' ≤ c && c ≤ 'z' then some (n - 71)
  else if '0' ≤ c && c ≤ '9' then some (n + 4)
  else if c = '+' then some 62
  else if c = '/' then some 63
  else none

/-- Reads on behind so many full groups, with `filled` characters of the current group read, whose
bits not yet given out are `bits`, and `padding` padding characters behind them. -/
def decodeFrom (groups filled bits padding : Nat) : List Char → Except Problem (List Nat)
  | [] =>
    if filled = 0 then .ok []
    else if filled = 1 then .error (.oneDigitOver (4 * groups + 1))
    else .error .paddedBadly
  | c :: cs =>
    if c = '=' then
      if 2 ≤ filled && 4 ≤ filled + padding + 1 then .ok []
      else decodeFrom groups filled bits (if 2 ≤ filled then padding + 1 else padding) cs
    else
      match value? c with
      | none => decodeFrom groups filled bits padding cs
      | some six =>
        match filled with
        | 0 => decodeFrom groups 1 six 0 cs
        | 1 => (decodeFrom groups 2 (six % 16) 0 cs).map ((bits * 4 + six / 16) :: ·)
        | 2 => (decodeFrom groups 3 (six % 4) 0 cs).map ((bits * 16 + six / 4) :: ·)
        | _ => (decodeFrom (groups + 1) 0 0 0 cs).map ((bits * 64 + six) :: ·)

/-- The bytes that a text stands for. A text with a character outside the plain set stands for
none. -/
def decode (text : String) : Except Problem (List Nat) :=
  match Text.Charset.plain.unencodable? text with
  | some run => .error (.notPlain run)
  | none => decodeFrom 0 0 0 0 text.toList

end Downstream.Yaml.Base64
