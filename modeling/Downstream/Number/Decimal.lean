import Downstream.Number.Binary64
import Downstream.Number.Integer

/-!
Doubles from decimal texts: digits with a point and an exponent, rounded once from the exact value,
and the words for infinity and for what is no number.
-/
namespace Downstream.Number

def signBit : Nat := 1 <<< 63

def negateBits (bits : Nat) : Nat :=
  if bits < signBit then bits + signBit else bits - signBit

def nanBits : Nat := infinityBits + (1 <<< 51)

def isFinite (bits : Nat) : Bool := bits % signBit < infinityBits

def splitSign : List Char → Bool × List Char
  | '-' :: rest => (true, rest)
  | '+' :: rest => (false, rest)
  | cs => (false, cs)

/-- The bits of the double that digits with an exponent of ten stand for. Exponents far outside the
range are settled without powers of ten. -/
def bitsOfDecimal (digits : Nat) (exponent : Int) : Nat :=
  let size : Int := (toString digits).length + exponent
  if digits = 0 || size < -330 then 0
  else if 320 < size then infinityBits
  else if exponent < 0 then bitsOfRatio digits (Nat.pow 10 exponent.natAbs)
  else bitsOfRatio (digits * Nat.pow 10 exponent.toNat) 1

def exponent? : List Char → Option Int
  | [] => some 0
  | e :: rest =>
    let (negative, digits) := splitSign rest
    if (e = 'e' || e = 'E') && !digits.isEmpty && digits.all Char.isDigit then
      let size : Int := digitsValue 10 digits
      some (if negative then -size else size)
    else none

def unsignedBits? (cs : List Char) : Option Nat :=
  if cs = "inf".toList || cs = "infinity".toList then some infinityBits
  else if cs = "nan".toList then some nanBits
  else
    let whole := cs.takeWhile Char.isDigit
    let rest := cs.drop whole.length
    let (fraction, rest) :=
      match rest with
      | '.' :: after =>
        let digits := after.takeWhile Char.isDigit
        (digits, after.drop digits.length)
      | rest => ([], rest)
    if whole.isEmpty && fraction.isEmpty then none
    else
      (exponent? rest).map fun exponent =>
        bitsOfDecimal (digitsValue 10 (whole ++ fraction)) (exponent - fraction.length)

end Downstream.Number
