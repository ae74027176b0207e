/-!
The bits of double-precision numbers: rounding an exact ratio to the nearest one, and taking a
number apart into a whole multiple of a power of two.
-/
namespace Downstream.Number

def infinityBits : Nat := 0x7FF <<< 52

/-- The ratio `num / den` divided by `2 ^ exponent`, rounded to the nearest whole number, halves to
even. -/
def roundScaled (num den : Nat) (exponent : Int) : Nat :=
  let num := if exponent < 0 then num <<< (-exponent).toNat else num
  let den := if exponent < 0 then den else den <<< exponent.toNat
  let whole := num / den
  let twice := 2 * (num % den)
  if twice < den then whole
  else if den < twice then whole + 1
  else whole + whole % 2

/-- The power of two that scales `num / den` to 53 binary digits, or to fewer where the number is
too small for that. -/
def scaleOf (num den : Nat) : Int :=
  let guess : Int := (num.log2 : Int) - (den.log2 : Int) - 52
  let fits :=
    if guess < 0 then den <<< 52 ≤ num <<< (-guess).toNat
    else (den <<< guess.toNat) <<< 52 ≤ num
  max (if fits then guess else guess - 1) (-1074)

/-- The bits of the double nearest to `num / den`, halves to even; infinity beyond the range. -/
def bitsOfRatio (num den : Nat) : Nat :=
  if num = 0 || den = 0 then 0
  else
    let exponent := scaleOf num den
    let digits := roundScaled num den exponent
    let (digits, exponent) :=
      if digits = (1 <<< 53) then (1 <<< 52, exponent + 1) else (digits, exponent)
    if 971 < exponent then infinityBits
    else if digits < (1 <<< 52) then digits
    else ((exponent + 1075).toNat <<< 52) + (digits - (1 <<< 52))

/-- A finite positive number as `digits * 2 ^ exponent`; `atEdge` says that the number below it is
only half as far away as the one above. -/
structure Scaled where
  digits : Nat
  exponent : Int
  atEdge : Bool
  deriving DecidableEq, Repr

def Scaled.ofBits (bits : Nat) : Scaled :=
  let field := (bits >>> 52) % 2048
  let fraction := bits % (1 <<< 52)
  if field = 0 then ⟨fraction, -1074, false⟩
  else ⟨(1 <<< 52) + fraction, (field : Int) - 1075, fraction = 0 && 1 < field⟩

end Downstream.Number
