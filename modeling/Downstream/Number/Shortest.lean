import Downstream.Number.Binary64

/-!
The decimal text of a double: the fewest digits that read back as the same number, of those the
nearest to it, written by place value for magnitudes from `10⁻⁴` to below `10¹⁶` and with an
exponent otherwise.
-/
namespace Downstream.Number

/-- Digits `digits` with the point after `point` of them: `digits * 10 ^ (point - count)`. -/
structure DecimalDigits where
  digits : Nat
  point : Int
  deriving DecidableEq, Repr

/-- Counts how often `num` has to be multiplied by ten to reach `den`. -/
def tensBelow (den : Nat) : (steps num : Nat) → Nat
  | 0, _ => 0
  | steps + 1, num => if den ≤ num then 0 else tensBelow den steps (num * 10) + 1

def leadingPower (num den : Nat) : Int :=
  if den ≤ num then ((toString (num / den)).length : Int) - 1 else -(tensBelow den 400 num : Int)

/-- The point of the grid of `count` digits that reads back as `x`, where there is one: of the two
neighbours of `x` the nearer one, a tie going to the even digit. -/
def gridPoint? (x : Scaled) (count : Nat) : Option DecimalDigits :=
  let shift := x.exponent - 2
  let up := if shift < 0 then 1 else 1 <<< shift.toNat
  let den := if shift < 0 then 1 <<< (-shift).toNat else 1
  let value := 4 * x.digits * up
  let low := (4 * x.digits - (if x.atEdge then 1 else 2)) * up
  let high := (4 * x.digits + 2) * up
  let power := leadingPower value den
  let unit : Int := power - (count : Int) + 1
  let tens := Nat.pow 10 unit.natAbs
  let scale (n : Nat) := if unit < 0 then n * tens else n
  let den := if unit < 0 then den else den * tens
  let below := scale value / den
  let readsBack (n : Nat) :=
    let n := n * den
    if x.digits % 2 = 0 then scale low ≤ n && n ≤ scale high else scale low < n && n < scale high
  let twice := 2 * (scale value % den)
  let nearBelow := if twice = den then below % 2 = 0 else twice < den
  let nearer := if nearBelow then below else below + 1
  let farther := if nearBelow then below + 1 else below
  let choose (n : Nat) : DecimalDigits :=
    if n = Nat.pow 10 count then ⟨n / 10, power + 2⟩ else ⟨n, power + 1⟩
  if readsBack nearer then some (choose nearer)
  else if readsBack farther then some (choose farther)
  else none

/-- The fewest digits that read back as `x`; seventeen always do. -/
def shortestDigits (x : Scaled) : DecimalDigits :=
  ((List.range 18).tail.findSome? (gridPoint? x)).getD ⟨0, 1⟩

def DecimalDigits.text (d : DecimalDigits) : String :=
  let digits := (toString d.digits).toList
  let digits := match (digits.reverse.dropWhile (· == '0')).reverse with
    | [] => ['0']
    | kept => kept
  let count : Int := digits.length
  let zeros (n : Int) := List.replicate n.toNat '0'
  if -4 < d.point ∧ d.point ≤ 16 then
    if d.point ≤ 0 then String.ofList ("0.".toList ++ zeros (-d.point) ++ digits)
    else if count ≤ d.point then String.ofList (digits ++ zeros (d.point - count) ++ ".0".toList)
    else String.ofList (digits.take d.point.toNat ++ '.' :: digits.drop d.point.toNat)
  else
    let exponent := d.point - 1
    let size := toString exponent.natAbs
    let fraction := match digits.drop 1 with
      | [] => []
      | rest => '.' :: rest
    String.ofList (digits.take 1 ++ fraction ++ ['e', if exponent < 0 then '-' else '+'])
      ++ (if size.length < 2 then "0" ++ size else size)

def doubleText (bits : Nat) : String :=
  let magnitude := bits % (1 <<< 63)
  let sign := if bits < (1 <<< 63) then "" else "-"
  if infinityBits < magnitude then "nan"
  else if magnitude = infinityBits then sign ++ "inf"
  else if magnitude = 0 then sign ++ "0.0"
  else sign ++ (shortestDigits (Scaled.ofBits magnitude)).text

end Downstream.Number
