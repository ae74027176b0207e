import Downstream.Number.Decimal
import Downstream.Text.LowerCase
import Downstream.Text.Search
import Downstream.Yaml.Failure

/-!
Numbers in YAML: integers in base two, eight, ten, sixteen and sixty, and floats, which also come in
base sixty. Underscores may stand anywhere.
-/
namespace Downstream.Yaml

def dropUnderscores (cs : List Char) : List Char :=
  cs.filter (· != '_')

def sexagesimal (places : List Int) : Int :=
  places.foldl (fun sum place => sum * 60 + place) 0

def integerIn (base : Nat) (cs : List Char) : Except Failure Int :=
  match Number.readInteger base (String.ofList cs) with
  | .ok n => .ok n
  | .error e => .error (.integer e)

def integerOf (text : String) : Except Failure Int := do
  let cs := dropUnderscores text.toList
  if cs.isEmpty then throw .emptyNumber
  let (negative, cs) := Number.splitSign cs
  let size ←
    match cs with
    | ['0'] => pure 0
    | '0' :: 'b' :: digits => integerIn 2 digits
    | '0' :: 'x' :: digits => integerIn 16 digits
    | '0' :: _ => integerIn 8 cs
    | [] => throw .emptyNumber
    | _ =>
      if cs.contains ':' then do
        let places ← (Text.fields ':' cs).mapM (integerIn 10)
        pure (sexagesimal places)
      else integerIn 10 cs
  return if negative then -size else size

/-- The bits of the float that a text stands for; the failure shows it where it stands for none. -/
def readFloatBits (cs : List Char) : Except Failure Nat :=
  let trimmed := ((Number.plainDigits cs).dropWhile Number.isPlainBlank).reverse.dropWhile
    Number.isPlainBlank
  let (negative, body) := Number.splitSign trimmed.reverse
  match Number.unsignedBits? (Text.lower body) with
  | some bits => .ok (if negative then Number.negateBits bits else bits)
  | none => .error (.notAFloat (String.ofList cs))

/-- The value of sexagesimal places of floats, the last one weighing least; summed from there. -/
def sexagesimalFloat (sum : Float) (weight : Nat) : List Nat → Except Failure Nat
  | [] => .ok sum.toBits.toNat
  | place :: rest =>
    let weightBits := Number.bitsOfRatio weight 1
    if weightBits = Number.infinityBits then .error .floatOverflow
    else
      let term := Float.ofBits place.toUInt64 * Float.ofBits weightBits.toUInt64
      sexagesimalFloat (sum + term) (weight * 60) rest

def floatBitsOf (text : String) : Except Failure Nat := do
  let cs := Text.lower (dropUnderscores text.toList)
  if cs.isEmpty then throw .emptyNumber
  let (negative, cs) := Number.splitSign cs
  let bits ←
    if cs = ".inf".toList then pure Number.infinityBits
    else if cs = ".nan".toList then pure (Number.nanBits)
    else if cs.contains ':' then do
      let places ← (Text.fields ':' cs).mapM readFloatBits
      sexagesimalFloat (Float.ofBits 0) 1 places.reverse
    else readFloatBits cs
  return if negative then Number.negateBits bits else bits

end Downstream.Yaml
