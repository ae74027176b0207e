import Downstream.Text.Half

/-!
The encoding of a JSON text that comes as bytes. A JSON text opens with two plain characters, or is
a single one, so the zeros among its first bytes show how wide its code units are and in which order
their bytes stand. A unit that is half of a pair without the other is kept as a half.
-/
namespace Downstream.Json

/-- How a text is laid out in bytes: by bytes alone, or by units of two or four bytes, of which the
first weighs most or least. -/
inductive Encoding where
  | bytes
  | twoByteUnits (firstWeighsMost : Bool)
  | fourByteUnits (firstWeighsMost : Bool)
  deriving DecidableEq, Repr

namespace Encoding

def ofBytes : List UInt8 → Encoding
  | [0, _] => .twoByteUnits true
  | [_, 0] => .twoByteUnits false
  | 0 :: b :: _ :: _ :: _ => if b = 0 then .fourByteUnits true else .twoByteUnits true
  | _ :: 0 :: c :: d :: _ => if c = 0 && d = 0 then .fourByteUnits false else .twoByteUnits false
  | _ => .bytes

def twoByteUnits? (firstWeighsMost : Bool) : List UInt8 → Option (List Nat)
  | [] => some []
  | [_] => none
  | a :: b :: rest =>
    let unit := if firstWeighsMost then a.toNat * 256 + b.toNat else b.toNat * 256 + a.toNat
    (twoByteUnits? firstWeighsMost rest).map (unit :: ·)

/-- The characters of units of two bytes; neighbouring halves of a pair make one character. -/
def charsOfUnits : List Nat → List Char
  | [] => []
  | [unit] => [Text.charOfUnit unit]
  | unit :: next :: rest =>
    if Text.isHighUnit unit && Text.isLowUnit next then
      Text.charOfPair unit next :: charsOfUnits rest
    else Text.charOfUnit unit :: charsOfUnits (next :: rest)

def charsOfFourBytes? (firstWeighsMost : Bool) : List UInt8 → Option (List Char)
  | [] => some []
  | a :: b :: c :: d :: rest =>
    let weigh (a b c d : UInt8) := ((a.toNat * 256 + b.toNat) * 256 + c.toNat) * 256 + d.toNat
    let unit := if firstWeighsMost then weigh a b c d else weigh d c b a
    if unit < 0x110000 then
      (charsOfFourBytes? firstWeighsMost rest).map (Text.charOfUnit unit :: ·)
    else none
  | _ => none

def decode? (encoding : Encoding) (bytes : ByteArray) : Option String :=
  match encoding with
  | .bytes => String.fromUTF8? bytes
  | .twoByteUnits most =>
    (twoByteUnits? most bytes.toList).map fun units => String.ofList (charsOfUnits units)
  | .fourByteUnits most => (charsOfFourBytes? most bytes.toList).map String.ofList

end Encoding

/-- The text of a JSON document in bytes. A mark of the byte order in front of plain bytes is
dropped. -/
def textOfBytes? (bytes : ByteArray) : Option String :=
  match Encoding.ofBytes (bytes.toList.take 4) with
  | .bytes =>
    (String.fromUTF8? bytes).map fun text =>
      if text.startsWith "\uFEFF" then (text.drop 1).toString else text
  | encoding => encoding.decode? bytes

end Downstream.Json
