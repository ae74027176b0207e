import Downstream.Text.Encoding

/-!
Texts as they are handed over. A place of such a text holds a character, or a half that stands
alone; only a text without halves can be written in bytes, and only that one is a string.
-/
namespace Downstream.Text

/-- A half is told by the distance of its code unit from the first one. -/
inductive Point where
  | char (c : Char)
  | half (offset : Fin 0x800)
  deriving DecidableEq, Repr

abbrev Points := List Point

namespace Point

def isHalf : Point → Bool
  | .char _ => false
  | .half _ => true

def char? : Point → Option Char
  | .char c => some c
  | .half _ => none

def mark : Point → Char
  | .char c => c
  | .half offset => Char.ofNat (firstHalf + offset)

def ofMark (c : Char) : Point :=
  if Text.isHalf c then .half (Fin.ofNat 0x800 (c.toNat - firstHalf)) else .char c

end Point

namespace Points

def ofString (s : String) : Points :=
  s.toList.map .char

def ofMarked (s : String) : Points :=
  s.toList.map .ofMark

def text (points : Points) : String :=
  String.ofList (points.filterMap (·.char?))

def halves? (points : Points) : Option Unencodable :=
  match points.dropWhile (!·.isHalf) with
  | [] => none
  | half :: rest =>
    some ⟨.full, half.mark, (points.takeWhile (!·.isHalf)).length,
      (rest.takeWhile (·.isHalf)).length + 1⟩

end Points

end Downstream.Text
