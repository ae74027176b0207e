/-!
Halves of pairs. Some formats write a character beyond the first 65536 as a pair of code units, and
a text in such a format may name one half of a pair alone. A half is no character. In a string it is
kept as one of the private characters set aside for halves, so that it counts as one place of a text
like any other; these characters themselves cannot be told from halves then. `Points` are texts that
do without them.
-/
namespace Downstream.Text

def isHighUnit (unit : Nat) : Bool := 0xD800 ≤ unit && unit ≤ 0xDBFF

def isLowUnit (unit : Nat) : Bool := 0xDC00 ≤ unit && unit ≤ 0xDFFF

/-- The first of the characters set aside for halves. -/
def firstHalf : Nat := 0x10A000

def charOfUnit (unit : Nat) : Char :=
  if isHighUnit unit || isLowUnit unit then Char.ofNat (firstHalf + (unit - 0xD800))
  else Char.ofNat unit

def charOfPair (high low : Nat) : Char :=
  Char.ofNat (0x10000 + (high - 0xD800) * 0x400 + (low - 0xDC00))

def isHalf (c : Char) : Bool := firstHalf ≤ c.toNat && c.toNat < firstHalf + 0x800

/-- The number of a character: for a half that of its code unit, else its code point. -/
def numberOf (c : Char) : Nat :=
  if isHalf c then 0xD800 + (c.toNat - firstHalf) else c.toNat

end Downstream.Text
