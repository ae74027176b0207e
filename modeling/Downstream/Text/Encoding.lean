import Downstream.Text.Hex

/-!
What keeps a text from being written in bytes, and bytes from being read as a text.
-/
namespace Downstream.Text

/-- The end of a message on `count` neighbours, the first of them at `first`. One alone is shown. -/
def positionsText (shown : String) (first count : Nat) : String :=
  if count = 1 then shown ++ " in position " ++ toString first
  else "s in position " ++ toString first ++ "-" ++ toString (first + count - 1)

inductive Charset where
  | plain
  | full
  deriving DecidableEq, Repr

def Charset.label : Charset → String
  | .plain => "ascii"
  | .full => "utf-8"

def Charset.refuses : Charset → Char → Bool
  | .plain, c => 128 ≤ c.toNat
  | .full, c => isHalf c

def Charset.refusal : Charset → String
  | .plain => "ordinal not in range(128)"
  | .full => "surrogates not allowed"

structure Unencodable where
  charset : Charset
  first : Char
  position : Nat
  count : Nat
  deriving DecidableEq, Repr

def Charset.unencodable? (charset : Charset) (s : String) : Option Unencodable :=
  let cs := s.toList
  let before := cs.takeWhile fun c => !charset.refuses c
  match cs.drop before.length with
  | [] => none
  | c :: rest => some ⟨charset, c, before.length, (rest.takeWhile charset.refuses).length + 1⟩

def Unencodable.message (u : Unencodable) : String :=
  "'" ++ u.charset.label ++ "' codec can't encode character"
    ++ positionsText (" '" ++ String.ofList (numericEscape u.first) ++ "'") u.position u.count
    ++ ": " ++ u.charset.refusal

def halves? (s : String) : Option Unencodable :=
  if s.any isHalf then Charset.full.unencodable? s else none

inductive DecodingDefect where
  | startByte
  | continuationByte
  | endOfData
  deriving DecidableEq, Repr

def DecodingDefect.text : DecodingDefect → String
  | .startByte => "invalid start byte"
  | .continuationByte => "invalid continuation byte"
  | .endOfData => "unexpected end of data"

structure Undecodable where
  defect : DecodingDefect
  first : UInt8
  position : Nat
  count : Nat
  deriving DecidableEq, Repr

def Undecodable.message (u : Undecodable) : String :=
  "'utf-8' codec can't decode byte"
    ++ positionsText (" 0x" ++ String.ofList (hexDigits 2 u.first.toNat)) u.position u.count
    ++ ": " ++ u.defect.text

/-- The ranges of the bytes that follow the first byte of a character; none where no character
starts with it. -/
def followers? (b : UInt8) : Option (List (UInt8 × UInt8)) :=
  let more : UInt8 × UInt8 := (0x80, 0xBF)
  if b < 0x80 then some []
  else if b < 0xC2 then none
  else if b < 0xE0 then some [more]
  else if b = 0xE0 then some [(0xA0, 0xBF), more]
  else if b = 0xED then some [(0x80, 0x9F), more]
  else if b < 0xF0 then some [more, more]
  else if b = 0xF0 then some [(0x90, 0xBF), more, more]
  else if b < 0xF4 then some [more, more, more]
  else if b = 0xF4 then some [(0x80, 0x8F), more, more]
  else none

def followDefect? : List (UInt8 × UInt8) → List UInt8 → Option (DecodingDefect × Nat)
  | [], _ => none
  | _ :: _, [] => some (.endOfData, 0)
  | (low, high) :: ranges, b :: bytes =>
    if low ≤ b && b ≤ high then
      (followDefect? ranges bytes).map fun (defect, count) => (defect, count + 1)
    else some (.continuationByte, 0)

/-- The first bytes from a position on that are no character; `covered` counts those that belong to
a character in front. -/
def undecodableFrom (position covered : Nat) : List UInt8 → Option Undecodable
  | [] => none
  | b :: bytes =>
    match covered with
    | covered + 1 => undecodableFrom (position + 1) covered bytes
    | 0 =>
      match followers? b with
      | none => some ⟨.startByte, b, position, 1⟩
      | some ranges =>
        match followDefect? ranges bytes with
        | some (defect, count) => some ⟨defect, b, position, count + 1⟩
        | none => undecodableFrom (position + 1) ranges.length bytes

def undecodable? (bytes : ByteArray) : Option Undecodable :=
  undecodableFrom 0 0 bytes.toList

def decode (bytes : ByteArray) : Except Undecodable String :=
  match String.fromUTF8? bytes with
  | some text => .ok text
  | none => .error ((undecodable? bytes).getD ⟨.endOfData, 0, 0, 0⟩)

end Downstream.Text
