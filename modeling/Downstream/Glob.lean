import Downstream.Text.Search

/-!
Glob patterns: a star stands for any text, a question mark for any character, a bracket expression
for one character of a set, and every other character for itself. A slash is a character like any
other.
-/
namespace Downstream

structure CharSet where
  negated : Bool
  singles : List Char
  ranges : List (Char × Char)
  deriving DecidableEq, Repr

def CharSet.accepts (s : CharSet) (c : Char) : Bool :=
  (s.singles.contains c || s.ranges.any fun (low, high) => low ≤ c && c ≤ high) != s.negated

namespace Glob

inductive Part where
  | one (c : Char)
  | any
  | set (s : CharSet)
  | star
  deriving DecidableEq, Repr

def Part.accepts : Part → Char → Bool
  | .one expected, c => c == expected
  | .any, _ => true
  | .set s, c => s.accepts c
  | .star, _ => false

/-- Splits the text of a bracket expression at the dashes that make ranges. A dash makes a range
unless it opens the text, ends it, or follows the end of another range. `current` holds the piece
being read, last character first, and `guarded` counts the characters that cannot be such a dash. -/
def rangePieces (current : List Char) (guarded : Nat) : List Char → List (List Char)
  | [] => [current.reverse]
  | c :: cs =>
    match guarded with
    | guarded + 1 => rangePieces (c :: current) guarded cs
    | 0 =>
      if c = '-' then
        match cs with
        | [] => [(c :: current).reverse]
        | _ => current.reverse :: rangePieces [] 2 cs
      else rangePieces (c :: current) 0 cs

/-- Joins two neighbouring pieces whose range would run backwards; both its ends are dropped. The
pieces are joined from the last one on. -/
def dropBackwardRanges : List (List Char) → List (List Char)
  | [] => []
  | piece :: pieces =>
    match dropBackwardRanges pieces with
    | [] => [piece]
    | next :: rest =>
      match piece.getLast?, next.head? with
      | some low, some high =>
        if high < low then (piece.dropLast ++ next.drop 1) :: rest else piece :: next :: rest
      | _, _ => piece :: next :: rest

def rangesBetween : List (List Char) → List (Char × Char)
  | piece :: next :: rest =>
    match piece.getLast?, next.head? with
    | some low, some high => (low, high) :: rangesBetween (next :: rest)
    | _, _ => rangesBetween (next :: rest)
  | _ => []

/-- Without the exclamation mark that negates a set. A dash right behind that mark stands for
itself, so it makes no range even if the mark came to stand there only by joining pieces. -/
def dropNegation : List (List Char) → Bool × List Char × List (List Char)
  | ['!'] :: piece :: pieces => (true, ['-'], piece :: pieces)
  | ('!' :: piece) :: pieces => (true, [], piece :: pieces)
  | pieces => (false, [], pieces)

def charSet (text : List Char) : CharSet :=
  let guarded := if text.head? = some '!' then 2 else 1
  let pieces :=
    if text.contains '-' then dropBackwardRanges (rangePieces [] guarded text) else [text]
  let (negated, dash, members) := dropNegation pieces
  ⟨negated, dash ++ members.flatten, rangesBetween members⟩

/-- The text up to the bracket that closes an expression, and the text behind that bracket. A
bracket right behind the opening, or behind its exclamation mark, closes nothing. -/
def bracketText? (cs : List Char) : Option (List Char × List Char) :=
  let lead := if cs.head? = some '!' then 1 else 0
  let lead := if (cs.drop lead).head? = some ']' then lead + 1 else lead
  let body := (cs.drop lead).takeWhile (· != ']')
  match cs.drop (lead + body.length) with
  | [] => none
  | _ :: rest => some (cs.take lead ++ body, rest)

/-- The parts of a pattern; an opening bracket that is never closed stands for itself. `covered`
counts the characters that belong to the part read last. -/
def partsFrom (covered : Nat) : List Char → List Part
  | [] => []
  | c :: cs =>
    match covered with
    | covered + 1 => partsFrom covered cs
    | 0 =>
      if c = '*' then .star :: partsFrom 0 cs
      else if c = '?' then .any :: partsFrom 0 cs
      else if c = '[' then
        match bracketText? cs with
        | some (text, _) => .set (charSet text) :: partsFrom (text.length + 1) cs
        | none => .one c :: partsFrom 0 cs
      else .one c :: partsFrom 0 cs

def parts (pattern : List Char) : List Part :=
  partsFrom 0 pattern

def endsMatched : List Part → List Char → List Bool
  | [], cs => cs.map (fun _ => false) ++ [true]
  | .star :: ps, cs =>
    (endsMatched ps cs).foldr
      (fun here later => (here || later.head?.getD false) :: later) []
  | p :: ps, cs =>
    List.zipWith (fun c later => p.accepts c && later) cs (endsMatched ps cs).tail ++ [false]

def covers (pattern text : List Char) : Bool :=
  (endsMatched (parts pattern) text).head?.getD false

end Glob

end Downstream
