import Downstream.Yaml.Place

/-!
Block scalars: the indented lines behind a bar or an arrow. A bar keeps the line breaks, an arrow
folds them; a plus sign keeps the breaks at the end, a minus sign drops them all, and otherwise one
is kept. A digit gives the indentation, which is otherwise that of the first line.
-/
namespace Downstream.Yaml.Block

inductive Chomping where
  | clip
  | strip
  | keep
  deriving DecidableEq, Repr

def Chomping.ofSign? : Char → Option Chomping
  | '+' => some .keep
  | '-' => some .strip
  | _ => none

def context : Context := .scanning "a block scalar"

/-- The indentation that a digit asks for, in front of the place; zero is refused. -/
def increment? (start : Mark) (p : Place) : Except Failure (Option Nat × Place) :=
  if p.here.isDigit then
    if p.here = '0' then p.failsIn context start .zeroIndentation
    else .ok (some (p.here.toNat - 48), p.next)
  else .ok (none, p)

def header (start : Mark) (p : Place) : Except Failure (Chomping × Option Nat × Place) := do
  match Chomping.ofSign? p.here with
  | some chomping =>
    let (increment, p) ← increment? start p.next
    check chomping increment p
  | none =>
    let (increment, p) ← increment? start p
    match increment, Chomping.ofSign? p.here with
    | some _, some chomping => check chomping increment p.next
    | _, _ => check .clip increment p
where
  check (chomping : Chomping) (increment : Option Nat) (p : Place) :
      Except Failure (Chomping × Option Nat × Place) :=
    if endsWord p.here then .ok (chomping, increment, p)
    else p.failsIn context start (.expectedText "chomping or indentation indicators" p.here)

def restOfLine (start : Mark) (p : Place) : Except Failure Place :=
  let p := (p.skipRun (· == ' ')).skipComment
  if endsLine p.here then .ok p.takeBreak.2
  else p.failsIn context start (.expectedText "a comment or a line break" p.here)

/-- Blank lines in front of the first line: the breaks, the widest indentation seen, and the place
behind. -/
def leadingLines (widest : Nat) : (steps : Nat) → Place → List Char × Nat × Place
  | 0, p => ([], widest, p)
  | steps + 1, p =>
    if p.here = ' ' then
      let p := p.next
      leadingLines (max widest p.column) steps p
    else if isBreak p.here then
      let (lineBreak, p) := p.takeBreak
      let (others, widest, p) := leadingLines widest steps p
      (lineBreak ++ others, widest, p)
    else ([], widest, p)

def skipIndent (indent : Nat) : (steps : Nat) → Place → Place
  | 0, p => p
  | steps + 1, p => if p.column < indent && p.here = ' ' then skipIndent indent steps p.next else p

def blankLines (indent : Nat) : (steps : Nat) → Place → List Char × Place
  | 0, p => ([], p)
  | steps + 1, p =>
    let p := skipIndent indent indent p
    if isBreak p.here then
      let (lineBreak, p) := p.takeBreak
      let (others, p) := blankLines indent steps p
      (lineBreak ++ others, p)
    else ([], p)

/-- The lines of a scalar: its text without what chomping decides about, the last line break, the
breaks behind it, and the place behind. -/
structure Lines where
  text : List Char
  lastBreak : List Char
  breaks : List Char
  place : Place

def startsSolid (p : Place) : Bool :=
  p.here != ' ' && p.here != '\t'

/-- Reads lines of the given indentation; `before` holds the breaks in front of the line. -/
def lines (folded : Bool) (indent : Nat) (before : List Char) : (steps : Nat) → Place → Lines
  | 0, p => ⟨[], [], before, p⟩
  | steps + 1, p =>
    if p.column != indent || p.here = '\u0000' then ⟨[], [], before, p⟩
    else
      let solid := startsSolid p
      let (line, p) := p.takeRun fun c => !endsLine c
      let (lineBreak, p) := p.takeBreak
      let (breaks, p) := blankLines indent p.steps p
      if p.column = indent && p.here != '\u0000' then
        let joint :=
          if folded && lineBreak = ['\n'] && solid && startsSolid p then
            if breaks.isEmpty then [' '] else []
          else lineBreak
        let others := lines folded indent breaks steps p
        { others with text := before ++ line ++ joint ++ others.text }
      else ⟨before ++ line, lineBreak, breaks, p⟩

def scan (blockIndent : Int) (p : Place) : Except Failure (String × Place) := do
  let folded := p.here = '>'
  let start := p.mark
  let (chomping, increment, p) ← header start p.next
  let p ← restOfLine start p
  let least := (max (blockIndent + 1) 1).toNat
  let steps := p.steps
  let (indent, breaks, p) :=
    match increment with
    | none =>
      let (breaks, widest, p) := leadingLines 0 steps p
      (max least widest, breaks, p)
    | some increment =>
      let indent := least + increment - 1
      let (breaks, p) := blankLines indent steps p
      (indent, breaks, p)
  let found := lines folded indent breaks steps p
  let kept :=
    match chomping with
    | .strip => []
    | .clip => found.lastBreak
    | .keep => found.lastBreak ++ found.breaks
  return (String.ofList (found.text ++ kept), found.place)

end Downstream.Yaml.Block
