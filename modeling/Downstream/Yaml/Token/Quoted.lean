import Downstream.Number.Integer
import Downstream.Yaml.Place

/-!
Quoted scalars. In single quotes a quote is written twice and nothing else is special; in double
quotes a backslash opens an escape. A line break between words stands for a space, and of several
the first one is dropped.
-/
namespace Downstream.Yaml.Quoted

def escapes : List (Char × Char) :=
  [('0', '\u0000'), ('a', '\u0007'), ('b', '\u0008'), ('t', '\t'), ('\t', '\t'), ('n', '\n'),
    ('v', '\u000b'), ('f', '\u000c'), ('r', '\r'), ('e', '\u001b'), (' ', ' '), ('"', '"'),
    ('\\', '\\'), ('/', '/'), ('N', '\u0085'), ('_', '\u00a0'), ('L', '\u2028'), ('P', '\u2029')]

def codeLength? : Char → Option Nat
  | 'x' => some 2
  | 'u' => some 4
  | 'U' => some 8
  | _ => none

/-- The character of a number; a half of a pair stays a half. -/
def charOfCode (code : Nat) : Except Failure Char :=
  if 0x80000000 ≤ code then .error .characterOverflow
  else if 0x110000 ≤ code then .error .noSuchCharacter
  else .ok (Text.charOfUnit code)

def context : Context := .scanning "a quoted scalar"

def doubleContext : Context := .scanning "a double-quoted scalar"

/-- Blank rest of a line and blank lines: the breaks among them, and the place behind. A line that
opens or closes a document must not be among them. -/
def breaks (start : Mark) : (steps : Nat) → Place → Except Failure (List Char × Place)
  | 0, p => .ok ([], p)
  | steps + 1, p =>
    if p.atDocumentMark then p.failsIn context start .documentMark
    else
      let p := p.skipRun fun c => c == ' ' || c == '\t'
      if isBreak p.here then do
        let (lineBreak, p) := p.takeBreak
        let (others, p) ← breaks start steps p
        return (lineBreak ++ others, p)
      else .ok ([], p)

/-- An escape behind its backslash: the characters it stands for, and the place behind. A line break
is an escape that stands for nothing but the blank lines behind it. -/
def escape (start : Mark) (p : Place) : Except Failure (List Char × Place) :=
  match escapes.lookup p.here with
  | some c => .ok ([c], p.next)
  | none =>
    match codeLength? p.here with
    | some length =>
      let digits := (p.next.rest.take length).takeWhile (Number.isDigitOf 16)
      if digits.length = length then do
        let c ← charOfCode (Number.digitsValue 16 digits)
        return ([c], p.forward (length + 1))
      else
        p.next.failsIn doubleContext start
          (.expectedText ("escape sequence of " ++ toString length ++ " hexadecimal numbers")
            (p.next.peek digits.length))
    | none =>
      if isBreak p.here then
        let (_, p) := p.takeBreak
        breaks start p.steps p
      else p.failsIn doubleContext start (.unknownEscape p.here)

def isSpecial (c : Char) : Bool :=
  c == '\'' || c == '"' || c == '\\' || endsIndicator c

def solid (double : Bool) (start : Mark) :
    (steps : Nat) → Place → Except Failure (List Char × Place)
  | 0, p => .ok ([], p)
  | steps + 1, p => do
    let (run, p) := p.takeRun fun c => !isSpecial c
    let continued (piece : List Char) (p : Place) : Except Failure (List Char × Place) := do
      let (others, p) ← solid double start steps p
      return (run ++ piece ++ others, p)
    let c := p.here
    if !double && c = '\'' && p.peek 1 = '\'' then continued ['\''] (p.forward 2)
    else if (double && c = '\'') || (!double && (c = '"' || c = '\\')) then continued [c] p.next
    else if double && c = '\\' then
      let (piece, p) ← escape start p.next
      continued piece p
    else return (run, p)

/-- Blanks inside the quotes: spaces and tabs stay, line breaks are folded. -/
def blanks (start : Mark) (p : Place) : Except Failure (List Char × Place) := do
  let (spaces, p) := p.takeRun fun c => c == ' ' || c == '\t'
  if p.here = '\u0000' then p.failsIn context start .endOfText
  else if isBreak p.here then
    let (lineBreak, p) := p.takeBreak
    let (others, p) ← breaks start p.steps p
    if lineBreak != ['\n'] then return (lineBreak ++ others, p)
    else if others.isEmpty then return ([' '], p)
    else return (others, p)
  else return (spaces, p)

def body (quote : Char) (start : Mark) : (steps : Nat) → Place →
    Except Failure (List Char × Place)
  | 0, p => p.failsIn context start .endOfText
  | steps + 1, p => do
    let (piece, p) ← solid (quote = '"') start p.steps p
    if p.here = quote then return (piece, p)
    else
      let (gap, p) ← blanks start p
      let (others, p) ← body quote start steps p
      return (piece ++ gap ++ others, p)

def scan (p : Place) : Except Failure (String × Place) := do
  let (text, q) ← body p.here p.mark p.steps p.next
  return (String.ofList text, q.next)

end Downstream.Yaml.Quoted
