import Downstream.Yaml.Failure

/-!
A place in a YAML text: the text from there on, and the count of characters, lines and columns
before it. Behind the end of the text a null character is seen, which no text holds.
-/
namespace Downstream.Yaml

def isAllowed (c : Char) : Bool :=
  let n := c.toNat
  n == 9 || n == 10 || n == 13 || (0x20 ≤ n && n ≤ 0x7E) || n == 0x85 || (0xA0 ≤ n && n ≤ 0xD7FF)
    || (0xE000 ≤ n && n ≤ 0xFFFD) || 0x10000 ≤ n

def isBreak (c : Char) : Bool :=
  c == '\n' || c == '\r' || c == '\u0085' || c == '\u2028' || c == '\u2029'

def endsLine (c : Char) : Bool :=
  c == '\u0000' || isBreak c

def endsWord (c : Char) : Bool :=
  c == ' ' || endsLine c

def endsIndicator (c : Char) : Bool :=
  c == '\t' || endsWord c

structure Place where
  size : Nat
  rest : List Char
  index : Nat
  line : Nat
  column : Nat

namespace Place

def start (text : List Char) : Place := ⟨text.length, text, 0, 0, 0⟩

/-- A bound for the steps of reading on from the place: one for every character ahead, and one for
the end. -/
def steps (p : Place) : Nat := p.size - p.index + 1

def mark (p : Place) : Mark := ⟨p.index, p.line, p.column⟩

def fails {α : Type} (p : Place) (problem : Problem) : Except Failure α :=
  .error (.malformed { problem, mark := p.mark })

def failsIn {α : Type} (p : Place) (context : Context) (since : Mark) (problem : Problem) :
    Except Failure α :=
  .error (.malformed { context := some context, since := some since, problem, mark := p.mark })

def peek (p : Place) (n : Nat) : Char :=
  p.rest[n]?.getD '\u0000'

def here (p : Place) : Char :=
  p.rest.head?.getD '\u0000'

/-- The place behind the next character. A byte order mark takes no column. -/
def next (p : Place) : Place :=
  match p.rest with
  | [] => p
  | c :: rest =>
    let q := { p with rest, index := p.index + 1 }
    if c = '\r' && rest.head? = some '\n' then { q with column := p.column + 1 }
    else if isBreak c then { q with line := p.line + 1, column := 0 }
    else if c = '\uFEFF' then q
    else { q with column := p.column + 1 }

def forward : (n : Nat) → Place → Place
  | 0, p => p
  | n + 1, p => forward n p.next

def takeRun (p : Place) (wanted : Char → Bool) : List Char × Place :=
  let run := p.rest.takeWhile wanted
  (run, p.forward run.length)

def skipRun (p : Place) (wanted : Char → Bool) : Place :=
  (p.takeRun wanted).2

/-- The line break at the place, if there is one, and the place behind it. The breaks of one line
count as one character, those that part paragraphs stay themselves. -/
def takeBreak (p : Place) : List Char × Place :=
  match p.rest with
  | '\r' :: '\n' :: _ => (['\n'], p.forward 2)
  | c :: _ =>
    if c = '\u2028' || c = '\u2029' then ([c], p.next)
    else if isBreak c then (['\n'], p.next)
    else ([], p)
  | [] => ([], p)

def atDocumentMark (p : Place) : Bool :=
  (['-', '-', '-'].isPrefixOf p.rest || ['.', '.', '.'].isPrefixOf p.rest)
    && endsIndicator (p.peek 3)

def skipComment (p : Place) : Place :=
  if p.here = '#' then p.skipRun (fun c => !endsLine c) else p

end Place

def isHandleChar (c : Char) : Bool :=
  c.isAlphanum || c == '-' || c == '_'

end Downstream.Yaml
