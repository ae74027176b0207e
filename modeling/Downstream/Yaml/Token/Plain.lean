import Downstream.Yaml.Place

/-!
Plain scalars: words without quotes. Inside brackets or braces they end at the marks of the
collection; everywhere they end at a colon or a number sign that stands between blanks, and at a
line that is not indented enough.
-/
namespace Downstream.Yaml.Plain

def canStart (inFlow : Bool) (p : Place) : Bool :=
  let c := p.here
  let indicators := "-?:,[]\x7b\x7d#&*!|>'\"%@\x60".toList
  (!endsIndicator c && !indicators.contains c)
    || (!endsIndicator (p.peek 1) && (c = '-' || (!inFlow && (c = '?' || c = ':'))))

def isFlowMark (c : Char) : Bool :=
  c == ',' || c == '[' || c == ']' || c == '\x7b' || c == '\x7d'

def word (inFlow : Bool) (done : List Char) : List Char → List Char
  | [] => done
  | c :: cs =>
    let following := cs.head?.getD '\u0000'
    if endsIndicator c then done
    else if c = ':' && (endsIndicator following || (inFlow && isFlowMark following)) then done
    else if inFlow && (isFlowMark c || c = '?') then done
    else word inFlow (c :: done) cs

/-- What stands between two words: the text of the gap, the place behind it, and whether a line
break was passed. There is no gap where the scalar ends. -/
structure Gap where
  text : List Char
  place : Place
  brokeLine : Bool

/-- Blank lines: the breaks among them and the place behind; none where a line opens or closes a
document. -/
def blankLines : (steps : Nat) → Place → List Char × Place × Bool
  | 0, p => ([], p, false)
  | steps + 1, p =>
    let p := p.skipRun (· == ' ')
    if isBreak p.here then
      let (lineBreak, p) := p.takeBreak
      if p.atDocumentMark then ([], p, true)
      else
        let (others, p, stopped) := blankLines steps p
        (lineBreak ++ others, p, stopped)
    else ([], p, false)

def gap (p : Place) : Gap :=
  let (spaces, p) := p.takeRun (· == ' ')
  if isBreak p.here then
    let (lineBreak, p) := p.takeBreak
    if p.atDocumentMark then ⟨[], p, true⟩
    else
      let (others, p, stopped) := blankLines p.steps p
      if stopped then ⟨[], p, true⟩
      else if lineBreak != ['\n'] then ⟨lineBreak ++ others, p, true⟩
      else if others.isEmpty then ⟨[' '], p, true⟩
      else ⟨others, p, true⟩
  else ⟨spaces, p, false⟩

/-- A scalar that has been read: its text, the place behind the blanks that follow it, and whether a
key may start there. -/
structure Result where
  text : List Char
  place : Place
  allowKey : Bool

/-- Words and the gaps between them; `pending` is the gap in front of the next word. -/
def words (inFlow : Bool) (indent : Int) (pending : List Char) (allowKey : Bool) :
    (steps : Nat) → Place → Result
  | 0, p => ⟨[], p, allowKey⟩
  | steps + 1, p =>
    if p.here = '#' then ⟨[], p, allowKey⟩
    else
      let run := (word inFlow [] p.rest).reverse
      if run.isEmpty then ⟨[], p, allowKey⟩
      else
        let after := gap (p.forward run.length)
        let text := pending ++ run
        let p := after.place
        if after.text.isEmpty || p.here = '#' || (!inFlow && (p.column : Int) < indent) then
          ⟨text, p, after.brokeLine⟩
        else
          let others := words inFlow indent after.text after.brokeLine steps p
          { others with text := text ++ others.text }

def scan (inFlow : Bool) (indent : Int) (p : Place) : Result :=
  words inFlow (indent + 1) [] false p.steps p

end Downstream.Yaml.Plain
