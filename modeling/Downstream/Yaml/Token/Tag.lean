import Downstream.Number.Integer
import Downstream.Yaml.Token.Basic
import Downstream.Yaml.Place

/-!
Names in a YAML document: anchors and aliases, tags with their handles, and directives.
-/
namespace Downstream.Yaml.Tag

/-- The name behind the mark of an anchor or an alias, and the place behind it. `what` says which of
the two it is. -/
def anchorName (what : String) (p : Place) : Except Failure (String × Place) :=
  let (name, q) := p.next.takeRun isHandleChar
  if !name.isEmpty && (endsIndicator q.here || "?:,]\x7d%@\x60".toList.contains q.here) then
    .ok (String.ofList name, q)
  else
    q.failsIn (.scanning what) p.mark
      (.expectedText "alphabetic or numeric character" q.here)

structure Purpose where
  what : String
  start : Mark

namespace Purpose

def fails {α : Type} (u : Purpose) (p : Place) (problem : Problem) : Except Failure α :=
  p.failsIn (.scanning u.what) u.start problem

def failsInParts {α : Type} (u : Purpose) (p : Place) (problem : Problem) : Except Failure α :=
  p.failsIn (.parsing u.what) u.start problem

end Purpose

def isTagChar (c : Char) : Bool :=
  isHandleChar c || ";/?:@&=+$,.!~*'()[]".toList.contains c

def escapedBytes (u : Purpose) : (steps : Nat) → Place → Except Failure (List UInt8 × Place)
  | 0, p => .ok ([], p)
  | steps + 1, p =>
    if p.here = '%' then
      let p := p.next
      let digits := (p.rest.take 2).takeWhile (Number.isDigitOf 16)
      if digits.length = 2 then do
        let (others, q) ← escapedBytes u steps (p.forward 2)
        return ((Number.digitsValue 16 digits).toUInt8 :: others, q)
      else
        u.fails p
          (.expectedText "URI escape sequence of 2 hexadecimal numbers" (p.peek digits.length))
    else .ok ([], p)

def tagText (u : Purpose) : (steps : Nat) → Place → Except Failure (List Char × Place)
  | 0, p => .ok ([], p)
  | steps + 1, p => do
    let (run, p) := p.takeRun isTagChar
    if p.here = '%' then
      let (bytes, q) ← escapedBytes u p.steps p
      match Text.decode ⟨bytes.toArray⟩ with
      | .error defect => u.fails p (.undecodable defect)
      | .ok text =>
        let (others, q) ← tagText u steps q
        return (run ++ text.toList ++ others, q)
    else return (run, p)

def tagUri (u : Purpose) (p : Place) : Except Failure (String × Place) := do
  let (text, q) ← tagText u p.steps p
  if q.index = p.index then u.failsInParts p (.expectedText "URI" p.here)
  else return (String.ofList text, q)

/-- A tag handle: one exclamation mark, or a name between two. -/
def handle (u : Purpose) (p : Place) : Except Failure (String × Place) :=
  if p.here != '!' then u.fails p (.expectedText "'!'" p.here)
  else if p.peek 1 = ' ' then .ok ("!", p.next)
  else
    let (name, q) := p.next.takeRun isHandleChar
    if q.here = '!' then .ok (String.ofList ('!' :: name ++ ['!']), q.next)
    else u.fails q (.expectedText "'!'" q.here)

def usesHandle : List Char → Bool
  | [] => false
  | c :: cs => if c = '!' then true else if endsWord c then false else usesHandle cs

def tag (p : Place) : Except Failure (Token × Place) := do
  let u : Purpose := ⟨"a tag", p.mark⟩
  let c := p.peek 1
  let (found, p) ←
    if c = '<' then
      let (suffix, p) ← tagUri u (p.forward 2)
      if p.here = '>' then pure (Token.tag none suffix, p.next)
      else u.failsInParts p (.expectedText "'>'" p.here)
    else if endsIndicator c then pure (Token.tag none "!", p.next)
    else do
      let (name, p) ← if usesHandle (p.rest.drop 1) then handle u p else pure ("!", p.next)
      let (suffix, p) ← tagUri u p
      pure (Token.tag (some name) suffix, p)
  if endsWord p.here then return (found, p) else u.fails p (.expectedText "' '" p.here)

def versionNumber (u : Purpose) (p : Place) : Except Failure (Nat × Place) :=
  let (digits, q) := p.takeRun Char.isDigit
  if digits.isEmpty then u.fails p (.expectedText "a digit" p.here)
  else
    match Number.readInteger 10 (String.ofList digits) with
    | .ok n => .ok (n.toNat, q)
    | .error e => .error (.integer e)

def version (u : Purpose) (p : Place) : Except Failure (Directive × Place) := do
  let (major, p) ← versionNumber u (p.skipRun (· == ' '))
  if p.here != '.' then u.fails p (.expectedText "a digit or '.'" p.here)
  let (minor, p) ← versionNumber u p.next
  if endsWord p.here then return (.version major minor, p)
  else u.fails p (.expectedText "a digit or ' '" p.here)

def handleDefinition (u : Purpose) (p : Place) : Except Failure (Directive × Place) := do
  let (name, p) ← handle u (p.skipRun (· == ' '))
  if p.here != ' ' then u.fails p (.expectedText "' '" p.here)
  let (expansion, p) ← tagUri u (p.skipRun (· == ' '))
  if endsWord p.here then return (.tagHandle name expansion, p)
  else u.fails p (.expectedText "' '" p.here)

def directiveText (u : Purpose) (p : Place) : Except Failure (Directive × Place) := do
  let (name, p) := p.next.takeRun isHandleChar
  if name.isEmpty || !endsWord p.here then
    u.fails p (.expectedText "alphabetic or numeric character" p.here)
  else if name = "YAML".toList then version u p
  else if name = "TAG".toList then handleDefinition u p
  else return (.other, p.skipRun fun c => !endsLine c)

def directive (p : Place) : Except Failure (Token × Place × Place) := do
  let u : Purpose := ⟨"a directive", p.mark⟩
  let (content, stop) ← directiveText u p
  let p := (stop.skipRun (· == ' ')).skipComment
  if endsLine p.here then return (.directive content, stop, p.takeBreak.2)
  else u.fails p (.expectedText "a comment or a line break" p.here)

end Downstream.Yaml.Tag
