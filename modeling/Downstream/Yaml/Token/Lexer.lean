import Downstream.Yaml.Token.Block
import Downstream.Yaml.Token.Plain
import Downstream.Yaml.Token.Quoted
import Downstream.Yaml.Token.Tag

/-!
Cutting a YAML text into tokens. Indentation opens and closes blocks. Whether a word is a key shows
only at the colon behind it, so the place of every word that may be a key is remembered, one for
each level of brackets, until a colon settles it or the line ends.
-/
namespace Downstream.Yaml

/-- A word that may turn out to be a key: the number of its token, and where it began. A word that
starts a line of an open block has to be a key. -/
structure PossibleKey where
  tokenNumber : Nat
  required : Bool
  mark : Mark

/-- What the lexer knows at a place. The tokens stand last first. -/
structure Lexer where
  place : Place
  tokens : List Lexeme := []
  tokenCount : Nat := 0
  flowLevel : Nat := 0
  indent : Int := -1
  outerIndents : List Int := []
  allowKey : Bool := true
  possibleKeys : List (Nat × PossibleKey) := []

namespace Lexer

def maxKeyLength : Nat := 1024

def inFlow (s : Lexer) : Bool :=
  s.flowLevel != 0

def emitUpTo (s : Lexer) (stop : Place) (token : Token) : Lexer :=
  { s with tokens := ⟨token, s.place.mark, stop.mark⟩ :: s.tokens,
           tokenCount := s.tokenCount + 1 }

def emit (s : Lexer) (token : Token) : Lexer :=
  s.emitUpTo s.place token

def insertAt (s : Lexer) (key : PossibleKey) (token : Token) : Lexer :=
  { s with
    tokens := s.tokens.insertIdx (s.tokenCount - key.tokenNumber) ⟨token, key.mark, key.mark⟩,
    tokenCount := s.tokenCount + 1 }

def isStale (s : Lexer) (key : PossibleKey) : Bool :=
  key.mark.line != s.place.line || maxKeyLength < s.place.index - key.mark.index

def noKey {α : Type} (s : Lexer) (key : PossibleKey) : Except Failure α :=
  s.place.failsIn (.scanning "a simple key") key.mark .noColon

def dropStale (s : Lexer) : Except Failure Lexer :=
  match s.possibleKeys.find? fun (_, key) => s.isStale key && key.required with
  | some (_, key) => s.noKey key
  | none => .ok { s with possibleKeys := s.possibleKeys.filter fun (_, key) => !s.isStale key }

def dropKey (s : Lexer) : Except Failure Lexer :=
  match s.possibleKeys.lookup s.flowLevel with
  | none => .ok s
  | some key =>
    if key.required then s.noKey key
    else .ok { s with possibleKeys := s.possibleKeys.filter fun (level, _) => level != s.flowLevel }

def saveKey (s : Lexer) : Except Failure Lexer :=
  if s.allowKey then do
    let required := !s.inFlow && s.indent == (s.place.column : Int)
    let s ← s.dropKey
    return { s with
      possibleKeys := (s.flowLevel, ⟨s.tokenCount, required, s.place.mark⟩) :: s.possibleKeys }
  else .ok s

/-- The indentation and the outer ones once the blocks deeper than a column are closed, and how many
are. -/
def closing (column : Int) (indent : Int) : List Int → Int × List Int × Nat
  | [] => (indent, [], 0)
  | outer :: rest =>
    if column < indent then
      let (indent, outers, count) := closing column outer rest
      (indent, outers, count + 1)
    else (indent, outer :: rest, 0)

/-- Closes the blocks deeper than a column; inside brackets indentation says nothing. -/
def unwind (s : Lexer) (column : Int) : Lexer :=
  if s.inFlow then s
  else
    let (indent, outers, count) := closing column s.indent s.outerIndents
    { s with indent, outerIndents := outers,
             tokens := List.replicate count ⟨.blockEnd, s.place.mark, s.place.mark⟩ ++ s.tokens,
             tokenCount := s.tokenCount + count }

def openBlock (s : Lexer) (column : Nat) : Bool × Lexer :=
  if s.indent < column then
    (true, { s with indent := column, outerIndents := s.indent :: s.outerIndents })
  else (false, s)

/-- Skips blanks, comments and line breaks; outside brackets a key may start on a new line. -/
def skipBlanks : (steps : Nat) → Lexer → Lexer
  | 0, s => s
  | steps + 1, s =>
    let p := (s.place.skipRun (· == ' ')).skipComment
    if isBreak p.here then
      skipBlanks steps { s with place := p.takeBreak.2, allowKey := s.allowKey || !s.inFlow }
    else { s with place := p }

def toNextToken (s : Lexer) : Lexer :=
  let s :=
    if s.place.index = 0 && s.place.here = '\uFEFF' then { s with place := s.place.next } else s
  skipBlanks s.place.steps s

def mark (s : Lexer) (token : Token) : Lexer :=
  { s.emitUpTo s.place.next token with place := s.place.next }

def documentMark (s : Lexer) (token : Token) : Except Failure Lexer := do
  let s ← (s.unwind (-1)).dropKey
  let place := s.place.forward 3
  return { s.emitUpTo place token with place, allowKey := false }

def openFlow (s : Lexer) (token : Token) : Except Failure Lexer := do
  let s ← s.saveKey
  return { s.mark token with flowLevel := s.flowLevel + 1, allowKey := true }

def closeFlow (s : Lexer) (token : Token) : Except Failure Lexer := do
  let s ← s.dropKey
  return { s.mark token with flowLevel := s.flowLevel - 1, allowKey := false }

def flowEntry (s : Lexer) : Except Failure Lexer := do
  let s ← { s with allowKey := true }.dropKey
  return s.mark .flowEntry

def blockEntry (s : Lexer) : Except Failure Lexer := do
  if !s.inFlow && !s.allowKey then s.place.fails (.notAllowedHere "sequence entries")
  let (opened, s) := if s.inFlow then (false, s) else s.openBlock s.place.column
  let s := if opened then s.emit .blockSequenceStart else s
  let s ← { s with allowKey := true }.dropKey
  return s.mark .blockEntry

def explicitKey (s : Lexer) : Except Failure Lexer := do
  if !s.inFlow && !s.allowKey then s.place.fails (.notAllowedHere "mapping keys")
  let (opened, s) := if s.inFlow then (false, s) else s.openBlock s.place.column
  let s := if opened then s.emit .blockMappingStart else s
  let s ← { s with allowKey := !s.inFlow }.dropKey
  return s.mark .key

def value (s : Lexer) : Except Failure Lexer := do
  match s.possibleKeys.lookup s.flowLevel with
  | some key =>
    let s := { s.insertAt key .key with
      possibleKeys := s.possibleKeys.filter fun (level, _) => level != s.flowLevel,
      allowKey := false }
    let (opened, s) := if s.inFlow then (false, s) else s.openBlock key.mark.column
    let s := if opened then s.insertAt key .blockMappingStart else s
    return s.mark .value
  | none =>
    if !s.inFlow && !s.allowKey then s.place.fails (.notAllowedHere "mapping values")
    let (opened, s) := if s.inFlow then (false, s) else s.openBlock s.place.column
    let s := if opened then s.emit .blockMappingStart else s
    let s ← { s with allowKey := !s.inFlow }.dropKey
    return s.mark .value

def keyed (s : Lexer) (read : Place → Except Failure (Token × Place)) : Except Failure Lexer := do
  let s ← s.saveKey
  let (token, place) ← read s.place
  return { s.emitUpTo place token with place, allowKey := false }

def quotedScalar (p : Place) : Except Failure (Token × Place) := do
  let (text, q) ← Quoted.scan p
  return (.scalar text false, q)

def plainScalar (s : Lexer) : Except Failure Lexer := do
  let s ← s.saveKey
  let found := Plain.scan s.inFlow s.indent s.place
  return { s.emitUpTo found.place (.scalar (String.ofList found.text) true) with
    place := found.place, allowKey := found.allowKey }

def blockScalar (s : Lexer) : Except Failure Lexer := do
  let s ← { s with allowKey := true }.dropKey
  let (text, place) ← Block.scan s.indent s.place
  return { s.emitUpTo place (.scalar text false) with place }

def nextToken (s : Lexer) : Except Failure (Option Lexer) := do
  let s ← s.toNextToken.dropStale
  let s := s.unwind s.place.column
  let p := s.place
  let c := p.here
  let atIndicatorEnd := endsIndicator (p.peek 1)
  let atDocumentMark := p.column = 0 && p.atDocumentMark
  if c = '\u0000' then return none
  else if c = '%' && p.column = 0 then
    let s ← (s.unwind (-1)).dropKey
    let (token, stop, place) ← Tag.directive s.place
    return some { s.emitUpTo stop token with place, allowKey := false }
  else if c = '-' && atDocumentMark then some <$> s.documentMark .documentStart
  else if c = '.' && atDocumentMark then some <$> s.documentMark .documentEnd
  else if c = '[' then some <$> s.openFlow .flowSequenceStart
  else if c = '\x7b' then some <$> s.openFlow .flowMappingStart
  else if c = ']' then some <$> s.closeFlow .flowSequenceEnd
  else if c = '\x7d' then some <$> s.closeFlow .flowMappingEnd
  else if c = ',' then some <$> s.flowEntry
  else if c = '-' && atIndicatorEnd then some <$> s.blockEntry
  else if c = '?' && (s.inFlow || atIndicatorEnd) then some <$> s.explicitKey
  else if c = ':' && (s.inFlow || atIndicatorEnd) then some <$> s.value
  else if c = '*' then some <$> s.keyed fun p => do
    let (name, q) ← Tag.anchorName "an alias" p
    return (.alias name, q)
  else if c = '&' then some <$> s.keyed fun p => do
    let (name, q) ← Tag.anchorName "an anchor" p
    return (.anchor name, q)
  else if c = '!' then some <$> s.keyed Tag.tag
  else if (c = '|' || c = '>') && !s.inFlow then some <$> s.blockScalar
  else if c = '\'' || c = '"' then some <$> s.keyed quotedScalar
  else if Plain.canStart s.inFlow p then some <$> s.plainScalar
  else
    throw (.malformed
      { context := some (.scanning "for the next token"), problem := .startsNoToken c,
        mark := p.mark })

/-- How many tokens are settled: those in front of every word that may still turn out to be a
key. -/
def settledCount (s : Lexer) : Nat :=
  s.possibleKeys.foldl (fun count (_, key) => min count key.tokenNumber) s.tokenCount

def firstTokens (s : Lexer) (count : Nat) : List Lexeme :=
  (s.tokens.drop (s.tokenCount - count)).reverse

/-- The tokens up to the end of the text, or those in front of a failure that were `settled` when
the step that fails began. -/
def run (settled : Nat) : (steps : Nat) → Lexer → Stream Lexeme
  | 0, s =>
    ⟨s.firstTokens settled, some (.malformed { problem := .endOfText, mark := s.place.mark })⟩
  | steps + 1, s =>
    match s.dropStale with
    | .error failure => ⟨s.firstTokens settled, some failure⟩
    | .ok s =>
      let settled := s.settledCount
      match s.nextToken with
      | .error failure => ⟨s.firstTokens settled, some failure⟩
      | .ok (some s) => run settled steps s
      | .ok none =>
        match (s.toNextToken.unwind (-1)).dropKey with
        | .error failure => ⟨s.firstTokens settled, some failure⟩
        | .ok s => ⟨(s.emit .streamEnd).tokens.reverse, none⟩

end Lexer

/-- The tokens of a text. A text with a character that no document may hold has none. -/
def Token.scan (text : String) : Stream Lexeme :=
  let cs := text.toList
  match cs.find? fun c => !isAllowed c with
  | none => Lexer.run 0 (cs.length + 2) { place := .start cs }
  | some c =>
    let mark := ⟨(cs.takeWhile isAllowed).length, 0, 0⟩
    ⟨[], some (.malformed { problem := .forbidden c, mark })⟩

end Downstream.Yaml
