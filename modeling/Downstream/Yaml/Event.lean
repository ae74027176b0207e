import Downstream.Yaml.Token.Lexer

/-!
The structure of a YAML document as a sequence of events: scalars, aliases, and the starts and ends
of collections. Each place in the grammar says which tokens may stand there, which event they make,
and what is expected behind it.
-/
namespace Downstream.Yaml

/-- An event. A scalar is `untyped` where its text may decide about its type. -/
inductive Event where
  | documentStart
  | documentEnd
  | streamEnd
  | alias (name : String)
  | scalar (anchor tag : Option String) (untyped : Bool) (text : String)
  | sequenceStart (anchor tag : Option String)
  | sequenceEnd
  | mappingStart (anchor tag : Option String)
  | mappingEnd
  deriving DecidableEq, Repr

structure PlacedEvent where
  event : Event
  start : Mark
  deriving DecidableEq, Repr

namespace Event

def empty : Event := .scalar none none true ""

end Event

inductive Expected where
  | implicitDocumentStart
  | documentStart
  | documentContent
  | documentEnd
  | blockNode
  | blockSequenceEntry (first : Bool) (since : Mark)
  | indentlessEntry
  | blockMappingKey (first : Bool) (since : Mark)
  | blockMappingValue (since : Mark)
  | flowSequenceEntry (first : Bool) (since : Mark)
  | pairKey (since : Mark)
  | pairValue (since : Mark)
  | pairEnd (since : Mark)
  | flowMappingKey (first : Bool) (since : Mark)
  | flowMappingValue (since : Mark)
  | flowMappingNoValue (since : Mark)
  | nothing
  deriving DecidableEq, Repr

structure Grammar where
  expected : Expected
  later : List Expected
  tokens : List Lexeme
  handles : List (String × String)

namespace Grammar

def defaultHandles : List (String × String) :=
  [("!", "!"), ("!!", "tag:yaml.org,2002:")]

/-- A step of the grammar: an event, and the grammar behind it. It fails with a defect of the
document, or with nothing where the tokens have run out. -/
abbrev Step := Except (Option Failure) (PlacedEvent × Grammar)

def fails {α : Type} (mark : Mark) (problem : Problem) : Except (Option Failure) α :=
  .error (some (.malformed { problem, mark }))

def failsIn {α : Type} (what : String) (since : Mark) (problem : String → Problem)
    (found : Lexeme) : Except (Option Failure) α :=
  .error (some (.malformed
    { context := some (.parsing what), since := some since,
      problem := problem found.token.label, mark := found.start }))

def peek (g : Grammar) : Except (Option Failure) Lexeme :=
  match g.tokens with
  | lexeme :: _ => .ok lexeme
  | [] => .error none

def drop (g : Grammar) : Grammar :=
  { g with tokens := g.tokens.tail }

def yields (g : Grammar) (start : Mark) (event : Event) (expected : Expected) : Step :=
  .ok (⟨event, start⟩, { g with expected })

def yieldsAndReturns (g : Grammar) (start : Mark) (event : Event) : Step :=
  match g.later with
  | expected :: later => .ok (⟨event, start⟩, { g with expected, later })
  | [] => .ok (⟨event, start⟩, { g with expected := .nothing })

def putOff (g : Grammar) (expected : Expected) : Grammar :=
  { g with later := expected :: g.later }

structure WrittenTag where
  handle : Option String
  suffix : String
  mark : Mark

def properties (g : Grammar) :
    Except (Option Failure) (Option String × Option WrittenTag × Grammar) := do
  let first ← g.peek
  match first.token with
  | .anchor name =>
    let g := g.drop
    let second ← g.peek
    match second.token with
    | .tag handle suffix => return (some name, some ⟨handle, suffix, second.start⟩, g.drop)
    | _ => return (some name, none, g)
  | .tag handle suffix =>
    let g := g.drop
    let tag : WrittenTag := ⟨handle, suffix, first.start⟩
    let second ← g.peek
    match second.token with
    | .anchor name => return (some name, some tag, g.drop)
    | _ => return (none, some tag, g)
  | _ => return (none, none, g)

def expandTag (g : Grammar) (start : Mark) :
    Option WrittenTag → Except (Option Failure) (Option String)
  | none => .ok none
  | some ⟨none, suffix, _⟩ => .ok (some suffix)
  | some ⟨some handle, suffix, mark⟩ =>
    match g.handles.lookup handle with
    | some expansion => .ok (some (expansion ++ suffix))
    | none =>
      .error (some (.malformed
        { context := some (.parsing "a node"), since := some start,
          problem := .undefinedHandle handle, mark }))

/-- A node. Blocks are allowed in a block only, and a sequence without indentation of its own only
as a member of a block mapping. -/
def node (g : Grammar) (block indentless : Bool) : Step := do
  let first ← g.peek
  match first.token with
  | .alias name => g.drop.yieldsAndReturns first.start (.alias name)
  | _ =>
    let start := first.start
    let (anchor, tag, g) ← g.properties
    let tag ← g.expandTag start tag
    let lexeme ← g.peek
    let since := lexeme.start
    match lexeme.token, block with
    | .blockEntry, _ =>
      if indentless then g.yields start (.sequenceStart anchor tag) .indentlessEntry
      else bare start anchor tag lexeme g
    | .scalar text plain, _ =>
      let untyped := (plain && tag.isNone) || tag = some "!"
      g.drop.yieldsAndReturns start (.scalar anchor tag untyped text)
    | .flowSequenceStart, _ =>
      g.yields start (.sequenceStart anchor tag) (.flowSequenceEntry true since)
    | .flowMappingStart, _ =>
      g.yields start (.mappingStart anchor tag) (.flowMappingKey true since)
    | .blockSequenceStart, true =>
      g.yields start (.sequenceStart anchor tag) (.blockSequenceEntry true since)
    | .blockMappingStart, true =>
      g.yields start (.mappingStart anchor tag) (.blockMappingKey true since)
    | _, _ => bare start anchor tag lexeme g
where
  /-- A node without content has to have an anchor or a tag. -/
  bare (start : Mark) (anchor tag : Option String) (found : Lexeme) (g : Grammar) : Step :=
    if anchor.isNone && tag.isNone then
      failsIn (if block then "a block node" else "a flow node") start
        (.expectedToken "the node content") found
    else g.yieldsAndReturns start (.scalar anchor tag (tag.isNone || tag = some "!") "")

def directives (hasVersion : Bool) (own : List (String × String)) :
    List Lexeme → Except (Option Failure) (List (String × String) × List Lexeme)
  | [] => .error none
  | lexeme :: rest =>
    match lexeme.token with
    | .directive (.version major _) =>
      if hasVersion then fails lexeme.start .repeatedVersion
      else if major != 1 then fails lexeme.start .unknownVersion
      else directives true own rest
    | .directive (.tagHandle handle expansion) =>
      if (own.lookup handle).isSome then fails lexeme.start (.repeatedHandle handle)
      else directives hasVersion ((handle, expansion) :: own) rest
    | .directive .other => directives hasVersion own rest
    | _ => .ok (own, lexeme :: rest)

def dropDocumentEnds (g : Grammar) : Grammar :=
  { g with tokens := g.tokens.dropWhile (·.token == .documentEnd) }

def documentStart (g : Grammar) : Step := do
  let g := g.dropDocumentEnds
  let first ← g.peek
  match first.token with
  | .streamEnd => g.drop.yields first.start .streamEnd .nothing
  | _ =>
    let (own, tokens) ← directives false [] g.tokens
    let g := { g with tokens }
    let lexeme ← g.peek
    match lexeme.token with
    | .documentStart =>
      let g := { g.drop with handles := own ++ defaultHandles }
      (g.putOff .documentEnd).yields first.start .documentStart .documentContent
    | found => fails lexeme.start (.expectedToken "'<document start>'" found.label)

/-- A member of a collection behind its mark: a node, unless one of the given tokens says that it is
left out. -/
def member (g : Grammar) (leftOut : List Token) (after : Expected)
    (node : Grammar → Step) : Step := do
  let mark ← g.peek
  let g := g.drop
  if leftOut.contains (← g.peek).token then g.yields mark.stop .empty after
  else node (g.putOff after)

def step (g : Grammar) : Step := do
  match g.expected with
  | .implicitDocumentStart =>
    let lexeme ← g.peek
    match lexeme.token with
    | .directive _ | .documentStart | .streamEnd => g.documentStart
    | _ =>
      let g := { g with handles := defaultHandles }
      (g.putOff .documentEnd).yields lexeme.start .documentStart .blockNode
  | .documentStart => g.documentStart
  | .documentContent =>
    let lexeme ← g.peek
    match lexeme.token with
    | .directive _ | .documentStart | .documentEnd | .streamEnd =>
      g.yieldsAndReturns lexeme.start .empty
    | _ => g.node true false
  | .documentEnd =>
    let lexeme ← g.peek
    match lexeme.token with
    | .documentEnd => g.drop.yields lexeme.start .documentEnd .documentStart
    | _ => g.yields lexeme.start .documentEnd .documentStart
  | .blockNode => g.node true false
  | .blockSequenceEntry first since =>
    let g := if first then g.drop else g
    let lexeme ← g.peek
    match lexeme.token with
    | .blockEntry =>
      g.member [.blockEntry, .blockEnd] (.blockSequenceEntry false since) (·.node true false)
    | .blockEnd => g.drop.yieldsAndReturns lexeme.start .sequenceEnd
    | _ => failsIn "a block collection" since (.expectedToken "<block end>") lexeme
  | .indentlessEntry =>
    let lexeme ← g.peek
    match lexeme.token with
    | .blockEntry =>
      g.member [.blockEntry, .key, .value, .blockEnd] .indentlessEntry (·.node true false)
    | _ => g.yieldsAndReturns lexeme.start .sequenceEnd
  | .blockMappingKey first since =>
    let g := if first then g.drop else g
    let lexeme ← g.peek
    match lexeme.token with
    | .key => g.member [.key, .value, .blockEnd] (.blockMappingValue since) (·.node true true)
    | .blockEnd => g.drop.yieldsAndReturns lexeme.start .mappingEnd
    | _ => failsIn "a block mapping" since (.expectedToken "<block end>") lexeme
  | .blockMappingValue since =>
    let lexeme ← g.peek
    match lexeme.token with
    | .value =>
      g.member [.key, .value, .blockEnd] (.blockMappingKey false since) (·.node true true)
    | _ => g.yields lexeme.start .empty (.blockMappingKey false since)
  | .flowSequenceEntry first since =>
    let g := if first then g.drop else g
    let lexeme ← g.peek
    match lexeme.token with
    | .flowSequenceEnd => g.drop.yieldsAndReturns lexeme.start .sequenceEnd
    | token =>
      if !first && token != .flowEntry then
        failsIn "a flow sequence" since (.expectedMark "',' or ']'") lexeme
      else
        let g := if first then g else g.drop
        let lexeme ← g.peek
        match lexeme.token with
        | .key => g.yields lexeme.start (.mappingStart none none) (.pairKey since)
        | .flowSequenceEnd => g.drop.yieldsAndReturns lexeme.start .sequenceEnd
        | _ => (g.putOff (.flowSequenceEntry false since)).node false false
  | .pairKey since =>
    g.member [.value, .flowEntry, .flowSequenceEnd] (.pairValue since) (·.node false false)
  | .pairValue since =>
    let lexeme ← g.peek
    match lexeme.token with
    | .value => g.member [.flowEntry, .flowSequenceEnd] (.pairEnd since) (·.node false false)
    | _ => g.yields lexeme.start .empty (.pairEnd since)
  | .pairEnd since =>
    let lexeme ← g.peek
    g.yields lexeme.start .mappingEnd (.flowSequenceEntry false since)
  | .flowMappingKey first since =>
    let g := if first then g.drop else g
    let lexeme ← g.peek
    match lexeme.token with
    | .flowMappingEnd => g.drop.yieldsAndReturns lexeme.start .mappingEnd
    | token =>
      if !first && token != .flowEntry then
        failsIn "a flow mapping" since (.expectedMark "',' or '\x7d'") lexeme
      else
        let g := if first then g else g.drop
        let lexeme ← g.peek
        match lexeme.token with
        | .key =>
          g.member [.value, .flowEntry, .flowMappingEnd] (.flowMappingValue since)
            (·.node false false)
        | .flowMappingEnd => g.drop.yieldsAndReturns lexeme.start .mappingEnd
        | _ => (g.putOff (.flowMappingNoValue since)).node false false
  | .flowMappingValue since =>
    let lexeme ← g.peek
    match lexeme.token with
    | .value =>
      g.member [.flowEntry, .flowMappingEnd] (.flowMappingKey false since) (·.node false false)
    | _ => g.yields lexeme.start .empty (.flowMappingKey false since)
  | .flowMappingNoValue since =>
    let lexeme ← g.peek
    g.yields lexeme.start .empty (.flowMappingKey false since)
  | .nothing => .error none

def brokenOff (g : Grammar) : Failure :=
  let mark := match g.tokens with
    | lexeme :: _ => lexeme.start
    | [] => ⟨0, 0, 0⟩
  .malformed { problem := .endOfText, mark }

/-- The events up to the end of the stream, or up to a failure; `done` holds them, last first, and
`ending` says how the tokens end. -/
def run (ending : Option Failure) : (steps : Nat) → (done : List PlacedEvent) → Grammar →
    Stream PlacedEvent
  | 0, done, g => ⟨done.reverse, some g.brokenOff⟩
  | steps + 1, done, g =>
    match g.step with
    | .ok (⟨.streamEnd, start⟩, _) => ⟨(⟨.streamEnd, start⟩ :: done).reverse, none⟩
    | .ok (event, g) => run ending steps (event :: done) g
    | .error (some failure) => ⟨done.reverse, some failure⟩
    | .error none => ⟨done.reverse, some (ending.getD g.brokenOff)⟩

end Grammar

/-- The events of a sequence of tokens. No token makes more than six. -/
def Event.ofTokens (tokens : Stream Lexeme) : Stream PlacedEvent :=
  Grammar.run tokens.failure (6 * tokens.items.length + 16) []
    ⟨.implicitDocumentStart, [], tokens.items, Grammar.defaultHandles⟩

end Downstream.Yaml
