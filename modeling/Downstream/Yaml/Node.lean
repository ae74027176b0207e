import Downstream.Yaml.Event
import Downstream.Yaml.PlainType

/-!
The nodes of a YAML document. Nodes are numbered in the order in which they begin, and collections
list the numbers of their members, so that an alias is just another use of a number and a collection
may hold itself.
-/
namespace Downstream.Yaml

inductive Node where
  | scalar (tag text : String)
  | sequence (tag : String) (items : List Nat)
  | mapping (tag : String) (entries : List (Nat × Nat))
  deriving DecidableEq, Repr

def Node.tag : Node → String
  | .scalar tag _ => tag
  | .sequence tag _ => tag
  | .mapping tag _ => tag

/-- A collection that is still open: its number and tag, its members so far, last first, and whether
it is a mapping. The members of a mapping are its keys and values in turn. -/
structure OpenCollection where
  number : Nat
  tag : String
  isMapping : Bool
  members : List Nat

def Node.label : Node → String
  | .scalar _ _ => "scalar"
  | .sequence _ _ => "sequence"
  | .mapping _ _ => "mapping"

structure NodeBuilder where
  nodes : Array Node := #[]
  marks : Array Mark := #[]
  anchors : List (String × Nat) := []
  stack : List OpenCollection := []
  root : Option Nat := none
  ended : Bool := false

def pairUp : List Nat → List (Nat × Nat)
  | key :: value :: rest => (key, value) :: pairUp rest
  | _ => []

namespace NodeBuilder

def attach (b : NodeBuilder) (number : Nat) : NodeBuilder :=
  match b.stack with
  | top :: rest => { b with stack := { top with members := number :: top.members } :: rest }
  | [] => { b with root := some number }

def markOf (b : NodeBuilder) (number : Nat) : Mark :=
  b.marks[number]?.getD ⟨0, 0, 0⟩

def name (b : NodeBuilder) (start : Mark) (anchor : Option String) (number : Nat) :
    Except Failure NodeBuilder :=
  match anchor with
  | none => .ok b
  | some name =>
    match b.anchors.lookup name with
    | some first =>
      .error (.malformed
        { context := some (.firstAnchor name), since := some (b.markOf first),
          problem := .secondAnchor, mark := start })
    | none => .ok { b with anchors := (name, number) :: b.anchors }

def tagOr (fallback : String) : Option String → String
  | none => fallback
  | some "!" => fallback
  | some tag => tag

def maxNesting : Nat := 487

def enter (b : NodeBuilder) (start : Mark) (anchor : Option String) (tag : String)
    (isMapping : Bool) : Except Failure NodeBuilder := do
  let number := b.nodes.size
  if maxNesting ≤ b.stack.length then throw .tooDeep
  let b ← b.name start anchor number
  return { b with nodes := b.nodes.push (.sequence tag []),
                  marks := b.marks.push start,
                  stack := ⟨number, tag, isMapping, []⟩ :: b.stack }

def leave (b : NodeBuilder) : NodeBuilder :=
  match b.stack with
  | [] => b
  | top :: rest =>
    let members := top.members.reverse
    let node := if top.isMapping then Node.mapping top.tag (pairUp members)
      else .sequence top.tag members
    { b with nodes := b.nodes.setIfInBounds top.number node, stack := rest }.attach top.number

/-- Takes an event into account. A second document is refused. -/
def take (b : NodeBuilder) (placed : PlacedEvent) : Except Failure NodeBuilder :=
  let start := placed.start
  match placed.event with
  | .documentStart =>
    if b.ended then
      .error (.malformed
        { context := some .singleDocument, since := some (b.markOf (b.root.getD 0)),
          problem := .secondDocument, mark := start })
    else .ok b
  | .documentEnd => .ok { b with ended := true }
  | .streamEnd => .ok b
  | .alias name =>
    match b.anchors.lookup name with
    | some number => .ok (b.attach number)
    | none => .error (.malformed { problem := .undefinedAlias name, mark := start })
  | .scalar anchor tag untyped text => do
    let fallback := if untyped then PlainType.tagOf text else standardTag "str"
    let number := b.nodes.size
    let b ← b.name start anchor number
    return { b with nodes := b.nodes.push (.scalar (tagOr fallback tag) text),
                    marks := b.marks.push start }.attach number
  | .sequenceStart anchor tag => b.enter start anchor (tagOr (standardTag "seq") tag) false
  | .mappingStart anchor tag => b.enter start anchor (tagOr (standardTag "map") tag) true
  | .sequenceEnd => .ok b.leave
  | .mappingEnd => .ok b.leave

end NodeBuilder

structure NodeGraph where
  nodes : Array Node
  marks : Array Mark
  root : Option Nat

def NodeGraph.ofEvents (events : Stream PlacedEvent) : Except Failure NodeGraph := do
  let b ← events.items.foldlM NodeBuilder.take {}
  match events.failure with
  | some failure => throw failure
  | none => return ⟨b.nodes, b.marks, b.root⟩

end Downstream.Yaml
