import Downstream.Yaml.Base64
import Downstream.Yaml.Node
import Downstream.Yaml.Number
import Downstream.Yaml.Timestamp

/-!
The values of a YAML document. Each node gets a value by its tag; collections hold the numbers of
their members, whose values are looked up. Collections are filled in the order in which they are
met, those of an outer level before those of an inner one, so the first failure is that of the
outermost level.
-/
namespace Downstream.Yaml

/-- A value; the members of collections are numbers of nodes. -/
inductive Value where
  | null
  | bool (value : Bool)
  | int (value : Int)
  | float (bits : Nat)
  | str (text : String)
  | bytes (values : List Nat)
  | moment
  | sequence (items : List Nat)
  | mapping (entries : List (Nat × Nat))
  | set
  | pairs
  deriving DecidableEq, Repr

def Value.isKey : Value → Bool
  | .sequence _ | .mapping _ | .set | .pairs => false
  | _ => true

def boolWord? : String → Option Bool
  | "yes" => some true
  | "no" => some false
  | "true" => some true
  | "false" => some false
  | "on" => some true
  | "off" => some false
  | _ => none

/-- The values found so far, and the collections still to be filled, last first. The weight bounds
how much merging there may be. -/
structure ValueBuilder where
  nodes : Array Node
  marks : Array Mark
  weight : Nat
  values : Array (Option Value)
  waiting : List Nat

namespace ValueBuilder

/-- How much a node weighs: one for each member, and more for what it is itself. -/
def weightOf : Node → Nat
  | .scalar _ _ => 1
  | .sequence _ items => items.length + 2
  | .mapping _ entries => 2 * entries.length + 2

def ofGraph (graph : NodeGraph) : ValueBuilder :=
  { nodes := graph.nodes, marks := graph.marks, values := graph.nodes.map fun _ => none,
    weight := graph.nodes.foldl (fun total node => total + weightOf node) 0, waiting := [] }

def node (b : ValueBuilder) (number : Nat) : Node :=
  b.nodes[number]?.getD (.scalar (standardTag "null") "")

def markOf (b : ValueBuilder) (number : Nat) : Mark :=
  b.marks[number]?.getD ⟨0, 0, 0⟩

def fails {α : Type} (b : ValueBuilder) (number : Nat) (problem : Problem) : Except Failure α :=
  .error (.malformed { problem, mark := b.markOf number })

def failsIn {α : Type} (b : ValueBuilder) (what : String) (since number : Nat)
    (problem : Problem) : Except Failure α :=
  .error (.malformed
    { context := some (.constructing what), since := some (b.markOf since), problem,
      mark := b.markOf number })

def wrongForm {α : Type} (b : ValueBuilder) (number : Nat) (expected : String) :
    Except Failure α :=
  b.fails number (.expectedNode expected (b.node number).label)

/-- The text of a node that has to be a scalar; a mapping stands for the value of its default
key. Steps run out where a mapping stands for itself. -/
def scalarText (b : ValueBuilder) : (steps : Nat) → (number : Nat) → Except Failure String
  | 0, _ => .error .tooDeep
  | steps + 1, number =>
    match b.node number with
    | .scalar _ text => .ok text
    | .mapping _ entries =>
      match entries.find? fun (key, _) => (b.node key).tag = standardTag "value" with
      | some (_, value) => b.scalarText steps value
      | none => b.wrongForm number "a scalar node"
    | .sequence _ _ => b.wrongForm number "a scalar node"

/-- The value of a node that is complete at once, or the value of a collection before it is
filled. -/
def initialValue (b : ValueBuilder) (number : Nat) : Except Failure Value := do
  let text := b.scalarText (b.nodes.size + 1) number
  let node := b.node number
  let tag := node.tag
  if tag = standardTag "null" then
    let _ ← text
    return .null
  else if tag = standardTag "bool" then
    match boolWord? (Text.lowered (← text)) with
    | some value => return .bool value
    | none => throw (.notABool (Text.lowered (← text)))
  else if tag = standardTag "int" then return .int (← integerOf (← text))
  else if tag = standardTag "float" then return .float (← floatBitsOf (← text))
  else if tag = standardTag "binary" then
    match Base64.decode (← text) with
    | .ok bytes => return .bytes bytes
    | .error problem => b.fails number problem
  else if tag = standardTag "timestamp" then
    let text ← text
    match node with
    | .scalar _ _ =>
      checkTimestamp text
      return .moment
    | _ => throw .dateFromCollection
  else if tag = standardTag "str" then return .str (← text)
  else if tag = standardTag "omap" || tag = standardTag "pairs" then return .pairs
  else if tag = standardTag "set" then return .set
  else if tag = standardTag "seq" then return .sequence []
  else if tag = standardTag "map" then return .mapping []
  else b.fails number (.unknownTag tag)

def isCollection : Value → Bool
  | .sequence _ | .mapping _ | .set | .pairs => true
  | _ => false

/-- The value of a node, worked out unless it is known; a collection joins those to be filled. -/
def visit (b : ValueBuilder) (number : Nat) : Except Failure (Value × ValueBuilder) := do
  match b.values[number]?.getD none with
  | some value => return (value, b)
  | none =>
    let value ← b.initialValue number
    let b := { b with values := b.values.setIfInBounds number (some value) }
    return (value, if isCollection value then { b with waiting := number :: b.waiting } else b)

def entries (b : ValueBuilder) (number : Nat) : List (Nat × Nat) :=
  match b.nodes[number]? with
  | some (.mapping _ entries) => entries
  | _ => []

def setEntries (b : ValueBuilder) (number : Nat) (entries : List (Nat × Nat)) : ValueBuilder :=
  match b.nodes[number]? with
  | some (.mapping tag _) =>
    { b with nodes := b.nodes.setIfInBounds number (.mapping tag entries),
             weight := b.weight + 2 * entries.length }
  | _ => b

def setTag (b : ValueBuilder) (number : Nat) (tag : String) : ValueBuilder :=
  let put (node : Node) : ValueBuilder := { b with nodes := b.nodes.setIfInBounds number node }
  match b.nodes[number]? with
  | some (.scalar _ text) => put (.scalar tag text)
  | some (.sequence _ items) => put (.sequence tag items)
  | some (.mapping _ entries) => put (.mapping tag entries)
  | none => b

def isMerging (b : ValueBuilder) (number : Nat) : Bool :=
  (b.entries number).any fun (key, _) =>
    (b.node key).tag = standardTag "merge" || (b.node key).tag = standardTag "value"

mutual

/-- Puts the entries of merged mappings in front of a mapping's own: those of a merge key's mapping,
or of the mappings in its sequence, the last one first. -/
def merge : (steps : Nat) → ValueBuilder → Nat → Except Failure ValueBuilder
  | 0, _, _ => .error .tooDeep
  | steps + 1, b, number => do
    if !b.isMerging number then return b
    let (merged, b) ← mergeFrom steps b number 0 []
    return if merged.isEmpty then b else b.setEntries number (merged ++ b.entries number)

/-- Takes the merge keys out of a mapping from the entry numbered `index` on, and gives the entries
that they bring. -/
def mergeFrom : (steps : Nat) → ValueBuilder → Nat → Nat → List (Nat × Nat) →
    Except Failure (List (Nat × Nat) × ValueBuilder)
  | 0, _, _, _, _ => .error .tooDeep
  | steps + 1, b, number, index, merged => do
    match (b.entries number)[index]? with
    | none => return (merged, b)
    | some (key, value) =>
      let tag := (b.node key).tag
      if tag = standardTag "merge" then
        let b := b.setEntries number ((b.entries number).eraseIdx index)
        match b.node value with
        | .mapping _ _ =>
          let b ← merge steps b value
          mergeFrom steps b number index (merged ++ b.entries value)
        | .sequence _ items =>
          let (parts, b) ← mergeItems steps b number items
          mergeFrom steps b number index (merged ++ parts.reverse.flatten)
        | .scalar _ _ =>
          b.failsIn "a mapping" number value
            (.expectedNode "a mapping or list of mappings for merging" "scalar")
      else if tag = standardTag "value" then
        mergeFrom steps (b.setTag key (standardTag "str")) number (index + 1) merged
      else mergeFrom steps b number (index + 1) merged

def mergeItems : (steps : Nat) → ValueBuilder → Nat → List Nat →
    Except Failure (List (List (Nat × Nat)) × ValueBuilder)
  | 0, _, _, _ => .error .tooDeep
  | _, b, _, [] => .ok ([], b)
  | steps + 1, b, number, item :: items => do
    match b.node item with
    | .mapping _ _ =>
      let b ← merge steps b item
      let entries := b.entries item
      let (others, b) ← mergeItems steps b number items
      return (entries :: others, b)
    | other =>
      b.failsIn "a mapping" number item (.expectedNode "a mapping for merging" other.label)

end

def mergeSteps (b : ValueBuilder) : Nat :=
  (b.weight + 1) * (b.weight + 1) * 2

def visitEntries (b : ValueBuilder) (number : Nat) :
    List (Nat × Nat) → Except Failure ValueBuilder
  | [] => .ok b
  | (key, value) :: rest => do
    let (found, b) ← b.visit key
    if !found.isKey then b.failsIn "a mapping" number key .unusableKey
    let (_, b) ← b.visit value
    b.visitEntries number rest

def visitItems (b : ValueBuilder) : List Nat → Except Failure ValueBuilder
  | [] => .ok b
  | item :: rest => do
    let (_, b) ← b.visit item
    b.visitItems rest

def visitPairs (b : ValueBuilder) (what : String) (number : Nat) :
    List Nat → Except Failure ValueBuilder
  | [] => .ok b
  | item :: rest => do
    match b.node item with
    | .mapping _ [(key, value)] =>
      let (_, b) ← b.visit key
      let (_, b) ← b.visit value
      b.visitPairs what number rest
    | .mapping _ entries =>
      b.failsIn what number item
        (.expectedNode "a single mapping item" (toString entries.length ++ " items"))
    | other => b.failsIn what number item (.expectedNode "a mapping of length 1" other.label)

def fill (b : ValueBuilder) (number : Nat) : Except Failure ValueBuilder := do
  let complete (b : ValueBuilder) (value : Value) : ValueBuilder :=
    { b with values := b.values.setIfInBounds number (some value) }
  match b.values[number]?.getD none, b.node number with
  | some (.sequence _), .sequence _ items =>
    return complete (← b.visitItems items) (.sequence items)
  | some (.sequence _), _ => b.wrongForm number "a sequence node"
  | some .pairs, node =>
    let what := if node.tag = standardTag "omap" then "an ordered map" else "pairs"
    match node with
    | .sequence _ items => b.visitPairs what number items
    | _ => b.failsIn what number number (.expectedNode "a sequence" node.label)
  | value, .mapping _ _ =>
    let b ← merge b.mergeSteps b number
    let entries := b.entries number
    let b ← b.visitEntries number entries
    return if value = some .set then b else complete b (.mapping entries)
  | _, _ => b.wrongForm number "a mapping node"

/-- Fills collections until none is waiting: all that are, and then those met in filling them. Every
node waits at most once. -/
def fillAll : (steps : Nat) → ValueBuilder → Except Failure ValueBuilder
  | 0, b => .ok b
  | steps + 1, b =>
    if b.waiting.isEmpty then .ok b
    else do
      let b ← b.waiting.reverse.foldlM fill { b with waiting := [] }
      fillAll steps b

end ValueBuilder

structure Document where
  values : Array (Option Value)
  root : Nat

namespace Document

def value (d : Document) (number : Nat) : Value :=
  (d.values[number]?.getD none).getD .null

/-- The value of a text key of a mapping; of several entries the last one counts. -/
def lookup? (d : Document) (entries : List (Nat × Nat)) (key : String) : Option Value :=
  (entries.reverse.find? fun entry => d.value entry.1 == .str key).map fun entry => d.value entry.2

def ofGraph (graph : NodeGraph) : Except Failure (Option Document) := do
  match graph.root with
  | none => return none
  | some root =>
    let b := ValueBuilder.ofGraph graph
    let (_, b) ← b.visit root
    let b ← ValueBuilder.fillAll (graph.nodes.size + 1) b
    return some ⟨b.values, root⟩

def parse (text : String) : Except Failure (Option Document) := do
  let graph ← NodeGraph.ofEvents (Event.ofTokens (Token.scan text))
  ofGraph graph

end Document

end Downstream.Yaml
