import Downstream.Proofs.Except
import Downstream.Yaml.Value

/-!
The failures of finding the values of nodes. Apart from what breaks the rules of the format, there is
a scalar whose text cannot be read as its tag asks for. Merging moves entries about and takes tags
away, but it changes neither what a node is nor the text of a scalar, so the scalar is one of the
document.
-/
namespace Downstream.Yaml

inductive Unreadable : (tag text : String) → Failure → Prop
  | bool {text : String} : boolWord? (Text.lowered text) = none →
    Unreadable (standardTag "bool") text (.notABool (Text.lowered text))
  | integer {text : String} {failure : Failure} : integerOf text = .error failure →
    Unreadable (standardTag "int") text failure
  | float {text : String} {failure : Failure} : floatBitsOf text = .error failure →
    Unreadable (standardTag "float") text failure
  | moment {text : String} {failure : Failure} : checkTimestamp text = .error failure →
    Unreadable (standardTag "timestamp") text failure

/-- What finding the values of nodes fails with. A mapping is read as the scalar that stands for
it. -/
inductive ValueFailure (node : Nat → Node) : Failure → Prop
  | malformed (complaint : Complaint) : ValueFailure node (.malformed complaint)
  | endless : ValueFailure node .tooDeep
  | scalar {number : Nat} {tag text : String} {failure : Failure} :
    node number = .scalar tag text → Unreadable tag text failure → ValueFailure node failure
  | standIn {number other : Nat} {tag ownTag text : String} {entries : List (Nat × Nat)}
    {failure : Failure} : node number = .mapping tag entries → node other = .scalar ownTag text →
    Unreadable tag text failure → ValueFailure node failure
  | dateFromCollection {number : Nat} {entries : List (Nat × Nat)} :
    node number = .mapping (standardTag "timestamp") entries →
    ValueFailure node .dateFromCollection

/-- A node is of the same form as another one and has its text, and its tag unless that has been
taken away. -/
inductive Node.ComesFrom : Node → Node → Prop
  | scalar {tag ownTag text : String} : tag = ownTag ∨ tag = standardTag "str" →
    ComesFrom (.scalar tag text) (.scalar ownTag text)
  | sequence {tag ownTag : String} {items others : List Nat} :
    tag = ownTag ∨ tag = standardTag "str" →
    ComesFrom (.sequence tag items) (.sequence ownTag others)
  | mapping {tag ownTag : String} {entries others : List (Nat × Nat)} :
    tag = ownTag ∨ tag = standardTag "str" →
    ComesFrom (.mapping tag entries) (.mapping ownTag others)

theorem Node.ComesFrom.refl (node : Node) : node.ComesFrom node := by
  cases node
  · exact .scalar (.inl rfl)
  · exact .sequence (.inl rfl)
  · exact .mapping (.inl rfl)

namespace ValueBuilder

def KeepsNodes (node : Nat → Node) (b : ValueBuilder) : Prop :=
  ∀ number, (b.node number).ComesFrom (node number)

variable {node : Nat → Node} {b : ValueBuilder}

theorem keepsNodes_self (b : ValueBuilder) : KeepsNodes b.node b :=
  fun number => .refl (b.node number)

theorem node_of_getElem? {number : Nat} {found : Node} (at? : b.nodes[number]? = some found) :
    b.node number = found := by
  rw [ValueBuilder.node, at?]
  rfl

theorem KeepsNodes.put {b' : ValueBuilder} (keeps : KeepsNodes node b) {number : Nat} {new : Node}
    (put : b'.nodes = b.nodes.setIfInBounds number new) (same : new.ComesFrom (node number)) :
    KeepsNodes node b' := by
  intro other
  have kept := keeps other
  rw [ValueBuilder.node, put, Array.getElem?_setIfInBounds]
  by_cases here : number = other
  · subst here
    rw [if_pos rfl]
    split
    · exact same
    · rename_i outside
      rw [ValueBuilder.node, Array.getElem?_eq_none (by omega)] at kept
      exact kept
  · rw [if_neg here]
    exact kept

theorem KeepsNodes.setEntries (keeps : KeepsNodes node b) (number : Nat)
    (entries : List (Nat × Nat)) : KeepsNodes node (b.setEntries number entries) := by
  unfold ValueBuilder.setEntries
  split
  · rename_i tag others found
    refine keeps.put rfl ?_
    have kept := keeps number
    rw [node_of_getElem? found] at kept
    generalize node number = old at kept ⊢
    cases kept with
    | mapping tags => exact .mapping tags
  · exact keeps

theorem KeepsNodes.setText (keeps : KeepsNodes node b) (number : Nat) :
    KeepsNodes node (b.setTag number (standardTag "str")) := by
  unfold ValueBuilder.setTag
  dsimp only
  split
  · rename_i tag text found
    refine keeps.put rfl ?_
    have kept := keeps number
    rw [node_of_getElem? found] at kept
    generalize node number = old at kept ⊢
    cases kept with
    | scalar => exact .scalar (.inr rfl)
  · rename_i tag items found
    refine keeps.put rfl ?_
    have kept := keeps number
    rw [node_of_getElem? found] at kept
    generalize node number = old at kept ⊢
    cases kept with
    | sequence => exact .sequence (.inr rfl)
  · rename_i tag entries found
    refine keeps.put rfl ?_
    have kept := keeps number
    rw [node_of_getElem? found] at kept
    generalize node number = old at kept ⊢
    cases kept with
    | mapping => exact .mapping (.inr rfl)
  · exact keeps

/-! ### Values of single nodes -/

inductive FormFailure : Failure → Prop
  | malformed (complaint : Complaint) : FormFailure (.malformed complaint)
  | endless : FormFailure .tooDeep

theorem FormFailure.value {failure : Failure} (form : FormFailure failure) :
    ValueFailure node failure := by
  cases form with
  | malformed complaint => exact .malformed complaint
  | endless => exact .endless

theorem scalarText_ends (steps number : Nat) :
    Ends (fun text => ∃ other tag, b.node other = .scalar tag text) FormFailure
      (b.scalarText steps number) := by
  induction steps generalizing number with
  | zero => exact .endless
  | succ steps ih =>
    rw [scalarText]
    split
    · rename_i tag text here
      exact ⟨number, tag, here⟩
    · split
      · exact ih _
      · exact .malformed _
    · exact .malformed _

/-- The text of a node that cannot be read as its tag asks for is that of the node, or of one that
stands for it. -/
theorem KeepsNodes.valueFailure (keeps : KeepsNodes node b) {number steps : Nat} {text : String}
    {failure : Failure} (found : b.scalarText (steps + 1) number = .ok text)
    (typed : (b.node number).tag ≠ standardTag "str")
    (unreadable : Unreadable (b.node number).tag text failure) : ValueFailure node failure := by
  have kept := keeps number
  have ends := b.scalarText_ends (steps + 1) number
  rw [found] at ends
  obtain ⟨other, otherTag, there⟩ := ends
  have keptThere := keeps other
  rw [there] at keptThere
  generalize wasThere : node other = old at keptThere
  cases keptThere with
  | scalar _ =>
    rw [scalarText] at found
    generalize b.node number = own at kept typed unreadable found
    generalize was : node number = old at kept
    cases kept with
    | scalar tags =>
      obtain rfl := Except.ok.inj found
      rw [Node.tag, tags.resolve_right typed] at unreadable
      exact .scalar was unreadable
    | sequence _ => simp [wrongForm, fails] at found
    | mapping tags =>
      rw [Node.tag, tags.resolve_right typed] at unreadable
      exact .standIn was wasThere unreadable

theorem failsOnly_scalarText (steps number : Nat) :
    FailsOnly (ValueFailure node) (b.scalarText steps number) := by
  have ends := b.scalarText_ends steps number
  generalize b.scalarText steps number = found at ends ⊢
  cases found with
  | ok text => trivial
  | error failure => exact ends.value

theorem KeepsNodes.failsOnly_read {α : Type} (keeps : KeepsNodes node b) {number steps : Nat}
    {name : String} (tagged : (b.node number).tag = standardTag name)
    (typed : standardTag name ≠ standardTag "str") {read : String → Except Failure α}
    (refuses : ∀ text failure, b.scalarText (steps + 1) number = .ok text →
      read text = .error failure → Unreadable (standardTag name) text failure) :
    FailsOnly (ValueFailure node) (b.scalarText (steps + 1) number >>= read) := by
  have texts : FailsOnly (ValueFailure node) (b.scalarText (steps + 1) number) :=
    b.failsOnly_scalarText _ _
  cases found : b.scalarText (steps + 1) number with
  | error failure =>
    rw [found] at texts
    exact texts
  | ok text =>
    change FailsOnly (ValueFailure node) (read text)
    cases refused : read text with
    | ok value => trivial
    | error failure =>
      exact keeps.valueFailure found (tagged ▸ typed) (tagged ▸ refuses text failure found refused)

theorem KeepsNodes.failsOnly_moment (keeps : KeepsNodes node b) {number steps : Nat}
    (tagged : (b.node number).tag = standardTag "timestamp") :
    FailsOnly (ValueFailure node) (do
      let text ← b.scalarText (steps + 1) number
      match b.node number with
      | .scalar _ _ =>
        checkTimestamp text
        return Value.moment
      | _ => throw .dateFromCollection) := by
  have kept := keeps number
  generalize own : b.node number = found at kept tagged
  generalize was : node number = old at kept
  cases kept with
  | scalar _ =>
    rw [← own] at tagged
    refine keeps.failsOnly_read tagged (by decide) fun text failure _ refused => ?_
    rcases bind_eq_error_iff.mp refused with here | ⟨_, _, later⟩
    · exact .moment here
    · cases later
  | sequence _ =>
    rw [scalarText, own]
    exact .malformed _
  | mapping tags =>
    refine (b.failsOnly_scalarText _ _).bind fun _ => ?_
    rw [Node.tag] at tagged
    subst tagged
    obtain rfl := tags.resolve_right (by decide)
    exact .dateFromCollection was

theorem failsOnly_initialValue (keeps : KeepsNodes node b) (number : Nat) :
    FailsOnly (ValueFailure node) (b.initialValue number) := by
  unfold initialValue
  extract_lets text here tag
  have texts : FailsOnly (ValueFailure node) text := b.failsOnly_scalarText _ _
  refine .ite (texts.bind fun _ => trivial) ?_
  refine .ite_of_cond (fun tagged => ?_) ?_
  · refine keeps.failsOnly_read tagged (by decide) fun word failure found refused => ?_
    split at refused
    · cases refused
    · rename_i noWord
      simp only [text, found, bind, Except.bind] at refused
      obtain rfl := Except.error.inj refused
      exact .bool noWord
  refine .ite_of_cond (fun tagged => ?_) ?_
  · refine keeps.failsOnly_read tagged (by decide) fun word failure _ refused => ?_
    rcases bind_eq_error_iff.mp refused with here | ⟨_, _, later⟩
    · exact .integer here
    · cases later
  refine .ite_of_cond (fun tagged => ?_) ?_
  · refine keeps.failsOnly_read tagged (by decide) fun word failure _ refused => ?_
    rcases bind_eq_error_iff.mp refused with here | ⟨_, _, later⟩
    · exact .float here
    · cases later
  refine .ite (texts.bind fun word => ?_) ?_
  · split
    · trivial
    · exact .malformed _
  refine .ite_of_cond keeps.failsOnly_moment ?_
  refine .ite (texts.bind fun _ => trivial) ?_
  refine .ite trivial (.ite trivial (.ite trivial (.ite trivial ?_)))
  exact .malformed _

/-! ### Merging -/

abbrev EndsKeeping {α : Type} (node : Nat → Node) (result : Except Failure (α × ValueBuilder)) :
    Prop :=
  Ends (fun found => KeepsNodes node found.2) (ValueFailure node) result

theorem mergeFrom_ends {steps : Nat}
    (merges : ∀ b number, KeepsNodes node b →
      Ends (KeepsNodes node) (ValueFailure node) (merge steps b number))
    (goesOn : ∀ b number index merged, KeepsNodes node b →
      EndsKeeping node (mergeFrom steps b number index merged))
    (mergesItems : ∀ b number items, KeepsNodes node b →
      EndsKeeping node (mergeItems steps b number items))
    (keeps : KeepsNodes node b) (number index : Nat) (merged : List (Nat × Nat)) :
    EndsKeeping node (mergeFrom (steps + 1) b number index merged) := by
  rw [mergeFrom]
  split
  · exact keeps
  · dsimp only
    split
    · have without := keeps.setEntries number ((b.entries number).eraseIdx index)
      split
      · exact (merges _ _ without).bind fun b keeps => goesOn b _ _ _ keeps
      · exact (mergesItems _ _ _ without).bind fun _ keeps => goesOn _ _ _ _ keeps
      · exact .malformed _
    · split
      · exact goesOn _ _ _ _ (keeps.setText _)
      · exact goesOn _ _ _ _ keeps

theorem mergeItems_ends {steps : Nat}
    (merges : ∀ b number, KeepsNodes node b →
      Ends (KeepsNodes node) (ValueFailure node) (merge steps b number))
    (goesOn : ∀ b number items, KeepsNodes node b →
      EndsKeeping node (mergeItems steps b number items))
    (keeps : KeepsNodes node b) (number : Nat) (items : List Nat) :
    EndsKeeping node (mergeItems (steps + 1) b number items) := by
  cases items with
  | nil =>
    rw [mergeItems]
    · exact keeps
    · exact Nat.succ_ne_zero steps
  | cons item items =>
    rw [mergeItems]
    split
    · exact (merges _ _ keeps).bind fun b keeps =>
        (goesOn b number items keeps).bind fun _ keeps => keeps
    · exact .malformed _

theorem merging_ends (steps : Nat) :
    (∀ b number, KeepsNodes node b →
      Ends (KeepsNodes node) (ValueFailure node) (merge steps b number)) ∧
    (∀ b number index merged, KeepsNodes node b →
      EndsKeeping node (mergeFrom steps b number index merged)) ∧
    (∀ b number items, KeepsNodes node b →
      EndsKeeping node (mergeItems steps b number items)) := by
  induction steps with
  | zero =>
    refine ⟨fun _ _ _ => ?_, fun _ _ _ _ _ => ?_, fun _ _ _ _ => ?_⟩
    · rw [merge]
      exact .endless
    · rw [mergeFrom]
      exact .endless
    · rw [mergeItems]
      exact .endless
  | succ steps ih =>
    obtain ⟨merges, goesOn, mergesItems⟩ := ih
    refine ⟨fun b number keeps => ?_,
      fun b number index merged keeps => mergeFrom_ends merges goesOn mergesItems keeps _ _ _,
      fun b number items keeps => mergeItems_ends merges mergesItems keeps _ _⟩
    rw [merge]
    split
    · exact keeps
    · refine (goesOn b number 0 [] keeps).bind fun merged keeps => ?_
      dsimp only
      split
      · exact keeps
      · exact keeps.setEntries _ _

/-! ### Filling collections -/

theorem visit_ends (keeps : KeepsNodes node b) (number : Nat) :
    EndsKeeping node (b.visit number) := by
  unfold visit
  split
  · exact keeps
  · refine (failsOnly_initialValue keeps number).bind fun value => ?_
    change KeepsNodes node (if isCollection value then _ else _)
    split <;> exact keeps

theorem visitEntries_ends (keeps : KeepsNodes node b) (number : Nat)
    (entries : List (Nat × Nat)) :
    Ends (KeepsNodes node) (ValueFailure node) (b.visitEntries number entries) := by
  induction entries generalizing b with
  | nil => exact keeps
  | cons entry rest ih =>
    rw [visitEntries]
    refine (visit_ends keeps _).bind fun key keeps => ?_
    have later : Ends (KeepsNodes node) (ValueFailure node)
        (key.2.visit entry.2 >>= fun value => value.2.visitEntries number rest) :=
      (visit_ends keeps _).bind fun _ keeps => ih keeps
    dsimp only
    split
    · exact .malformed _
    · exact later

theorem visitItems_ends (keeps : KeepsNodes node b) (items : List Nat) :
    Ends (KeepsNodes node) (ValueFailure node) (b.visitItems items) := by
  induction items generalizing b with
  | nil => exact keeps
  | cons item rest ih =>
    rw [visitItems]
    exact (visit_ends keeps item).bind fun _ keeps => ih keeps

theorem visitPairs_ends (keeps : KeepsNodes node b) (what : String) (number : Nat)
    (items : List Nat) :
    Ends (KeepsNodes node) (ValueFailure node) (b.visitPairs what number items) := by
  induction items generalizing b with
  | nil => exact keeps
  | cons item rest ih =>
    rw [visitPairs]
    split
    · exact (visit_ends keeps _).bind fun _ keeps =>
        (visit_ends keeps _).bind fun _ keeps => ih keeps
    · exact .malformed _
    · exact .malformed _

theorem fill_ends (keeps : KeepsNodes node b) (number : Nat) :
    Ends (KeepsNodes node) (ValueFailure node) (b.fill number) := by
  unfold fill
  dsimp only
  split
  · exact (visitItems_ends keeps _).bind fun b keeps => keeps
  · exact .malformed _
  · split
    · exact visitPairs_ends keeps _ _ _
    · exact .malformed _
  · refine ((merging_ends b.mergeSteps).1 b number keeps).bind fun b keeps =>
      (visitEntries_ends keeps _ _).bind fun b keeps => ?_
    change KeepsNodes node (if _ then _ else _)
    split <;> exact keeps
  · exact .malformed _

theorem fillAll_ends (keeps : KeepsNodes node b) (steps : Nat) :
    Ends (KeepsNodes node) (ValueFailure node) (fillAll steps b) := by
  induction steps generalizing b with
  | zero => exact keeps
  | succ steps ih =>
    rw [fillAll]
    split
    · exact keeps
    · have begins : KeepsNodes node { b with waiting := [] } := keeps
      exact (Ends.foldlM begins fun b number keeps => fill_ends keeps number).bind
        fun b keeps => ih keeps

end ValueBuilder

theorem Document.failsOnly_ofGraph (graph : NodeGraph) :
    FailsOnly (ValueFailure (ValueBuilder.ofGraph graph).node) (ofGraph graph) := by
  unfold ofGraph
  split
  · trivial
  · have keeps := (ValueBuilder.ofGraph graph).keepsNodes_self
    exact (ValueBuilder.visit_ends keeps _).bind fun _ keeps =>
      (ValueBuilder.fillAll_ends keeps _).bind fun b _ => trivial

end Downstream.Yaml
