import Downstream.Proofs.Except
import Downstream.Yaml.Event

/-!
The failures of the grammar. It only refuses documents that break the format; any other failure is
the one with which the tokens have ended.
-/
namespace Downstream.Yaml

namespace Grammar

inductive StepFailure : Option Failure → Prop
  | ended : StepFailure none
  | malformed (complaint : Complaint) : StepFailure (some (.malformed complaint))

theorem failsOnly_fails {α : Type} (mark : Mark) (problem : Problem) :
    FailsOnly StepFailure (fails mark problem : Except (Option Failure) α) :=
  .malformed _

theorem failsOnly_failsIn {α : Type} (what : String) (since : Mark) (problem : String → Problem)
    (found : Lexeme) :
    FailsOnly StepFailure (failsIn what since problem found : Except (Option Failure) α) :=
  .malformed _

theorem failsOnly_peek (g : Grammar) : FailsOnly StepFailure g.peek := by
  unfold peek
  split
  · trivial
  · exact .ended

theorem failsOnly_yieldsAndReturns (g : Grammar) (start : Mark) (event : Event) :
    FailsOnly StepFailure (g.yieldsAndReturns start event) := by
  unfold yieldsAndReturns
  split <;> trivial

theorem failsOnly_properties (g : Grammar) : FailsOnly StepFailure g.properties := by
  refine g.failsOnly_peek.bind fun first => ?_
  split
  · refine (failsOnly_peek _).bind fun second => ?_
    split <;> trivial
  · refine (failsOnly_peek _).bind fun second => ?_
    split <;> trivial
  · trivial

theorem failsOnly_expandTag (g : Grammar) (start : Mark) (tag : Option WrittenTag) :
    FailsOnly StepFailure (g.expandTag start tag) := by
  unfold expandTag
  split
  · trivial
  · trivial
  · split
    · trivial
    · exact .malformed _

theorem failsOnly_bare (block : Bool) (start : Mark) (anchor tag : Option String) (found : Lexeme)
    (g : Grammar) : FailsOnly StepFailure (node.bare block start anchor tag found g) := by
  unfold node.bare
  split
  · exact failsOnly_failsIn _ _ _ _
  · exact g.failsOnly_yieldsAndReturns _ _

theorem failsOnly_node (g : Grammar) (block indentless : Bool) :
    FailsOnly StepFailure (g.node block indentless) := by
  refine g.failsOnly_peek.bind fun first => ?_
  split
  · exact failsOnly_yieldsAndReturns _ _ _
  · refine g.failsOnly_properties.bind fun (anchor, tag, g) =>
      (g.failsOnly_expandTag _ _).bind fun tag => g.failsOnly_peek.bind fun lexeme => ?_
    dsimp only
    split
    · split
      · trivial
      · exact failsOnly_bare _ _ _ _ _ _
    · exact failsOnly_yieldsAndReturns _ _ _
    · trivial
    · trivial
    · trivial
    · trivial
    · exact failsOnly_bare _ _ _ _ _ _

theorem failsOnly_directives (hasVersion : Bool) (own : List (String × String))
    (lexemes : List Lexeme) : FailsOnly StepFailure (directives hasVersion own lexemes) := by
  induction lexemes generalizing hasVersion own with
  | nil => exact .ended
  | cons lexeme rest ih =>
    rw [directives]
    split
    · exact .ite (failsOnly_fails _ _) (.ite (failsOnly_fails _ _) (ih _ _))
    · exact .ite (failsOnly_fails _ _) (ih _ _)
    · exact ih _ _
    · trivial

theorem failsOnly_documentStart (g : Grammar) : FailsOnly StepFailure g.documentStart := by
  refine g.dropDocumentEnds.failsOnly_peek.bind fun first => ?_
  split
  · trivial
  · refine (failsOnly_directives _ _ _).bind fun (own, tokens) =>
      (failsOnly_peek _).bind fun lexeme => ?_
    dsimp only
    split
    · trivial
    · exact failsOnly_fails _ _

theorem failsOnly_member (g : Grammar) (leftOut : List Token) (after : Expected)
    {node : Grammar → Step} (nodes : ∀ g, FailsOnly StepFailure (node g)) :
    FailsOnly StepFailure (g.member leftOut after node) := by
  refine g.failsOnly_peek.bind fun mark => (failsOnly_peek _).bind fun next => ?_
  exact .ite trivial (nodes _)

theorem failsOnly_step (g : Grammar) : FailsOnly StepFailure g.step := by
  have block (indentless : Bool) (g : Grammar) : FailsOnly StepFailure (g.node true indentless) :=
    g.failsOnly_node true indentless
  have flow (g : Grammar) : FailsOnly StepFailure (g.node false false) :=
    g.failsOnly_node false false
  unfold step
  cases g.expected with
  | implicitDocumentStart =>
    refine g.failsOnly_peek.bind fun lexeme => ?_
    split
    · exact g.failsOnly_documentStart
    · exact g.failsOnly_documentStart
    · exact g.failsOnly_documentStart
    · trivial
  | documentStart => exact g.failsOnly_documentStart
  | documentContent =>
    refine g.failsOnly_peek.bind fun lexeme => ?_
    split
    · exact g.failsOnly_yieldsAndReturns _ _
    · exact g.failsOnly_yieldsAndReturns _ _
    · exact g.failsOnly_yieldsAndReturns _ _
    · exact g.failsOnly_yieldsAndReturns _ _
    · exact block false g
  | documentEnd =>
    refine g.failsOnly_peek.bind fun lexeme => ?_
    split <;> trivial
  | blockNode => exact block false g
  | blockSequenceEntry first since =>
    refine (failsOnly_peek _).bind fun lexeme => ?_
    split
    · exact failsOnly_member _ _ _ (block false)
    · exact failsOnly_yieldsAndReturns _ _ _
    · exact failsOnly_failsIn _ _ _ _
  | indentlessEntry =>
    refine g.failsOnly_peek.bind fun lexeme => ?_
    split
    · exact failsOnly_member _ _ _ (block false)
    · exact g.failsOnly_yieldsAndReturns _ _
  | blockMappingKey first since =>
    refine (failsOnly_peek _).bind fun lexeme => ?_
    split
    · exact failsOnly_member _ _ _ (block true)
    · exact failsOnly_yieldsAndReturns _ _ _
    · exact failsOnly_failsIn _ _ _ _
  | blockMappingValue since =>
    refine g.failsOnly_peek.bind fun lexeme => ?_
    split
    · exact failsOnly_member _ _ _ (block true)
    · trivial
  | flowSequenceEntry first since =>
    refine (failsOnly_peek _).bind fun lexeme => ?_
    split
    · exact failsOnly_yieldsAndReturns _ _ _
    · refine .ite (failsOnly_failsIn _ _ _ _) ((failsOnly_peek _).bind fun lexeme => ?_)
      split
      · trivial
      · exact failsOnly_yieldsAndReturns _ _ _
      · exact flow _
  | pairKey since => exact failsOnly_member _ _ _ flow
  | pairValue since =>
    refine g.failsOnly_peek.bind fun lexeme => ?_
    split
    · exact failsOnly_member _ _ _ flow
    · trivial
  | pairEnd since => exact g.failsOnly_peek.bind fun lexeme => trivial
  | flowMappingKey first since =>
    refine (failsOnly_peek _).bind fun lexeme => ?_
    split
    · exact failsOnly_yieldsAndReturns _ _ _
    · refine .ite (failsOnly_failsIn _ _ _ _) ((failsOnly_peek _).bind fun lexeme => ?_)
      split
      · exact failsOnly_member _ _ _ flow
      · exact failsOnly_yieldsAndReturns _ _ _
      · exact flow _
  | flowMappingValue since =>
    refine g.failsOnly_peek.bind fun lexeme => ?_
    split
    · exact failsOnly_member _ _ _ flow
    · trivial
  | flowMappingNoValue since => exact g.failsOnly_peek.bind fun lexeme => trivial
  | nothing => exact .ended

theorem run_failure {ending : Option Failure} {steps : Nat} {done : List PlacedEvent} {g : Grammar}
    {failure : Failure} (failed : (run ending steps done g).failure = some failure) :
    (∃ complaint, failure = .malformed complaint) ∨ ending = some failure := by
  induction steps generalizing done g with
  | zero =>
    obtain rfl := Option.some.inj failed
    exact .inl ⟨_, rfl⟩
  | succ steps ih =>
    have only := g.failsOnly_step
    rw [run] at failed
    generalize g.step = next at failed only
    split at failed
    · simp at failed
    · exact ih failed
    · obtain rfl := Option.some.inj failed
      cases only
      exact .inl ⟨_, rfl⟩
    · cases ending with
      | none =>
        obtain rfl := Option.some.inj failed
        exact .inl ⟨_, rfl⟩
      | some problem => exact .inr failed

end Grammar

theorem Event.ofTokens_failure {tokens : Stream Lexeme} {failure : Failure}
    (failed : (ofTokens tokens).failure = some failure) :
    (∃ complaint, failure = .malformed complaint) ∨ tokens.failure = some failure :=
  Grammar.run_failure failed

end Downstream.Yaml
