import Downstream.Proofs.Yaml.Grammar
import Downstream.Proofs.Yaml.Lexer
import Downstream.Proofs.Yaml.Values

/-!
Why a text has no document. It breaks the format, or the lexer meets a number that it cannot use, or
collections are nested too deep, or the text of a scalar cannot be read as its tag asks for.
-/
namespace Downstream.Yaml

inductive Refusal (text : String) : Failure → Prop
  | malformed (complaint : Complaint) : Refusal text (.malformed complaint)
  | lexer {failure : Failure} : (Token.scan text).failure = some failure →
    LexerFailure failure → Refusal text failure
  | nested {before after : List PlacedEvent} {placed : PlacedEvent} {b : NodeBuilder} :
    (Event.ofTokens (Token.scan text)).items = before ++ placed :: after →
    before.foldlM NodeBuilder.take {} = .ok b → NodeBuilder.maxNesting ≤ b.stack.length →
    Refusal text .tooDeep
  | value {graph : NodeGraph} {failure : Failure} :
    NodeGraph.ofEvents (Event.ofTokens (Token.scan text)) = .ok graph →
    ValueFailure (ValueBuilder.ofGraph graph).node failure → Refusal text failure

namespace NodeBuilder

inductive TakeFailure (b : NodeBuilder) : Failure → Prop
  | malformed (complaint : Complaint) : TakeFailure b (.malformed complaint)
  | nested : maxNesting ≤ b.stack.length → TakeFailure b .tooDeep

variable {b : NodeBuilder}

theorem failsOnly_name (start : Mark) (anchor : Option String) (number : Nat) :
    FailsOnly (TakeFailure b) (b.name start anchor number) := by
  unfold name
  split
  · trivial
  · split
    · exact .malformed _
    · trivial

theorem failsOnly_enter (start : Mark) (anchor : Option String) (tag : String)
    (isMapping : Bool) : FailsOnly (TakeFailure b) (b.enter start anchor tag isMapping) := by
  unfold enter
  dsimp only
  split
  · rename_i deep
    exact .nested deep
  · exact (failsOnly_name _ _ _).bind fun b => trivial

theorem failsOnly_take (placed : PlacedEvent) : FailsOnly (TakeFailure b) (b.take placed) := by
  unfold take
  dsimp only
  split
  · exact .ite (.malformed _) trivial
  · trivial
  · trivial
  · split
    · trivial
    · exact .malformed _
  · exact (failsOnly_name _ _ _).bind fun b => trivial
  · exact failsOnly_enter _ _ _ _
  · exact failsOnly_enter _ _ _ _
  · trivial
  · trivial

end NodeBuilder

theorem failsOnly_ofEvents (text : String) :
    FailsOnly (Refusal text) (NodeGraph.ofEvents (Event.ofTokens (Token.scan text))) := by
  unfold NodeGraph.ofEvents
  have taken : FailsOnly (Refusal text)
      ((Event.ofTokens (Token.scan text)).items.foldlM NodeBuilder.take {}) := by
    generalize built : (Event.ofTokens (Token.scan text)).items.foldlM NodeBuilder.take {} = result
    cases result with
    | ok b => trivial
    | error failure =>
      obtain ⟨before, placed, after, b, split, reached, failed⟩ :=
        exists_step_of_foldlM_eq_error built
      have only := b.failsOnly_take placed
      rw [failed] at only
      cases only with
      | malformed complaint => exact .malformed complaint
      | nested deep => exact .nested split reached deep
  refine taken.bind fun b => ?_
  split
  · rename_i failure failed
    rcases Event.ofTokens_failure failed with ⟨complaint, rfl⟩ | inTokens
    · exact .malformed complaint
    · exact .lexer inTokens (scan_failure inTokens)
  · trivial

theorem failsOnly_parse (text : String) : FailsOnly (Refusal text) (Document.parse text) := by
  unfold Document.parse
  have events := failsOnly_ofEvents text
  generalize built : NodeGraph.ofEvents (Event.ofTokens (Token.scan text)) = result at events ⊢
  cases result with
  | error failure => exact events
  | ok graph => exact (Document.failsOnly_ofGraph graph).mono fun failure => .value built

end Downstream.Yaml
