import Downstream.Text.LowerCase
import Mathlib.Data.List.Forall2

/-!
Texts that differ in the case of ASCII letters only. Such letters have case and are never passed
over, so a capital sigma beside them is lowered alike, and so is everything else.
-/
namespace Downstream.Text

inductive SameButCase : Char → Char → Prop where
  | same (c : Char) : SameButCase c c
  | lowered {n : Nat} (letter : n < 26) : SameButCase (Char.ofNat (65 + n)) (Char.ofNat (97 + n))
  | raised {n : Nat} (letter : n < 26) : SameButCase (Char.ofNat (97 + n)) (Char.ofNat (65 + n))

def areCases (c d : Char) : Bool :=
  (List.range 26).any fun n =>
    (c == Char.ofNat (65 + n) && d == Char.ofNat (97 + n)) ||
      (c == Char.ofNat (97 + n) && d == Char.ofNat (65 + n))

theorem sameButCase_iff {c d : Char} : SameButCase c d ↔ (c == d || areCases c d) = true := by
  simp only [areCases, Bool.or_eq_true, beq_iff_eq, List.any_eq_true, List.mem_range,
    Bool.and_eq_true]
  constructor
  · intro alike
    cases alike with
    | same => exact Or.inl rfl
    | @lowered n letter => exact Or.inr ⟨n, letter, Or.inl ⟨rfl, rfl⟩⟩
    | @raised n letter => exact Or.inr ⟨n, letter, Or.inr ⟨rfl, rfl⟩⟩
  · intro alike
    rcases alike with rfl | ⟨n, letter, ⟨rfl, rfl⟩ | ⟨rfl, rfl⟩⟩
    · exact .same c
    · exact .lowered letter
    · exact .raised letter

instance (c d : Char) : Decidable (SameButCase c d) :=
  decidable_of_iff _ sameButCase_iff.symm

/-- What does not tell a capital from its small letter takes texts that are the same but for case
alike. -/
theorem SameButCase.congr {α : Type} {c d : Char} (alike : SameButCase c d) {f : Char → α}
    (blind : ∀ n < 26, f (Char.ofNat (65 + n)) = f (Char.ofNat (97 + n))) : f c = f d := by
  cases alike with
  | same => rfl
  | lowered letter => exact blind _ letter
  | raised letter => exact (blind _ letter).symm

variable {c d : Char} {cs ds : List Char}

theorem SameButCase.isCased_eq (alike : SameButCase c d) : isCased c = isCased d :=
  alike.congr (by decide +kernel)

theorem SameButCase.isCaseSkipped_eq (alike : SameButCase c d) :
    isCaseSkipped c = isCaseSkipped d :=
  alike.congr (by decide +kernel)

theorem SameButCase.lowerChar_eq (alike : SameButCase c d) : lowerChar c = lowerChar d :=
  alike.congr (by decide +kernel)

theorem SameButCase.sigma_iff (alike : SameButCase c d) : c = 'Σ' ↔ d = 'Σ' := by
  have equal := alike.congr (f := fun c => decide (c = 'Σ')) (by decide +kernel)
  exact decide_eq_decide.mp equal

theorem nextIsCased_eq (alike : List.Forall₂ SameButCase cs ds) :
    nextIsCased cs = nextIsCased ds := by
  induction alike with
  | nil => rfl
  | @cons c d cs ds first rest ih =>
    simp only [nextIsCased, List.find?_cons, first.isCaseSkipped_eq] at ih ⊢
    cases isCaseSkipped d with
    | true => exact ih
    | false => simp only [Bool.not_false, Option.any_some, first.isCased_eq]

theorem lowerAfter_eq (alike : List.Forall₂ SameButCase cs ds) (afterCased : Bool) :
    lowerAfter afterCased cs = lowerAfter afterCased ds := by
  induction alike generalizing afterCased with
  | nil => rfl
  | @cons c d cs ds first rest ih =>
    have here : (if c = 'Σ' then [if afterCased && !nextIsCased cs then 'ς' else 'σ']
        else lowerChar c) =
        if d = 'Σ' then [if afterCased && !nextIsCased ds then 'ς' else 'σ'] else lowerChar d := by
      simp only [first.sigma_iff, nextIsCased_eq rest, first.lowerChar_eq]
    rw [lowerAfter, lowerAfter, here, first.isCaseSkipped_eq, first.isCased_eq, ih]

theorem lower_eq (alike : List.Forall₂ SameButCase cs ds) : lower cs = lower ds :=
  lowerAfter_eq alike false

/-- A sigma behind a letter ends the word, one in front of a letter does not. -/
example : lower "AΣ-ΣB".toList = "aς-σb".toList ∧ lower "aΣ-Σb".toList = "aς-σb".toList := by
  decide +kernel

end Downstream.Text
