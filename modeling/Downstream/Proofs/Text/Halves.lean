import Downstream.Proofs.Text.Runs
import Downstream.Text.Encoding
import Downstream.Text.Search

/-!
Texts without halves: the ones that have bytes. A text put together from such texts is such a text.
-/
namespace Downstream.Text

def NoHalf (cs : List Char) : Prop :=
  ∀ c ∈ cs, isHalf c = false

variable {cs ds : List Char}

theorem noHalf_iff_any : NoHalf cs ↔ cs.any isHalf = false := by
  simp [NoHalf]

instance : Decidable (NoHalf cs) :=
  decidable_of_iff (cs.any isHalf = false) noHalf_iff_any.symm

@[simp]
theorem noHalf_nil : NoHalf [] := by
  simp [NoHalf]

@[simp]
theorem noHalf_cons {c : Char} : NoHalf (c :: cs) ↔ isHalf c = false ∧ NoHalf cs := by
  simp [NoHalf]

@[simp]
theorem noHalf_append : NoHalf (cs ++ ds) ↔ NoHalf cs ∧ NoHalf ds := by
  simp [NoHalf, or_imp, forall_and]

theorem isHalf_eq_false {c : Char} (small : c.toNat < firstHalf) : isHalf c = false := by
  simp [isHalf]
  omega

theorem halves?_eq_none_iff {s : String} : halves? s = none ↔ NoHalf s.toList := by
  have any : s.any isHalf = s.toList.any isHalf := String.contains_bool_eq
  rw [halves?, any, noHalf_iff_any]
  constructor
  · intro found
    by_contra holds
    rw [Bool.not_eq_false] at holds
    rw [if_pos holds] at found
    simp only [Charset.unencodable?] at found
    split at found
    · rename_i ended
      -- Nothing is left behind the characters with bytes, so they are all there are.
      have whole := (List.takeWhile_prefix _).eq_of_length_le (List.drop_eq_nil_iff.mp ended)
      obtain ⟨c, member, half⟩ := List.any_eq_true.mp holds
      have plain := List.takeWhile_eq_self_iff.mp whole c member
      simp [Charset.refuses, half] at plain
    · simp at found
  · intro plain
    simp [plain]

theorem noHalf_join {separator : String} (plain : NoHalf separator.toList) {parts : List String}
    (all : ∀ part ∈ parts, NoHalf part.toList) : NoHalf (join separator parts).toList := by
  rw [join, String.toList_intercalate]
  induction parts with
  | nil => simp
  | cons first rest ih =>
    have later := ih fun part member => all part (List.mem_cons_of_mem _ member)
    cases rest with
    | nil => simpa using all first List.mem_cons_self
    | cons next rest =>
      rw [List.map_cons, List.map_cons, List.intercalate_cons_cons, noHalf_append, noHalf_append]
      exact ⟨⟨all first List.mem_cons_self, plain⟩, later⟩

theorem noHalf_toString_nat (n : Nat) : NoHalf (toString n).toList := by
  intro c member
  obtain ⟨_, high⟩ : 48 ≤ c.toNat ∧ c.toNat ≤ 57 :=
    Char.isDigit_iff_toNat.mp ((run_toString_nat n).2 c member)
  exact isHalf_eq_false (by rw [firstHalf]; omega)

end Downstream.Text
