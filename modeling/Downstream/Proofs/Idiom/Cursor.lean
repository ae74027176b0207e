import Downstream.Proofs.Idiom.Steps

/-!
Every step of a match leads on in the same text: what it passes stands between the two places, and
the count of characters grows by just that much. So a match covers a part of the text it began at.
-/
namespace Downstream.Cursor

def LeadsTo (place next : Cursor) : Prop :=
  ∃ passed, place.rest = passed ++ next.rest ∧ next.taken = place.taken + passed.length

theorem leadsTo_refl (place : Cursor) : place.LeadsTo place :=
  ⟨[], rfl, rfl⟩

theorem LeadsTo.trans {first middle last : Cursor} (early : first.LeadsTo middle)
    (late : middle.LeadsTo last) : first.LeadsTo last := by
  obtain ⟨front, passesFront⟩ := early
  obtain ⟨back, passesBack⟩ := late
  exact ⟨front ++ back, Passes.trans passesFront passesBack⟩

theorem LeadsTo.taken_le {place next : Cursor} (on : place.LeadsTo next) :
    place.taken ≤ next.taken := by
  obtain ⟨passed, _, count⟩ := on
  omega

theorem Passes.leadsTo {place next : Cursor} {passed : List Char}
    (passes : place.Passes passed next) : place.LeadsTo next :=
  ⟨passed, passes⟩

theorem passRun_leadsTo (p : Char → Bool) (place : Cursor) : place.LeadsTo (place.passRun p) :=
  (passRun_passes p place).1.leadsTo

theorem passBlanks_leadsTo (place : Cursor) : place.LeadsTo place.passBlanks :=
  passRun_leadsTo Text.isBlank place

theorem passText_leadsTo {text : String} {place next : Cursor}
    (passed : place.passText text = some next) :
    place.LeadsTo next ∧ next.taken = place.taken + text.length := by
  have passes := passText_eq_some_iff.mp passed
  refine ⟨passes.leadsTo, ?_⟩
  rw [passes.2, String.length_toList]

theorem passSomeBlanks_leadsTo {place next : Cursor} (passed : place.passSomeBlanks = some next) :
    place.LeadsTo next := by
  obtain ⟨gap, passes, _⟩ := passSomeBlanks_eq_some_iff.mp passed
  exact passes.leadsTo

theorem readRun_leadsTo {p : Char → Bool} {place next : Cursor} {run : List Char}
    (read : place.readRun p = some (run, next)) : place.LeadsTo next :=
  (readRun_eq_some_iff.mp read).1.leadsTo

theorem readWord_leadsTo {place next : Cursor} {word : List Char}
    (read : place.readWord = some (word, next)) : place.LeadsTo next :=
  readRun_leadsTo read

theorem readSuffixed_leadsTo {suffixes : List String} {place next : Cursor} {word : List Char}
    (read : place.readSuffixed suffixes = some (word, next)) : place.LeadsTo next :=
  (readSuffixed_eq_some_iff.mp read).1.leadsTo

end Downstream.Cursor
