import Downstream.Extraction
import Downstream.Proofs.Idiom.Span

/-!
The matches of an idiom in a text, said without a search: a place without a match is passed alone,
and a match is passed as a whole, so matches never overlap. Every text has a list of matches, and
the search captures the types that they name, in their order.
-/
namespace Downstream.Idiom

/-- The matches of an idiom in a text from left to right; `before` is the character in front of the
text. -/
inductive Matches (idiom : Idiom) : Option Char → List Char → List Capture → Prop where
  | done (before : Option Char) : Matches idiom before [] []
  | pass {before : Option Char} {c : Char} {cs : List Char} {found : List Capture}
      (free : idiom.matchAt before (c :: cs) = none) (later : Matches idiom (some c) cs found) :
      Matches idiom before (c :: cs) found
  | take {before : Option Char} {c : Char} {covered rest : List Char} {capture : Capture}
      {found : List Capture}
      (here : idiom.matchAt before (c :: covered ++ rest) = some capture)
      (whole : (c :: covered).length = capture.length)
      (later : Matches idiom (c :: covered).getLast? rest found) :
      Matches idiom before (c :: covered ++ rest) (capture :: found)

def MatchesIn (idiom : Idiom) (cs : List Char) (capture : Capture) : Prop :=
  ∃ found, Matches idiom none cs found ∧ capture ∈ found

theorem exists_matches (idiom : Idiom) (before : Option Char) (cs : List Char) :
    ∃ found, Matches idiom before cs found := by
  induction size : cs.length using Nat.strongRecOn generalizing before cs with
  | ind n ih =>
    cases cs with
    | nil => exact ⟨[], .done before⟩
    | cons c cs =>
      cases here : idiom.matchAt before (c :: cs) with
      | none =>
        obtain ⟨found, later⟩ := ih cs.length (by simp at size; omega) (some c) cs rfl
        exact ⟨found, .pass here later⟩
      | some capture =>
        obtain ⟨covered, rest, text, whole, some_covered⟩ := matchAt_covers here
        cases covered with
        | nil => exact absurd rfl some_covered
        | cons first covered =>
          have shorter : rest.length < n := by
            rw [text] at size
            simp at size
            omega
          obtain ⟨found, later⟩ := ih rest.length shorter (first :: covered).getLast? rest rfl
          rw [text] at here ⊢
          exact ⟨capture :: found, .take here whole later⟩

theorem capturesFrom_skip (idiom : Idiom) (before : Char) (covered rest : List Char)
    (found : List (List Char)) :
    idiom.capturesFrom (some before) covered.length found (covered ++ rest) =
      idiom.capturesFrom (before :: covered).getLast? 0 found rest := by
  induction covered generalizing before with
  | nil => rfl
  | cons c covered ih =>
    simp only [List.length_cons, List.cons_append, capturesFrom]
    rw [ih c, List.getLast?_cons_cons]

theorem capturesFrom_eq {idiom : Idiom} {before : Option Char} {cs : List Char}
    {matched : List Capture} (all : Matches idiom before cs matched) (found : List (List Char)) :
    idiom.capturesFrom before 0 found cs = found.reverse ++ matched.map (·.typeName) := by
  induction all generalizing found with
  | done before => simp [capturesFrom]
  | pass free later ih => simp only [capturesFrom, free, ih]
  | @take before c covered rest capture matched here whole later ih =>
    have behind : capture.length - 1 = covered.length := by
      simp only [List.length_cons] at whole
      omega
    rw [List.cons_append] at here ⊢
    simp only [capturesFrom, here, behind]
    rw [capturesFrom_skip, ih]
    simp

theorem captures_eq {idiom : Idiom} {cs : List Char} {matched : List Capture}
    (all : Matches idiom none cs matched) : idiom.captures cs = matched.map (·.typeName) := by
  simpa [captures] using capturesFrom_eq all []

theorem mem_captures_iff {idiom : Idiom} {cs typeName : List Char} :
    typeName ∈ idiom.captures cs ↔ ∃ capture, idiom.MatchesIn cs capture ∧
      capture.typeName = typeName := by
  obtain ⟨matched, all⟩ := exists_matches idiom none cs
  constructor
  · intro captured
    rw [captures_eq all, List.mem_map] at captured
    obtain ⟨capture, member, same⟩ := captured
    exact ⟨capture, ⟨matched, all, member⟩, same⟩
  · rintro ⟨capture, ⟨other, matches_other, member⟩, rfl⟩
    rw [captures_eq matches_other]
    exact List.mem_map_of_mem member

end Downstream.Idiom
