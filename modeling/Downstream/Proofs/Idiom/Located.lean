import Downstream.Proofs.Idiom.Matches
import Mathlib.Data.List.Basic

/-!
The positions at which a search finds its captures. What a search from a place on is to find is
described for every place at once; one step of the search then says how two such descriptions hang
together, and the whole search finds what the description of the first place holds, in order.
-/
namespace Downstream.Idiom

/-- `finds i p t` is a right account of the search from place `i` on if it holds nothing at the end
of the text, stays as it is where a place without a match is passed, and loses just the first
position where a match is passed as a whole. -/
structure Locates (idiom : Idiom) (text : List Char) (finds : Nat → Nat → List Char → Prop) :
    Prop where
  ended : ∀ p t, ¬ finds text.length p t
  pass : ∀ i < text.length, idiom.matchAt (text.take i).getLast? (text.drop i) = none →
    ∀ p t, finds i p t ↔ finds (i + 1) p t
  take : ∀ i < text.length, ∀ capture,
    idiom.matchAt (text.take i).getLast? (text.drop i) = some capture →
    ∃ first, (∀ p t, finds i p t ↔
        (p = first ∧ t = capture.typeName) ∨ finds (i + capture.length) p t) ∧
      ∀ p t, finds (i + capture.length) p t → first < p

theorem Locates.of_matches {idiom : Idiom} {text : List Char}
    {finds : Nat → Nat → List Char → Prop} (locates : idiom.Locates text finds)
    {before : Option Char} {cs : List Char} {matched : List Capture}
    (all : Matches idiom before cs matched) :
    ∀ front, text = front ++ cs → before = front.getLast? →
      ∃ found : List (Nat × List Char), (found.map (·.1)).Pairwise (· < ·) ∧
        (∀ p t, (p, t) ∈ found ↔ finds front.length p t) ∧
        found.map (·.2) = matched.map (·.typeName) := by
  -- The front grows with every step of the search, so the induction has to hold for all of them.
  induction all with
  | done before =>
    intro front whole _
    rw [List.append_nil] at whole
    subst whole
    exact ⟨[], .nil, fun p t => by simp [locates.ended p t], rfl⟩
  | @pass before c cs matched free later ih =>
    intro front whole isBefore
    subst isBefore
    have next : text = front ++ [c] ++ cs := by simp [whole]
    obtain ⟨found, sorted, located, names⟩ := ih (front ++ [c]) next (by simp)
    refine ⟨found, sorted, fun p t => ?_, names⟩
    have passed := locates.pass front.length (by simp [whole]) (by simpa [whole] using free) p t
    rw [located, passed, List.length_append, List.length_singleton]
  | @take before c covered rest capture matched here isWhole later ih =>
    intro front whole isBefore
    subst isBefore
    have next : text = front ++ c :: covered ++ rest := by simp [whole]
    obtain ⟨found, sorted, located, names⟩ := ih (front ++ c :: covered) next
      (List.getLast?_append_cons front c covered).symm
    obtain ⟨first, split, behind⟩ := locates.take front.length (by simp [whole]) capture
      (by simpa [whole] using here)
    have length : (front ++ c :: covered).length = front.length + capture.length := by
      rw [List.length_append, isWhole]
    refine ⟨(first, capture.typeName) :: found, ?_, fun p t => ?_, ?_⟩
    · refine List.Pairwise.cons (fun q member => ?_) sorted
      obtain ⟨⟨p, t⟩, inFound, rfl⟩ := List.mem_map.mp member
      have captured := (located p t).mp inFound
      rw [length] at captured
      exact behind p t captured
    · rw [List.mem_cons, split, located, length, Prod.mk.injEq]
    · rw [List.map_cons, List.map_cons, names]

theorem Locates.captures {idiom : Idiom} {text : List Char}
    {finds : Nat → Nat → List Char → Prop} (locates : idiom.Locates text finds) :
    ∃ found : List (Nat × List Char), (found.map (·.1)).Pairwise (· < ·) ∧
      (∀ p t, (p, t) ∈ found ↔ finds 0 p t) ∧ idiom.captures text = found.map (·.2) := by
  obtain ⟨matched, all⟩ := exists_matches idiom none text
  obtain ⟨found, sorted, located, names⟩ := locates.of_matches all [] rfl rfl
  exact ⟨found, sorted, located, by rw [captures_eq all, names]⟩

end Downstream.Idiom
