import Downstream.Text.Points
import Mathlib.Data.List.TakeWhile

/-!
Texts as they are handed over, and the strings among them: a text has bytes if no half stands in it.
-/
namespace Downstream.Text.Points

def HoldsHalf (points : Points) : Prop :=
  ∃ offset, .half offset ∈ points

variable {points : Points}

theorem holdsHalf_iff : points.HoldsHalf ↔ ∃ point ∈ points, point.isHalf = true := by
  constructor
  · rintro ⟨offset, member⟩
    exact ⟨.half offset, member, rfl⟩
  · rintro ⟨point, member, half⟩
    cases point with
    | char c => simp [Point.isHalf] at half
    | half offset => exact ⟨offset, member⟩

instance (points : Points) : Decidable points.HoldsHalf :=
  decidable_of_iff (points.any (·.isHalf) = true) (by rw [List.any_eq_true, holdsHalf_iff])

theorem halves?_eq_none_iff : points.halves? = none ↔ ¬ points.HoldsHalf := by
  have plain : points.dropWhile (!·.isHalf) = [] ↔ ¬ points.HoldsHalf := by
    simp [List.dropWhile_eq_nil_iff, holdsHalf_iff]
  rw [← plain, halves?]
  split
  · rename_i empty
    exact iff_of_true rfl empty
  · rename_i found
    exact iff_of_false (Option.some_ne_none _) (by simp [found])

@[simp]
theorem text_ofString (s : String) : (ofString s).text = s := by
  have chars : (ofString s).filterMap (·.char?) = s.toList := by
    rw [ofString, List.filterMap_map]
    exact List.filterMap_some
  rw [text, chars, String.ofList_toList]

@[simp]
theorem not_holdsHalf_ofString (s : String) : ¬ (ofString s).HoldsHalf := by
  simp [HoldsHalf, ofString]

end Downstream.Text.Points
