import Downstream.Selection.Basic
import Mathlib.Data.List.Sort

/-!
The files chosen by score. A higher limit only adds files behind those of a lower one, and where the
limit leaves no file with a positive score out, the order of the files decides the order of the
chosen files only.
-/
namespace Downstream

namespace Selection

variable {α : Type}

theorem leading_of_nonneg {n : Int} (nonneg : 0 ≤ n) (xs : List α) :
    leading n xs = xs.take n.toNat := by
  rw [leading, if_pos nonneg]

theorem leading_prefix {n m : Int} (nonneg : 0 ≤ n) (atMost : n ≤ m) (xs : List α) :
    leading n xs <+: leading m xs := by
  rw [leading_of_nonneg nonneg, leading_of_nonneg (by omega)]
  exact List.take_prefix_take_left (by omega)

theorem leading_eq_self {n : Int} {xs : List α} (enough : (xs.length : Int) ≤ n) :
    leading n xs = xs := by
  rw [leading_of_nonneg (by omega)]
  exact List.take_of_length_le (by omega)

def scored (files : List SourceFile) : List SourceFile :=
  files.filter fun file => 0 < score file

theorem map_rank_perm (files : List SourceFile) :
    ((rank files).map (·.1)).Perm (scored files) := by
  have sorted := (List.mergeSort_perm
    ((files.map fun file => (file, score file)).filter fun entry => 0 < entry.2)
    fun a b => b.2 ≤ a.2).map (·.1)
  refine sorted.trans (List.Perm.of_eq ?_)
  rw [List.filter_map, List.map_map, Function.comp_def, List.map_id']
  rfl

end Selection

namespace Selector

open Selection

theorem select_heuristic_prefix {n m : Int} (nonneg : 0 ≤ n) (atMost : n ≤ m)
    (files : List SourceFile) :
    (heuristic n).select files <+: (heuristic m).select files :=
  leading_prefix nonneg atMost _

theorem select_heuristic_perm {topN : Int} {files : List SourceFile}
    (enough : ((scored files).length : Int) ≤ topN) :
    ((heuristic topN).select files).Perm (scored files) := by
  have ranked := map_rank_perm files
  rw [select, leading_eq_self (by rw [ranked.length_eq]; exact enough)]
  exact ranked

end Selector

end Downstream
