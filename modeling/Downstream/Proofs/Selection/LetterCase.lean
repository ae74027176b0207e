import Downstream.Proofs.Selection.Ranking
import Downstream.Proofs.Text.LetterCase

/-!
The case of ASCII letters does not count for the score of a file. The scores of a list of files
decide which positions of the list are ranked, and in which order; so lists of files that are the
same but for case, one by one, are ranked and chosen from by the same positions.
-/
namespace Downstream

namespace Selection

/-! ### Positions -/

/-- The positions of the positive scores, from the highest score down; positions of one score stand
in increasing order. -/
structure RanksPlaces (scores places : List Nat) : Prop where
  mem_iff : ∀ place, place ∈ places ↔ ∃ s, scores[place]? = some s ∧ 0 < s
  ordered : places.Pairwise fun i j =>
    scores.getD j 0 < scores.getD i 0 ∨ (scores.getD i 0 = scores.getD j 0 ∧ i < j)

theorem RanksPlaces.unique {scores places others : List Nat} (ranks : RanksPlaces scores places)
    (ranks' : RanksPlaces scores others) : places = others := by
  have nodup : ∀ {places}, RanksPlaces scores places → places.Nodup := by
    intro places ranks
    refine ranks.ordered.imp fun precedes same => ?_
    subst same
    omega
  have perm : places.Perm others := by
    refine (List.perm_ext_iff_of_nodup (nodup ranks) (nodup ranks')).mpr fun place => ?_
    rw [ranks.mem_iff, ranks'.mem_iff]
  refine perm.eq_of_pairwise (fun i j _ _ before after => ?_) ranks.ordered ranks'.ordered
  omega

def placed (files : List SourceFile) : List (SourceFile × Nat) :=
  (files.zipIdx.filter fun entry => 0 < score entry.1).mergeSort fun a b => score b.1 ≤ score a.1

theorem mem_placed {files : List SourceFile} {entry : SourceFile × Nat} :
    entry ∈ placed files ↔ files[entry.2]? = some entry.1 ∧ 0 < score entry.1 := by
  rw [placed, (List.mergeSort_perm _ _).mem_iff, List.mem_filter, List.mem_zipIdx_iff_getElem?,
    decide_eq_true_eq]

theorem placed_ordered (files : List SourceFile) :
    (placed files).Pairwise fun a b =>
      score b.1 < score a.1 ∨ (score a.1 = score b.1 ∧ a.2 < b.2) := by
  have trans := trans_byKey fun entry : SourceFile × Nat => score entry.1
  have total := total_byKey fun entry : SourceFile × Nat => score entry.1
  have increasing : (files.zipIdx.map (·.2)).Pairwise (· < ·) := by
    rw [List.zipIdx_map_snd]
    exact List.pairwise_lt_range'
  refine List.pairwise_iff_forall_sublist.mpr fun {a b} pair => ?_
  have descending : score b.1 ≤ score a.1 :=
    of_decide_eq_true (List.pairwise_iff_forall_sublist.mp
      (List.pairwise_mergeSort trans total _) pair)
  rcases Nat.lt_or_eq_of_le descending with lower | same
  · exact Or.inl lower
  · -- Two files of one score stand as they stood before the sorting.
    have ties := pair.filter fun entry => score entry.1 == score a.1
    rw [placed, filter_mergeSort trans total _ fun x y here there => ?_] at ties
    · simp only [List.filter_cons, same, beq_self_eq_true, if_true, List.filter_nil] at ties
      have places := (ties.trans (List.filter_sublist.trans List.filter_sublist)).map (·.2)
      exact Or.inr ⟨same.symm, List.pairwise_iff_forall_sublist.mp increasing places⟩
    · rw [beq_iff_eq] at here there
      simp [here, there]

structure RankedAt (files : List SourceFile) (places : List Nat) : Prop where
  ranks : RanksPlaces (files.map score) places
  rank_eq : rank files = places.filterMap fun place => files[place]?.map withScore
  select_eq : ∀ topN, (Selector.heuristic topN).select files =
    (leading topN places).filterMap fun place => files[place]?

theorem leading_map {α β : Type} (f : α → β) (n : Int) (xs : List α) :
    leading n (xs.map f) = (leading n xs).map f := by
  simp only [leading, List.length_map]
  split
  · exact List.map_take.symm
  · exact List.map_take.symm

theorem leading_subset {α : Type} (n : Int) (xs : List α) : leading n xs ⊆ xs :=
  (isSlice_leading n xs).isPrefix.subset

theorem getD_map_score {files : List SourceFile} {entry : SourceFile × Nat}
    (member : entry ∈ placed files) : (files.map score).getD entry.2 0 = score entry.1 := by
  rw [List.getD_eq_getElem?_getD, List.getElem?_map, (mem_placed.mp member).1]
  rfl

theorem ranksPlaces_placed (files : List SourceFile) :
    RanksPlaces (files.map score) ((placed files).map (·.2)) := by
  constructor
  · intro place
    simp only [List.mem_map, mem_placed, Prod.exists, List.getElem?_map, Option.map_eq_some_iff]
    constructor
    · rintro ⟨file, place, ⟨here, positive⟩, rfl⟩
      exact ⟨score file, ⟨file, here, rfl⟩, positive⟩
    · rintro ⟨_, ⟨file, here, rfl⟩, positive⟩
      exact ⟨file, place, ⟨here, positive⟩, rfl⟩
  · refine List.pairwise_map.mpr ((placed_ordered files).imp_of_mem ?_)
    intro a b inside inside' precedes
    rwa [getD_map_score inside, getD_map_score inside']

theorem rank_eq_placed (files : List SourceFile) :
    rank files = (placed files).map fun entry => withScore entry.1 := by
  have positive : scored files =
      (files.zipIdx.filter fun entry => 0 < score entry.1).map (·.1) := by
    rw [scored]
    nth_rewrite 1 [← List.zipIdx_map_fst 0 files]
    rw [List.filter_map]
    rfl
  rw [rank_eq, positive, List.map_map, placed, List.map_mergeSort]
  · rfl
  · intros
    rfl

theorem rankedAt_placed (files : List SourceFile) :
    RankedAt files ((placed files).map (·.2)) where
  ranks := ranksPlaces_placed files
  rank_eq := by
    rw [List.filterMap_map, rank_eq_placed, ← List.filterMap_eq_map]
    refine List.filterMap_congr fun entry member => ?_
    simp [(mem_placed.mp member).1]
  select_eq topN := by
    rw [Selector.select, rank_eq_placed, List.map_map, leading_map, leading_map,
      List.filterMap_map, ← List.filterMap_eq_map]
    refine List.filterMap_congr fun entry member => ?_
    exact (mem_placed.mp (leading_subset topN _ member)).1.symm

end Selection

/-! ### Letter case -/

structure SourceFile.SameButCase (a b : SourceFile) : Prop where
  path : List.Forall₂ Text.SameButCase a.path.toList b.path.toList
  name : List.Forall₂ Text.SameButCase a.name.toList b.name.toList
  content : List.Forall₂ Text.SameButCase a.content.toList b.content.toList
  size : a.size = b.size

namespace Selection

theorem score_eq {a b : SourceFile} (alike : a.SameButCase b) : score a = score b := by
  have preview := Text.lower_eq (List.forall₂_take previewLength alike.content)
  rw [score, score, Text.lower_eq alike.path, Text.lower_eq alike.name, preview, alike.size]

/-- Files that are the same but for case score the same, and in lists of such files the same
positions are ranked and chosen in the same order. -/
theorem letter_case_keeps_choice :
    (∀ a b : SourceFile, a.SameButCase b → score a = score b) ∧
      ∀ files others : List SourceFile, List.Forall₂ SourceFile.SameButCase files others →
        ∃ places, RankedAt files places ∧ RankedAt others places := by
  refine ⟨fun _ _ => score_eq, fun files others alike => ?_⟩
  have scores : List.Forall₂ (fun a b => score a = score b) files others :=
    alike.imp fun _ _ => score_eq
  have equal : files.map score = others.map score :=
    List.forall₂_eq_eq_eq ▸ List.forall₂_map_left_iff.mpr (List.forall₂_map_right_iff.mpr scores)
  have ranked := rankedAt_placed others
  have same := (equal ▸ ranksPlaces_placed files).unique ranked.ranks
  exact ⟨_, rankedAt_placed files, same ▸ ranked⟩

def clientFiles : List SourceFile :=
  [⟨"ΑΣa.py", "svc/CLIENT/ΑΣa.py", "pass", "python", 4⟩,
    ⟨"ClientModule.py", "svc/ClientModule.py", "# bΣ\n@Bean", "python", 11⟩]

def shoutedFiles : List SourceFile :=
  [⟨"ΑΣA.PY", "SVC/Client/ΑΣA.PY", "PASS", "python", 4⟩,
    ⟨"CLIENTmodule.py", "svc/CLIENTmodule.py", "# BΣ\n@BEAN", "python", 11⟩]

theorem shouting_keeps_choice :
    clientFiles.map score = [8, 60] ∧ shoutedFiles.map score = [8, 60] ∧
      List.Forall₂ SourceFile.SameButCase clientFiles shoutedFiles ∧
      RankedAt clientFiles [1, 0] ∧ RankedAt shoutedFiles [1, 0] := by
  have scores : clientFiles.map score = [8, 60] := by decide +kernel
  have alike : List.Forall₂ SourceFile.SameButCase clientFiles shoutedFiles :=
    .cons ⟨by decide +kernel, by decide +kernel, by decide +kernel, rfl⟩
      (.cons ⟨by decide +kernel, by decide +kernel, by decide +kernel, rfl⟩ .nil)
  obtain ⟨places, ranked, ranked'⟩ := letter_case_keeps_choice.2 clientFiles shoutedFiles alike
  have shouted : shoutedFiles.map score = [8, 60] := by decide +kernel
  have known : RanksPlaces [8, 60] [1, 0] := by
    refine ⟨fun place => ?_, by decide⟩
    match place with
    | 0 => simp
    | 1 => simp
    | place + 2 => simp
  obtain rfl := (scores ▸ ranked.ranks).unique known
  exact ⟨scores, shouted, alike, ranked, ranked'⟩

end Selection

end Downstream
