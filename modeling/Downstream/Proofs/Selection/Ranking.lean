import Downstream.Proofs.Selection

/-!
The order of the files by their scores. A ranking lists the files with a positive score from the
highest score down, and files of one score as they came; two lists that do so are the same. So files
that are dropped before the ranking are missing from it, and nothing else about it changes.
-/
namespace Downstream.Selection

def withScore (file : SourceFile) : SourceFile × Nat :=
  (file, score file)

/-- The files with a positive score, each with its score, from the highest score down; files of one
score stand in the order of the list. -/
structure IsRanking (files : List SourceFile) (ranked : List (SourceFile × Nat)) : Prop where
  perm : ranked.Perm ((scored files).map withScore)
  descending : ranked.Pairwise fun a b => b.2 ≤ a.2
  stable : ∀ s, ranked.filter (·.2 == s) = ((scored files).map withScore).filter (·.2 == s)

theorem rank_eq (files : List SourceFile) :
    rank files = ((scored files).map withScore).mergeSort fun a b => b.2 ≤ a.2 := by
  have positive : (files.map withScore).filter (fun entry => 0 < entry.2) =
      (scored files).map withScore := by
    rw [List.filter_map]
    rfl
  rw [← positive]
  rfl

theorem filter_mergeSort {α : Type} {le : α → α → Bool}
    (trans : ∀ a b c, le a b = true → le b c = true → le a c = true)
    (total : ∀ a b, (le a b || le b a) = true) (xs : List α) {p : α → Bool}
    (ties : ∀ a b, p a = true → p b = true → le a b = true) :
    (xs.mergeSort le).filter p = xs.filter p := by
  have inOrder : (xs.filter p).Pairwise fun a b => le a b = true := by
    refine List.pairwise_iff_forall_sublist.mpr fun {a b} pair => ?_
    have first := (List.mem_filter.mp (pair.subset List.mem_cons_self)).2
    have second := (List.mem_filter.mp (pair.subset (List.mem_cons_of_mem a List.mem_cons_self))).2
    exact ties a b first second
  have kept := (List.sublist_mergeSort trans total inOrder List.filter_sublist).filter p
  simp only [List.filter_filter, Bool.and_self] at kept
  exact (kept.eq_of_length ((List.mergeSort_perm xs le).filter p).length_eq.symm).symm

theorem trans_byKey {α : Type} (key : α → Nat) (a b c : α) :
    decide (key b ≤ key a) = true → decide (key c ≤ key b) = true →
      decide (key c ≤ key a) = true := by
  simp only [decide_eq_true_eq]
  omega

theorem total_byKey {α : Type} (key : α → Nat) (a b : α) :
    (decide (key b ≤ key a) || decide (key a ≤ key b)) = true := by
  simp only [Bool.or_eq_true, decide_eq_true_eq]
  omega

theorem isRanking_rank (files : List SourceFile) : IsRanking files (rank files) := by
  have trans := trans_byKey fun entry : SourceFile × Nat => entry.2
  have total := total_byKey fun entry : SourceFile × Nat => entry.2
  rw [rank_eq]
  refine ⟨List.mergeSort_perm _ _, ?_, fun s => filter_mergeSort trans total _ ?_⟩
  · simpa using List.pairwise_mergeSort trans total ((scored files).map withScore)
  · intro a b here there
    rw [beq_iff_eq] at here there
    simp [here, there]

/-- The highest score comes first, so the first entries of two rankings with the same entries for
every score are the same. -/
theorem head_eq_of_filter_eq {a b : SourceFile × Nat} {as bs : List (SourceFile × Nat)}
    (descending : (a :: as).Pairwise fun a b => b.2 ≤ a.2)
    (descending' : (b :: bs).Pairwise fun a b => b.2 ≤ a.2)
    (same : ∀ s, (a :: as).filter (·.2 == s) = (b :: bs).filter (·.2 == s)) : a = b := by
  have inside : a ∈ (b :: bs).filter (·.2 == a.2) := by
    rw [← same]
    exact List.mem_filter.mpr ⟨List.mem_cons_self, beq_self_eq_true a.2⟩
  have inside' : b ∈ (a :: as).filter (·.2 == b.2) := by
    rw [same]
    exact List.mem_filter.mpr ⟨List.mem_cons_self, beq_self_eq_true b.2⟩
  have below : a.2 ≤ b.2 := by
    rcases List.mem_cons.mp (List.mem_filter.mp inside).1 with rfl | later
    · exact Nat.le_refl _
    · exact List.rel_of_pairwise_cons descending' later
  have above : b.2 ≤ a.2 := by
    rcases List.mem_cons.mp (List.mem_filter.mp inside').1 with rfl | later
    · exact Nat.le_refl _
    · exact List.rel_of_pairwise_cons descending later
  have equal : b.2 = a.2 := Nat.le_antisymm above below
  have heads := same a.2
  simp only [List.filter_cons, equal, beq_self_eq_true, if_true] at heads
  exact (List.cons.inj heads).1

theorem eq_of_filter_eq {as bs : List (SourceFile × Nat)}
    (descending : as.Pairwise fun a b => b.2 ≤ a.2)
    (descending' : bs.Pairwise fun a b => b.2 ≤ a.2)
    (same : ∀ s, as.filter (·.2 == s) = bs.filter (·.2 == s)) : as = bs := by
  induction as generalizing bs with
  | nil =>
    cases bs with
    | nil => rfl
    | cons b bs => simpa using same b.2
  | cons a as ih =>
    cases bs with
    | nil => simpa using same a.2
    | cons b bs =>
      obtain rfl := head_eq_of_filter_eq descending descending' same
      rw [ih descending.of_cons descending'.of_cons fun s => ?_]
      have tails := same s
      simp only [List.filter_cons] at tails
      split at tails
      · exact (List.cons.inj tails).2
      · exact tails

theorem IsRanking.eq_rank {files : List SourceFile} {ranked : List (SourceFile × Nat)}
    (isRanking : IsRanking files ranked) : ranked = rank files :=
  have theRank := isRanking_rank files
  eq_of_filter_eq isRanking.descending theRank.descending fun s =>
    (isRanking.stable s).trans (theRank.stable s).symm

theorem map_withScore_filter (files : List SourceFile) (keep : SourceFile → Bool) :
    (scored (files.filter keep)).map withScore =
      ((scored files).map withScore).filter fun entry => keep entry.1 := by
  rw [List.filter_map, scored, scored, List.filter_filter, List.filter_filter]
  refine congrArg (List.map withScore) (List.filter_congr fun file _ => ?_)
  rw [Bool.and_comm]
  rfl

theorem IsRanking.filter {files : List SourceFile} {ranked : List (SourceFile × Nat)}
    (isRanking : IsRanking files ranked) (keep : SourceFile → Bool) :
    IsRanking (files.filter keep) (ranked.filter fun entry => keep entry.1) := by
  constructor
  · rw [map_withScore_filter]
    exact isRanking.perm.filter _
  · exact isRanking.descending.sublist List.filter_sublist
  · intro s
    rw [map_withScore_filter, List.filter_filter, List.filter_filter]
    simp only [Bool.and_comm (_ == s)]
    rw [← List.filter_filter, ← List.filter_filter, isRanking.stable s]

/-! ### Slices -/

/-- The elements in front of position `n`, which is counted from the end where it is negative. -/
structure IsSlice {α : Type} (n : Int) (xs front : List α) : Prop where
  isPrefix : front <+: xs
  length : (front.length : Int) = max 0 (min (xs.length : Int) (if 0 ≤ n then n else xs.length + n))

theorem isSlice_leading {α : Type} (n : Int) (xs : List α) : IsSlice n xs (leading n xs) := by
  unfold leading
  split
  · refine ⟨List.take_prefix _ _, ?_⟩
    rw [List.length_take]
    omega
  · refine ⟨List.take_prefix _ _, ?_⟩
    rw [List.length_take]
    omega

/-- A limit below zero leaves elements off the end, and a limit far below leaves none. -/
example : leading (-1) [1, 2, 3] = [1, 2] ∧ leading (-4) [1, 2, 3] = [] := by decide

theorem exists_leading_append {α : Type} (n : Int) (xs : List α) :
    ∃ rest, xs = leading n xs ++ rest := by
  obtain ⟨rest, whole⟩ := (isSlice_leading n xs).isPrefix
  exact ⟨rest, whole.symm⟩

structure ChoosesByScore (files : List SourceFile) (topN : Int) : Prop where
  ranked : IsRanking files (rank files)
  dropped : ∀ keep : SourceFile → Bool,
    rank (files.filter keep) = (rank files).filter fun entry => keep entry.1
  slice : IsSlice topN ((rank files).map (·.1)) ((Selector.heuristic topN).select files)
  count : 0 ≤ topN →
    ((Selector.heuristic topN).select files).length = min topN.toNat (scored files).length
  best : ∃ rest, ((Selector.heuristic topN).select files ++ rest).Perm (scored files) ∧
    ∀ chosen ∈ (Selector.heuristic topN).select files, ∀ file ∈ rest, score file ≤ score chosen
  grows : ∀ more, 0 ≤ topN → topN ≤ more →
    (Selector.heuristic topN).select files <+: (Selector.heuristic more).select files

theorem select_best (files : List SourceFile) (topN : Int) :
    ∃ rest, ((Selector.heuristic topN).select files ++ rest).Perm (scored files) ∧
      ∀ chosen ∈ (Selector.heuristic topN).select files, ∀ file ∈ rest,
        score file ≤ score chosen := by
  obtain ⟨rest, whole⟩ := exists_leading_append topN ((rank files).map (·.1))
  have perm := map_rank_perm files
  have descending : ((rank files).map (·.1)).Pairwise fun a b => score b ≤ score a := by
    refine List.pairwise_map.mpr ((isRanking_rank files).descending.imp_of_mem ?_)
    intro a b ranked ranked' lower
    have scoreOf : ∀ entry ∈ rank files, entry.2 = score entry.1 := by
      intro entry member
      obtain ⟨file, _, rfl⟩ := List.mem_map.mp ((isRanking_rank files).perm.mem_iff.mp member)
      rfl
    rwa [scoreOf a ranked, scoreOf b ranked'] at lower
  rw [whole] at perm descending
  exact ⟨rest, perm, (List.pairwise_append.mp descending).2.2⟩

/-- Choosing by score takes the front of the ranking: the best files, up to the limit. -/
theorem heuristic_chooses_by_score (files : List SourceFile) (topN : Int) :
    ChoosesByScore files topN where
  ranked := isRanking_rank files
  dropped keep := ((isRanking_rank files).filter keep).eq_rank.symm
  slice := isSlice_leading topN _
  count nonneg := by
    rw [Selector.select, leading_of_nonneg nonneg, List.length_take, (map_rank_perm files).length_eq]
  best := select_best files topN
  grows _ nonneg atMost := Selector.select_heuristic_prefix nonneg atMost files

end Downstream.Selection
