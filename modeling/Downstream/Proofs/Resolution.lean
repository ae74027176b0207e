import Downstream.Resolution
import Mathlib.Data.List.Nodup
import Mathlib.Data.String.Basic

/-!
Resolving candidates loses no service and invents none: the names stay in increasing order, every
dependency stems from a candidate, and every candidate that names a service finds it among the
dependencies, with at least its own certainty. So the names and certainties depend on which
candidates there are, not on their order, and candidates that come later take nothing away.
-/
namespace Downstream

namespace Dependencies

def Increasing (ds : Dependencies) : Prop :=
  ds.Pairwise fun d e => d.name < e.name

theorem eq_of_name_eq {ds : Dependencies} {d e : Dependency} (increasing : ds.Increasing)
    (member : d ∈ ds) (other : e ∈ ds) (same : d.name = e.name) : d = e := by
  have distinct : (ds.map (·.name)).Nodup :=
    List.pairwise_map.mpr (increasing.imp fun less => less.ne)
  exact List.inj_on_of_nodup_map distinct member other same

def Covers (ds : Dependencies) (name : String) (confidence : Confidence) : Prop :=
  ∃ d ∈ ds, d.name = name ∧ confidence.rank ≤ d.confidence.rank

theorem mem_of_mem_insert {d e : Dependency} {ds : Dependencies} (member : e ∈ ds.insert d) :
    e = d ∨ e ∈ ds := by
  induction ds with
  | nil => simpa [insert] using member
  | cons first rest ih =>
    simp only [insert] at member
    split at member
    · simpa using member
    · split at member
      · split at member
        · rcases List.mem_cons.mp member with same | later
          · exact Or.inl same
          · exact Or.inr (List.mem_cons_of_mem _ later)
        · exact Or.inr member
      · rcases List.mem_cons.mp member with same | later
        · exact Or.inr (by simp [same])
        · rcases ih later with same | old
          · exact Or.inl same
          · exact Or.inr (List.mem_cons_of_mem _ old)

theorem increasing_insert {d : Dependency} {ds : Dependencies} (increasing : ds.Increasing) :
    (ds.insert d).Increasing := by
  induction ds with
  | nil => exact List.pairwise_singleton _ _
  | cons first rest ih =>
    obtain ⟨below, tail⟩ := List.pairwise_cons.mp increasing
    simp only [insert]
    split
    · rename_i less
      refine List.pairwise_cons.mpr ⟨?_, increasing⟩
      intro e member
      rcases List.mem_cons.mp member with same | later
      · rw [same]
        exact less
      · exact less.trans (below e later)
    · rename_i not_less
      split
      · rename_i same
        split
        · refine List.pairwise_cons.mpr ⟨?_, tail⟩
          intro e later
          rw [same]
          exact below e later
        · exact increasing
      · rename_i other
        refine List.pairwise_cons.mpr ⟨?_, ih tail⟩
        intro e member
        rcases mem_of_mem_insert member with same | later
        · rw [same]
          exact lt_of_le_of_ne (not_lt.mp not_less) (Ne.symm other)
        · exact below e later

theorem insert_covers_new (d : Dependency) (ds : Dependencies) :
    (ds.insert d).Covers d.name d.confidence := by
  induction ds with
  | nil => exact ⟨d, by simp [insert], rfl, Nat.le_refl _⟩
  | cons first rest ih =>
    simp only [insert]
    split
    · exact ⟨d, List.mem_cons_self, rfl, Nat.le_refl _⟩
    · split
      · rename_i same
        split
        · exact ⟨d, List.mem_cons_self, rfl, Nat.le_refl _⟩
        · rename_i not_more
          exact ⟨first, List.mem_cons_self, same.symm, Nat.le_of_not_lt not_more⟩
      · obtain ⟨e, member, named, enough⟩ := ih
        exact ⟨e, List.mem_cons_of_mem _ member, named, enough⟩

theorem insert_covers_old {d : Dependency} {ds : Dependencies} {name : String}
    {confidence : Confidence} (covered : ds.Covers name confidence) :
    (ds.insert d).Covers name confidence := by
  obtain ⟨e, member, named, enough⟩ := covered
  induction ds with
  | nil => simp at member
  | cons first rest ih =>
    simp only [insert]
    split
    · exact ⟨e, List.mem_cons_of_mem _ member, named, enough⟩
    · split
      · rename_i same
        split
        · rename_i more
          rcases List.mem_cons.mp member with replaced | later
          · -- The one that gives way has the same name and less certainty.
            rw [replaced] at named enough
            exact ⟨d, List.mem_cons_self, same.trans named, by omega⟩
          · exact ⟨e, List.mem_cons_of_mem _ later, named, enough⟩
        · exact ⟨e, member, named, enough⟩
      · rcases List.mem_cons.mp member with head | later
        · exact ⟨e, by simp [head], named, enough⟩
        · obtain ⟨f, kept, same, still⟩ := ih later
          exact ⟨f, List.mem_cons_of_mem _ kept, same, still⟩

def KeptIn (ds es : Dependencies) : Prop :=
  ∀ d ∈ ds, ∃ e ∈ es, e.name = d.name ∧ (e = d ∨ d.confidence.rank < e.confidence.rank)

theorem KeptIn.refl (ds : Dependencies) : ds.KeptIn ds :=
  fun d member => ⟨d, member, rfl, Or.inl rfl⟩

theorem KeptIn.trans {ds es fs : Dependencies} (first : ds.KeptIn es) (second : es.KeptIn fs) :
    ds.KeptIn fs := by
  intro d member
  obtain ⟨e, inner, named, kept⟩ := first d member
  obtain ⟨f, outer, again, still⟩ := second e inner
  refine ⟨f, outer, again.trans named, ?_⟩
  rcases kept with rfl | more
  · exact still
  · rcases still with rfl | evenMore
    · exact Or.inr more
    · exact Or.inr (more.trans evenMore)

theorem keptIn_insert (d : Dependency) (ds : Dependencies) : ds.KeptIn (ds.insert d) := by
  intro e member
  induction ds with
  | nil => simp at member
  | cons first rest ih =>
    simp only [insert]
    split
    · exact ⟨e, List.mem_cons_of_mem _ member, rfl, Or.inl rfl⟩
    · split
      · rename_i same
        split
        · rename_i more
          rcases List.mem_cons.mp member with rfl | later
          · exact ⟨d, List.mem_cons_self, same, Or.inr more⟩
          · exact ⟨e, List.mem_cons_of_mem _ later, rfl, Or.inl rfl⟩
        · exact ⟨e, member, rfl, Or.inl rfl⟩
      · rcases List.mem_cons.mp member with rfl | later
        · exact ⟨e, List.mem_cons_self, rfl, Or.inl rfl⟩
        · obtain ⟨f, kept, named, still⟩ := ih later
          exact ⟨f, List.mem_cons_of_mem _ kept, named, still⟩

def ratings (ds : Dependencies) : List (String × Confidence) :=
  ds.map fun d => (d.name, d.confidence)

theorem ratings_eq_of_mem_iff {ds es : Dependencies} (increasing : ds.Increasing)
    (increasing_other : es.Increasing)
    (same : ∀ rating, rating ∈ ds.ratings ↔ rating ∈ es.ratings) :
    ds.ratings = es.ratings := by
  have distinct {fs : Dependencies} (sorted : fs.Increasing) :
      fs.ratings.Pairwise fun a b => a.1 < b.1 := List.pairwise_map.mpr sorted
  have perm : ds.ratings.Perm es.ratings := by
    rw [List.perm_ext_iff_of_nodup]
    · exact same
    · exact (distinct increasing).imp fun less => fun equal => less.ne (congrArg Prod.fst equal)
    · exact (distinct increasing_other).imp fun less => fun equal =>
        less.ne (congrArg Prod.fst equal)
  refine perm.eq_of_pairwise ?_ (distinct increasing) (distinct increasing_other)
  intro a b _ _ less greater
  exact absurd less (lt_asymm greater)

variable {new ds : List Dependency}

theorem keptIn_foldl :
    KeptIn ds (new.foldl (fun found d => Dependencies.insert d found) ds) := by
  induction new generalizing ds with
  | nil => exact KeptIn.refl ds
  | cons d new ih => exact (keptIn_insert d ds).trans ih

theorem increasing_foldl (increasing : Increasing ds) :
    Increasing (new.foldl (fun found d => Dependencies.insert d found) ds) := by
  induction new generalizing ds with
  | nil => exact increasing
  | cons d new ih => exact ih (increasing_insert increasing)

theorem mem_of_mem_foldl {e : Dependency}
    (member : e ∈ new.foldl (fun found d => Dependencies.insert d found) ds) :
    e ∈ new ∨ e ∈ ds := by
  induction new generalizing ds with
  | nil => exact Or.inr member
  | cons d new ih =>
    rcases ih member with later | earlier
    · exact Or.inl (List.mem_cons_of_mem _ later)
    · rcases mem_of_mem_insert earlier with same | old
      · exact Or.inl (by simp [same])
      · exact Or.inr old

theorem foldl_covers_old {name : String} {confidence : Confidence}
    (covered : Covers ds name confidence) :
    Covers (new.foldl (fun found d => Dependencies.insert d found) ds) name confidence := by
  induction new generalizing ds with
  | nil => exact covered
  | cons d new ih => exact ih (insert_covers_old covered)

theorem foldl_covers_new {d : Dependency} (member : d ∈ new) :
    Covers (new.foldl (fun found d => Dependencies.insert d found) ds) d.name d.confidence := by
  induction new generalizing ds with
  | nil => simp at member
  | cons first new ih =>
    rcases List.mem_cons.mp member with same | later
    · rw [same, List.foldl_cons]
      exact foldl_covers_old (insert_covers_new first ds)
    · exact ih later

end Dependencies

theorem resolve_increasing (candidates : List Candidate) : (resolve candidates).Increasing :=
  Dependencies.increasing_foldl List.Pairwise.nil

theorem exists_candidate_of_mem_resolve {candidates : List Candidate} {d : Dependency}
    (member : d ∈ resolve candidates) : ∃ c ∈ candidates, c.toDependency? = some d := by
  rcases Dependencies.mem_of_mem_foldl member with suggested | none
  · exact List.mem_filterMap.mp suggested
  · simp at none

theorem resolve_covers {candidates : List Candidate} {c : Candidate} {name : String}
    (member : c ∈ candidates) (named : c.canonicalName? = some name) :
    (resolve candidates).Covers name c.confidence := by
  have suggested : (⟨name, c.source, c.confidence, c.evidence⟩ : Dependency) ∈
      candidates.filterMap (·.toDependency?) :=
    List.mem_filterMap.mpr ⟨c, member, by simp [Candidate.toDependency?, named]⟩
  exact Dependencies.foldl_covers_new suggested

theorem resolve_keptIn_append (candidates later : List Candidate) :
    (resolve candidates).KeptIn (resolve (candidates ++ later)) := by
  rw [resolve, resolve, List.filterMap_append, List.foldl_append]
  exact Dependencies.keptIn_foldl

namespace Candidate

theorem toDependency?_eq_some {c : Candidate} {d : Dependency}
    (suggests : c.toDependency? = some d) :
    c.canonicalName? = some d.name ∧ d.source = c.source ∧ d.confidence = c.confidence ∧
      d.evidence = c.evidence := by
  obtain ⟨name, named, rfl⟩ := Option.map_eq_some_iff.mp suggests
  exact ⟨named, rfl, rfl, rfl⟩

end Candidate

namespace Confidence

theorem eq_of_rank_eq {confidence other : Confidence} (same : confidence.rank = other.rank) :
    confidence = other := by
  cases confidence <;> cases other <;> first | rfl | contradiction

end Confidence

def PeaksAt (candidates : List Candidate) (name : String) (confidence : Confidence) : Prop :=
  (∃ c ∈ candidates, c.canonicalName? = some name ∧ c.confidence = confidence) ∧
    ∀ c ∈ candidates, c.canonicalName? = some name → c.confidence.rank ≤ confidence.rank

theorem mem_ratings_resolve_iff {candidates : List Candidate} {name : String}
    {confidence : Confidence} :
    (name, confidence) ∈ (resolve candidates).ratings ↔ PeaksAt candidates name confidence := by
  simp only [Dependencies.ratings, List.mem_map, Prod.mk.injEq]
  constructor
  · rintro ⟨d, member, rfl, rfl⟩
    obtain ⟨c, isCandidate, suggests⟩ := exists_candidate_of_mem_resolve member
    obtain ⟨named, _, confidence, _⟩ := Candidate.toDependency?_eq_some suggests
    refine ⟨⟨c, isCandidate, named, confidence.symm⟩, ?_⟩
    intro other isOther namedToo
    obtain ⟨e, listed, same, enough⟩ := resolve_covers isOther namedToo
    rwa [Dependencies.eq_of_name_eq (resolve_increasing candidates) listed member same] at enough
  · rintro ⟨⟨c, isCandidate, named, rfl⟩, highest⟩
    obtain ⟨d, member, same, enough⟩ := resolve_covers isCandidate named
    obtain ⟨other, isOther, suggests⟩ := exists_candidate_of_mem_resolve member
    obtain ⟨namedToo, _, confidence, _⟩ := Candidate.toDependency?_eq_some suggests
    have limit := highest other isOther (namedToo.trans (congrArg some same))
    rw [← confidence] at limit
    exact ⟨d, member, same, Confidence.eq_of_rank_eq (Nat.le_antisymm limit enough)⟩

theorem ratings_resolve_eq {candidates other : List Candidate}
    (same : ∀ c, c ∈ candidates ↔ c ∈ other) :
    (resolve candidates).ratings = (resolve other).ratings := by
  refine Dependencies.ratings_eq_of_mem_iff (resolve_increasing _) (resolve_increasing _) ?_
  rintro ⟨name, confidence⟩
  simp only [mem_ratings_resolve_iff, PeaksAt, same]

namespace Naming

theorem isServiceName_of_canonical? {raw name : String} {suffixes : List String}
    (named : canonical? raw suffixes = some name) : isServiceName name = true := by
  simp only [canonical?] at named
  split at named
  · rename_i valid
    rw [← Option.some.inj named]
    exact valid
  · simp at named

end Naming

end Downstream
