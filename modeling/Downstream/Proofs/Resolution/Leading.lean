import Downstream.Proofs.Naming
import Downstream.Proofs.Resolution
import Mathlib.Data.List.Sort

/-!
Who leads for a service: of all that name it, the first of the most certain ones. An insertion into
an increasing list changes the leaders just as an addition at the end of any list does, so a
resolved list holds the leader for every name and nothing else. The leader of two lists is the
better one of their leaders, which is why candidates may be resolved in parts.
-/
namespace Downstream

namespace Dependency

/-- The more certain one of two dependencies; the first one where they are equally certain. -/
def orMoreCertain (d e : Dependency) : Dependency :=
  if d.confidence.rank < e.confidence.rank then e else d

theorem orMoreCertain_of_lt {d e : Dependency} (less : d.confidence.rank < e.confidence.rank) :
    d.orMoreCertain e = e :=
  if_pos less

theorem orMoreCertain_of_le {d e : Dependency} (enough : e.confidence.rank ≤ d.confidence.rank) :
    d.orMoreCertain e = d :=
  if_neg (Nat.not_lt.mpr enough)

instance : Std.Associative orMoreCertain where
  assoc d e f := by
    rcases Nat.lt_or_ge d.confidence.rank e.confidence.rank with less | enough
    · rw [orMoreCertain_of_lt less]
      rcases Nat.lt_or_ge e.confidence.rank f.confidence.rank with lessToo | enoughToo
      · rw [orMoreCertain_of_lt lessToo, orMoreCertain_of_lt (less.trans lessToo)]
      · rw [orMoreCertain_of_le enoughToo, orMoreCertain_of_lt less]
    · rw [orMoreCertain_of_le enough]
      rcases Nat.lt_or_ge e.confidence.rank f.confidence.rank with lessToo | enoughToo
      · rw [orMoreCertain_of_lt lessToo]
      · rw [orMoreCertain_of_le enoughToo, orMoreCertain_of_le enough,
          orMoreCertain_of_le (enoughToo.trans enough)]

def named? (name : String) (d : Dependency) : Option Dependency :=
  if d.name = name then some d else none

end Dependency

namespace Dependencies

open Dependency

def leader? (name : String) : List Dependency → Option Dependency
  | [] => none
  | d :: rest => (d.named? name).merge orMoreCertain (leader? name rest)

variable {name : String} {d e : Dependency} {ds es new : List Dependency}

theorem leader?_append : leader? name (ds ++ es) =
    (leader? name ds).merge orMoreCertain (leader? name es) := by
  induction ds with
  | nil => simp [leader?]
  | cons first ds ih =>
    rw [List.cons_append, leader?, leader?, ih]
    exact (Std.Associative.assoc _ _ _).symm

theorem leader?_cons_of_eq (named : d.name = name) :
    leader? name (d :: ds) = (some d).merge orMoreCertain (leader? name ds) := by
  rw [leader?, named?, if_pos named]

theorem leader?_cons_of_ne (other : d.name ≠ name) : leader? name (d :: ds) = leader? name ds := by
  simp [leader?, named?, other]

theorem leader?_eq_none_iff : leader? name ds = none ↔ ∀ d ∈ ds, d.name ≠ name := by
  induction ds with
  | nil => simp [leader?]
  | cons first ds ih =>
    rw [List.forall_mem_cons, ← ih]
    by_cases named : first.name = name
    · cases rest : leader? name ds <;> simp [leader?_cons_of_eq named, named, rest]
    · simp [leader?_cons_of_ne named, named]

theorem exists_split_of_leader? (leads : leader? name ds = some d) :
    d.name = name ∧ ∃ earlier later, ds = earlier ++ d :: later ∧
      (∀ e ∈ earlier, e.name = name → e.confidence.rank < d.confidence.rank) ∧
      ∀ e ∈ later, e.name = name → e.confidence.rank ≤ d.confidence.rank := by
  induction ds generalizing d with
  | nil => simp [leader?] at leads
  | cons first ds ih =>
    by_cases named : first.name = name
    · rw [leader?_cons_of_eq named] at leads
      cases rest : leader? name ds with
      | none =>
        rw [rest] at leads
        obtain rfl := Option.some.inj leads
        refine ⟨named, [], ds, rfl, by simp, fun e member sameName => ?_⟩
        exact absurd sameName (leader?_eq_none_iff.mp rest e member)
      | some e =>
        rw [rest] at leads
        obtain ⟨namedToo, earlier, later, rfl, below, atMost⟩ := ih rest
        rcases Nat.lt_or_ge first.confidence.rank e.confidence.rank with less | enough
        · obtain rfl : e = d := (orMoreCertain_of_lt less).symm.trans (Option.some.inj leads)
          refine ⟨namedToo, first :: earlier, later, rfl, ?_, atMost⟩
          exact List.forall_mem_cons.mpr ⟨fun _ => less, below⟩
        · obtain rfl : first = d := (orMoreCertain_of_le enough).symm.trans (Option.some.inj leads)
          refine ⟨named, [], earlier ++ e :: later, rfl, by simp, fun f member sameName => ?_⟩
          rcases List.mem_append.mp member with before | behind
          · exact (below f before sameName).le.trans enough
          · rcases List.mem_cons.mp behind with rfl | behind
            · exact enough
            · exact (atMost f behind sameName).trans enough
    · rw [leader?_cons_of_ne named] at leads
      obtain ⟨namedToo, earlier, later, rfl, below, atMost⟩ := ih leads
      refine ⟨namedToo, first :: earlier, later, rfl, ?_, atMost⟩
      exact List.forall_mem_cons.mpr ⟨fun sameName => absurd sameName named, below⟩

theorem leader?_split {earlier later : List Dependency}
    (below : ∀ e ∈ earlier, e.name = d.name → e.confidence.rank < d.confidence.rank)
    (atMost : ∀ e ∈ later, e.name = d.name → e.confidence.rank ≤ d.confidence.rank) :
    leader? d.name (earlier ++ d :: later) = some d := by
  have behind : (some d).merge orMoreCertain (leader? d.name later) = some d := by
    cases rest : leader? d.name later with
    | none => rfl
    | some e =>
      obtain ⟨named, _, _, rfl, _⟩ := exists_split_of_leader? rest
      exact congrArg some (orMoreCertain_of_le (atMost e (by simp) named))
  rw [leader?_append, leader?_cons_of_eq rfl, behind]
  cases front : leader? d.name earlier with
  | none => rfl
  | some e =>
    obtain ⟨named, _, _, rfl, _⟩ := exists_split_of_leader? front
    exact congrArg some (orMoreCertain_of_lt (below e (by simp) named))

theorem mem_iff_leader? (increasing : Increasing ds) : d ∈ ds ↔ leader? d.name ds = some d := by
  constructor
  · intro member
    cases leads : leader? d.name ds with
    | none => exact absurd rfl (leader?_eq_none_iff.mp leads d member)
    | some e =>
      obtain ⟨named, earlier, later, split, _⟩ := exists_split_of_leader? leads
      have listed : e ∈ ds := by simp [split]
      rw [eq_of_name_eq increasing listed member named]
  · intro leads
    obtain ⟨_, earlier, later, rfl, _⟩ := exists_split_of_leader? leads
    simp

theorem eq_of_leader?_eq (increasing : Increasing ds) (increasingToo : Increasing es)
    (same : ∀ name, leader? name ds = leader? name es) : ds = es := by
  have irreflexive : Std.Irrefl fun d e : Dependency => d.name < e.name := ⟨fun _ => lt_irrefl _⟩
  have antisymmetric : Std.Antisymm fun d e : Dependency => d.name < e.name :=
    ⟨fun _ _ less more => absurd more less.asymm⟩
  refine List.Pairwise.eq_of_mem_iff increasing increasingToo fun d => ?_
  rw [mem_iff_leader? increasing, mem_iff_leader? increasingToo, same]

theorem leader?_singleton_of_ne (other : d.name ≠ name) : leader? name [d] = none :=
  leader?_eq_none_iff.mpr (by simpa using other)

theorem leader?_cons_eq_append (alone : ∀ e ∈ ds, e.name ≠ d.name) :
    leader? name (d :: ds) = leader? name (ds ++ [d]) := by
  rw [leader?_append]
  by_cases named : d.name = name
  · subst named
    rw [leader?_cons_of_eq rfl, leader?_eq_none_iff.mpr alone, leader?_cons_of_eq rfl]
    rfl
  · rw [leader?_cons_of_ne named, leader?_singleton_of_ne named, Option.merge_none_right]

theorem leader?_cons_append (same : d.name = e.name) (alone : ∀ f ∈ ds, f.name ≠ d.name) :
    leader? name (e :: ds ++ [d]) = leader? name (e.orMoreCertain d :: ds) := by
  have kept : (e.orMoreCertain d).name = d.name := by
    unfold orMoreCertain
    split
    · rfl
    · exact same.symm
  by_cases named : d.name = name
  · subst named
    rw [leader?_append, leader?_cons_of_eq same.symm, leader?_cons_of_eq kept,
      leader?_eq_none_iff.mpr alone, leader?_cons_of_eq rfl]
    rfl
  · rw [leader?_append, leader?_singleton_of_ne named, Option.merge_none_right,
      leader?_cons_of_ne (same ▸ named), leader?_cons_of_ne (kept ▸ named)]

theorem leader?_insert (increasing : Increasing ds) :
    leader? name (insert d ds) = leader? name (ds ++ [d]) := by
  induction ds with
  | nil => rfl
  | cons first rest ih =>
    obtain ⟨below, tail⟩ := List.pairwise_cons.mp increasing
    simp only [insert]
    split
    · rename_i less
      refine leader?_cons_eq_append fun e member => ?_
      rcases List.mem_cons.mp member with rfl | later
      · exact less.ne'
      · exact (less.trans (below e later)).ne'
    · split
      · rename_i same
        have alone : ∀ e ∈ rest, e.name ≠ d.name := fun e later => same ▸ (below e later).ne'
        rw [leader?_cons_append same alone]
        split
        · rename_i more
          rw [orMoreCertain_of_lt more]
        · rename_i not_more
          rw [orMoreCertain_of_le (Nat.le_of_not_lt not_more)]
      · rw [List.cons_append, leader?, leader?, ih tail]

theorem leader?_foldl (increasing : Increasing ds) :
    leader? name (new.foldl (fun found d => insert d found) ds) = leader? name (ds ++ new) := by
  induction new generalizing ds with
  | nil => rw [List.append_nil]; rfl
  | cons d new ih =>
    rw [List.foldl_cons, ih (increasing_insert increasing), leader?_append,
      leader?_insert increasing, ← leader?_append, List.append_assoc, List.singleton_append]

end Dependencies

open Dependencies

variable {candidates xs ys : List Candidate} {name : String}

def suggestions (candidates : List Candidate) : List Dependency :=
  candidates.filterMap (·.toDependency?)

theorem suggestions_append : suggestions (xs ++ ys) = suggestions xs ++ suggestions ys :=
  List.filterMap_append

theorem leader?_resolve :
    leader? name (resolve candidates) = leader? name (suggestions candidates) :=
  leader?_foldl List.Pairwise.nil

theorem mem_resolve_iff {d : Dependency} :
    d ∈ resolve candidates ↔ leader? d.name (suggestions candidates) = some d := by
  rw [mem_iff_leader? (resolve_increasing candidates), leader?_resolve]

namespace Candidate

/-- A candidate leads the others for a name: none in front of it names the service with as much
certainty, and none behind it with more. -/
structure Leads (c : Candidate) (candidates : List Candidate) (name : String) : Prop where
  named : c.canonicalName? = some name
  split : ∃ earlier later, candidates = earlier ++ c :: later ∧
    (∀ other ∈ earlier, other.canonicalName? = some name →
      other.confidence.rank < c.confidence.rank) ∧
    ∀ other ∈ later, other.canonicalName? = some name →
      other.confidence.rank ≤ c.confidence.rank

def dependencyFor (c : Candidate) (name : String) : Dependency :=
  ⟨name, c.source, c.confidence, c.evidence⟩

theorem toDependency?_eq_some_iff {c : Candidate} {d : Dependency} :
    c.toDependency? = some d ↔ c.canonicalName? = some d.name ∧ d = c.dependencyFor d.name := by
  constructor
  · intro suggests
    obtain ⟨name, named, rfl⟩ := Option.map_eq_some_iff.mp suggests
    exact ⟨named, rfl⟩
  · rintro ⟨named, same⟩
    rw [toDependency?, named, same]
    rfl

theorem forall_suggestions_iff (P : Confidence → Prop) :
    (∀ d ∈ suggestions candidates, d.name = name → P d.confidence) ↔
      ∀ c ∈ candidates, c.canonicalName? = some name → P c.confidence := by
  constructor
  · intro all c member named
    refine all (c.dependencyFor name) (List.mem_filterMap.mpr ⟨c, member, ?_⟩) rfl
    exact toDependency?_eq_some_iff.mpr ⟨named, rfl⟩
  · rintro all d member rfl
    obtain ⟨c, inCandidates, suggests⟩ := List.mem_filterMap.mp member
    obtain ⟨named, same⟩ := toDependency?_eq_some_iff.mp suggests
    rw [same]
    exact all c inCandidates named

end Candidate

theorem leader?_suggestions_iff {d : Dependency} :
    leader? d.name (suggestions candidates) = some d ↔
      ∃ c : Candidate, c.Leads candidates d.name ∧ d = c.dependencyFor d.name := by
  constructor
  · intro leads
    obtain ⟨_, earlier, later, split, below, atMost⟩ := exists_split_of_leader? leads
    obtain ⟨front, rest, rfl, rfl, back⟩ := List.filterMap_eq_append_iff.mp split
    obtain ⟨silent, c, behind, rfl, silence, suggests, rfl⟩ := List.filterMap_eq_cons_iff.mp back
    obtain ⟨named, same⟩ := Candidate.toDependency?_eq_some_iff.mp suggests
    have certainty : d.confidence = c.confidence := by rw [same]; rfl
    rw [certainty] at below atMost
    refine ⟨c, ⟨named, front ++ silent, behind, (List.append_assoc _ _ _).symm, ?_,
      (Candidate.forall_suggestions_iff (·.rank ≤ c.confidence.rank)).mp atMost⟩, same⟩
    intro other member namedToo
    rcases List.mem_append.mp member with inFront | isSilent
    · exact (Candidate.forall_suggestions_iff (·.rank < c.confidence.rank)).mp below other inFront
        namedToo
    · have named : other.canonicalName? = some (other.dependencyFor d.name).name := namedToo
      have suggestsToo := Candidate.toDependency?_eq_some_iff.mpr ⟨named, rfl⟩
      rw [silence other isSilent] at suggestsToo
      simp at suggestsToo
  · rintro ⟨c, ⟨named, earlier, later, rfl, below, atMost⟩, same⟩
    have suggests := Candidate.toDependency?_eq_some_iff.mpr ⟨named, same⟩
    have certainty : d.confidence = c.confidence := by rw [same]; rfl
    rw [← certainty] at below atMost
    rw [suggestions_append, suggestions, suggestions, List.filterMap_cons_some suggests]
    exact leader?_split
      ((Candidate.forall_suggestions_iff (·.rank < d.confidence.rank)).mpr below)
      ((Candidate.forall_suggestions_iff (·.rank ≤ d.confidence.rank)).mpr atMost)

/-- A resolved list names, in increasing order, the services that some candidate names and no
others, and for each of them it holds what the leading candidate suggests. -/
theorem resolve_lists_leaders (candidates : List Candidate) :
    (resolve candidates).Increasing ∧
    (∀ name, (∃ d ∈ resolve candidates, d.name = name) ↔
      ∃ c ∈ candidates, c.canonicalName? = some name) ∧
    ∀ d, d ∈ resolve candidates ↔
      ∃ c : Candidate, c.Leads candidates d.name ∧ d = c.dependencyFor d.name := by
  refine ⟨resolve_increasing candidates, fun name => ⟨?_, ?_⟩, fun d => ?_⟩
  · rintro ⟨d, member, rfl⟩
    obtain ⟨c, inCandidates, suggests⟩ := exists_candidate_of_mem_resolve member
    exact ⟨c, inCandidates, (Candidate.toDependency?_eq_some_iff.mp suggests).1⟩
  · rintro ⟨c, inCandidates, named⟩
    obtain ⟨d, member, same, _⟩ := resolve_covers inCandidates named
    exact ⟨d, member, same⟩
  · rw [mem_resolve_iff, leader?_suggestions_iff]

def Dependency.asCandidate (d : Dependency) : Candidate :=
  ⟨d.name, d.source, d.confidence, d.evidence, []⟩

theorem isServiceName_of_mem_resolve {d : Dependency} (member : d ∈ resolve candidates) :
    Naming.isServiceName d.name = true := by
  obtain ⟨c, _, suggests⟩ := exists_candidate_of_mem_resolve member
  exact Naming.isServiceName_of_canonical? (Candidate.toDependency?_eq_some_iff.mp suggests).1

theorem suggestions_resolve (candidates : List Candidate) :
    suggestions ((resolve candidates).map (·.asCandidate)) = resolve candidates := by
  rw [suggestions, List.filterMap_map]
  refine (List.filterMap_congr fun d member => ?_).trans List.filterMap_some
  have fixed : Naming.normalize d.name [] = d.name := String.ofList_toList
  have named : d.asCandidate.canonicalName? = some d.name :=
    Naming.canonical?_eq_some_iff.mpr ⟨fixed, isServiceName_of_mem_resolve member⟩
  exact Candidate.toDependency?_eq_some_iff.mpr ⟨named, rfl⟩

/-- Candidates may be resolved in parts, and what was resolved once is resolved for good. -/
theorem resolve_in_parts (xs ys : List Candidate) :
    resolve (xs ++ ys) =
      resolve ((resolve xs).map (·.asCandidate) ++ (resolve ys).map (·.asCandidate)) ∧
    resolve ((resolve xs).map (·.asCandidate)) = resolve xs := by
  constructor
  · refine eq_of_leader?_eq (resolve_increasing _) (resolve_increasing _) fun name => ?_
    calc leader? name (resolve (xs ++ ys))
        = (leader? name (resolve xs)).merge Dependency.orMoreCertain
            (leader? name (resolve ys)) := by
          rw [leader?_resolve, suggestions_append, leader?_append, leader?_resolve, leader?_resolve]
      _ = leader? name (suggestions ((resolve xs).map (·.asCandidate) ++
            (resolve ys).map (·.asCandidate))) := by
          rw [suggestions_append, leader?_append, suggestions_resolve, suggestions_resolve]
      _ = leader? name (resolve ((resolve xs).map (·.asCandidate) ++
            (resolve ys).map (·.asCandidate))) := leader?_resolve.symm
  · refine eq_of_leader?_eq (resolve_increasing _) (resolve_increasing _) fun name => ?_
    rw [leader?_resolve, suggestions_resolve]

end Downstream
