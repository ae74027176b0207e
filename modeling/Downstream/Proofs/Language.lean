import Downstream.SourceFile
import Mathlib.Data.List.Basic

/-!
The language that leads a list of files. One more tag takes the lead only with a higher count, so
after any number of tags the leader has the highest count among them, and of several with that count
it is the one that occurs first: a tie goes to the first occurrence, not to the tag that reaches the
count first. Files in the leading language only add to its lead.
-/
namespace Downstream.Language

variable {key : Language → Nat} {seen tags more : List Language} {best tag : Language}

structure Leads (key : Language → Nat) (seen : List Language) (best : Language) : Prop where
  occurs : best ∈ seen
  highest : ∀ other ∈ seen, key other ≤ key best
  first : ∀ other ∈ seen, other ≠ best → key other = key best → seen.idxOf best < seen.idxOf other

def challenge (key : Language → Nat) (best tag : Language) : Language :=
  if key best < key tag then tag else best

theorem primary_cons (tag : Language) (tags : List Language) :
    primary (tag :: tags) = tags.foldl (challenge (tag :: tags).count) tag := by
  rw [primary, List.head?_cons, Option.getD_some, List.foldl_cons, if_neg (Nat.lt_irrefl _)]
  rfl

namespace Leads

theorem singleton (key : Language → Nat) (tag : Language) : Leads key [tag] tag := by
  constructor
  · exact List.mem_singleton_self tag
  · intro other member
    obtain rfl := List.mem_singleton.mp member
    exact Nat.le_refl _
  · intro other member different
    exact absurd (List.mem_singleton.mp member) different

theorem overtaken (leads : Leads key seen best) (higher : key best < key tag) :
    Leads key (seen ++ [tag]) tag := by
  have below : ∀ other ∈ seen ++ [tag], other ≠ tag → key other < key tag := by
    intro other member different
    have earlier : other ∈ seen := by simpa [different] using member
    exact Nat.lt_of_le_of_lt (leads.highest other earlier) higher
  constructor
  · exact List.mem_append_right _ (List.mem_singleton_self tag)
  · intro other member
    by_cases same : other = tag
    · exact Nat.le_of_eq (congrArg key same)
    · exact Nat.le_of_lt (below other member same)
  · intro other member different tie
    have lower := below other member different
    omega

/-- Any other tag leaves the lead as it is, since a tag that ties occurs behind the leader. -/
theorem defended (leads : Leads key seen best) (noHigher : key tag ≤ key best) :
    Leads key (seen ++ [tag]) best := by
  constructor
  · exact List.mem_append_left _ leads.occurs
  · intro other member
    rcases List.mem_append.mp member with earlier | last
    · exact leads.highest other earlier
    · rwa [List.mem_singleton.mp last]
  · intro other member different tie
    rw [List.idxOf_append_of_mem leads.occurs]
    by_cases earlier : other ∈ seen
    · rw [List.idxOf_append_of_mem earlier]
      exact leads.first other earlier different tie
    · rw [List.idxOf_append_of_notMem earlier]
      have inside := List.idxOf_lt_length_of_mem leads.occurs
      omega

theorem challenged (leads : Leads key seen best) (tag : Language) :
    Leads key (seen ++ [tag]) (challenge key best tag) := by
  unfold challenge
  split
  · next higher => exact leads.overtaken higher
  · next noHigher => exact leads.defended (Nat.le_of_not_lt noHigher)

theorem foldl_challenge (leads : Leads key seen best) (more : List Language) :
    Leads key (seen ++ more) (more.foldl (challenge key) best) := by
  induction more generalizing seen best with
  | nil => simpa using leads
  | cons tag more ih => simpa using ih (leads.challenged tag)

theorem unique {other : Language} (leads : Leads key seen best) (leads' : Leads key seen other) :
    best = other := by
  by_contra different
  have tie : key best = key other :=
    Nat.le_antisymm (leads'.highest best leads.occurs) (leads.highest other leads'.occurs)
  have before := leads.first other leads'.occurs (Ne.symm different) tie.symm
  have behind := leads'.first best leads.occurs different tie
  omega

theorem raised {key' : Language → Nat} (leads : Leads key seen best) (grown : key best ≤ key' best)
    (others : ∀ other ∈ seen, other ≠ best → key' other = key other) : Leads key' seen best := by
  constructor
  · exact leads.occurs
  · intro other member
    by_cases same : other = best
    · exact Nat.le_of_eq (congrArg key' same)
    · rw [others other member same]
      exact Nat.le_trans (leads.highest other member) grown
  · intro other member different tie
    have lower := leads.highest other member
    rw [others other member different] at tie
    exact leads.first other member different (by omega)

theorem repeated (leads : Leads key seen best) (again : ∀ tag ∈ more, tag ∈ seen) :
    Leads key (seen ++ more) best := by
  have earlier : ∀ other ∈ seen ++ more, other ∈ seen := by
    intro other member
    rcases List.mem_append.mp member with before | behind
    · exact before
    · exact again other behind
  constructor
  · exact List.mem_append_left _ leads.occurs
  · intro other member
    exact leads.highest other (earlier other member)
  · intro other member different tie
    rw [List.idxOf_append_of_mem leads.occurs, List.idxOf_append_of_mem (earlier other member)]
    exact leads.first other (earlier other member) different tie

end Leads

def IsPrimary (tags : List Language) (tag : Language) : Prop :=
  Leads tags.count tags tag

theorem isPrimary_primary (nonempty : tags ≠ []) : IsPrimary tags (primary tags) := by
  cases tags with
  | nil => exact absurd rfl nonempty
  | cons tag tags =>
    rw [primary_cons]
    exact (Leads.singleton _ tag).foldl_challenge tags

theorem primary_eq_iff (nonempty : tags ≠ []) : primary tags = tag ↔ IsPrimary tags tag := by
  constructor
  · rintro rfl
    exact isPrimary_primary nonempty
  · exact (isPrimary_primary nonempty).unique

theorem IsPrimary.append (isPrimary : IsPrimary tags tag) (same : ∀ other ∈ more, other = tag) :
    IsPrimary (tags ++ more) tag := by
  have grown : tags.count tag ≤ (tags ++ more).count tag :=
    (List.sublist_append_left tags more).count_le tag
  have others : ∀ other ∈ tags, other ≠ tag → (tags ++ more).count other = tags.count other := by
    intro other _ different
    have absent : other ∉ more := fun member => different (same other member)
    rw [List.count_append, List.count_eq_zero.mpr absent, Nat.add_zero]
  refine (Leads.raised isPrimary grown others).repeated ?_
  intro other member
  rw [same other member]
  exact isPrimary.occurs

/-- The primary language of some files is the most common one, and of several the one that occurs
first; more files in that language change nothing. -/
theorem primary_first_of_most_common (files : List SourceFile) (nonempty : files ≠ []) :
    (∀ tag, primary (files.map (·.language)) = tag ↔ IsPrimary (files.map (·.language)) tag) ∧
    ∀ more : List SourceFile,
      (∀ file ∈ more, file.language = primary (files.map (·.language))) →
      primary ((files ++ more).map (·.language)) = primary (files.map (·.language)) := by
  have tagged : files.map (·.language) ≠ [] := List.map_eq_nil_iff.not.mpr nonempty
  refine ⟨fun tag => primary_eq_iff tagged, fun more same => ?_⟩
  have added : ∀ tag ∈ more.map (·.language), tag = primary (files.map (·.language)) := by
    intro tag member
    obtain ⟨file, inMore, rfl⟩ := List.mem_map.mp member
    exact same file inMore
  rw [List.map_append]
  exact (primary_eq_iff (List.append_ne_nil_of_left_ne_nil tagged _)).mpr
    ((isPrimary_primary tagged).append added)

def shopFile (name : String) : SourceFile :=
  ⟨name, "shop/" ++ name, "x = 1\n", ofFileName name, 6⟩

def mixedFiles : List SourceFile :=
  ["cart.py", "Order.java", "Stock.java", "price.py"].map shopFile

theorem mixed_files_are_python :
    mixedFiles ≠ [] ∧ IsPrimary (mixedFiles.map (·.language)) "python" ∧
      (∀ file ∈ [shopFile "tax.py"], file.language = primary (mixedFiles.map (·.language))) ∧
      primary ((mixedFiles ++ [shopFile "tax.py"]).map (·.language)) = "python" := by
  have nonempty : mixedFiles ≠ [] := by decide
  have python : primary (mixedFiles.map (·.language)) = "python" := by decide +kernel
  have added : ∀ file ∈ [shopFile "tax.py"],
      file.language = primary (mixedFiles.map (·.language)) := by decide +kernel
  obtain ⟨leading, stays⟩ := primary_first_of_most_common mixedFiles nonempty
  exact ⟨nonempty, (leading "python").mp python, added, (stays _ added).trans python⟩

end Downstream.Language
