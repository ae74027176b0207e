import Downstream.Proofs.Exclusion
import Downstream.Proofs.Glob

/-!
Exclude rules that are compared with whole paths. Each component of such a pattern covers one or more
components of the path, in order, as a star or a question mark covers slashes like other characters.
The pattern goes by single components just where the path has no more of them than the pattern.
-/
namespace Downstream

open Text

def ExcludeRule.CoversEach (rule : ExcludeRule) (spans : List (List Char)) : Prop :=
  List.Forall₂ (fun part span => Glob.covers part span = true) (fields '/' rule.pattern.toList) spans

/-- The rule excludes files as well as directories, compares its pattern with whole paths, and has
no bracket expression. -/
structure ExcludeRule.IsForPaths (rule : ExcludeRule) : Prop where
  anyKind : rule.directoryOnly = false
  whole : rule.anchored = true ∨ rule.hasSlash = true
  noBracket : '[' ∉ rule.pattern.toList

namespace ExcludeRule

variable {line : String} {rule : ExcludeRule}

theorem pattern_ne_nil_of_ofText? (read : ofText? line = some rule)
    (anyKind : rule.directoryOnly = false) : rule.pattern.toList ≠ [] := by
  simp only [ofText?] at read
  generalize Text.trim line.toList = pattern at read
  cases pattern with
  | nil => simp at read
  | cons first rest =>
    have notLast : (first :: rest).getLast? ≠ some '/' := by
      rw [← Option.some.inj read] at anyKind
      exact of_decide_eq_false anyKind
    simp only [notLast, decide_false, if_false, List.head?_cons,
      Option.some.injEq] at read
    subst read
    by_cases anchored : first = '/'
    · -- A slash alone is also the last character, so more stands behind it.
      cases rest with
      | nil => simp [anchored] at notLast
      | cons next rest => simp [anchored]
    · simp [anchored]

theorem excludes_iff_covers (isForPaths : rule.IsForPaths) (nonempty : rule.pattern.toList ≠ [])
    (path : String) (isDirectory : Bool) :
    rule.excludes path isDirectory = true ↔
      Glob.covers rule.pattern.toList path.toList = true := by
  have whole : (rule.anchored || rule.hasSlash) = true := by simpa using isForPaths.whole
  simp only [excludes, isForPaths.anyKind, whole]
  simp [nonempty]

theorem excludes_iff_spans (isForPaths : rule.IsForPaths) (nonempty : rule.pattern.toList ≠ [])
    (path : String) (isDirectory : Bool) :
    rule.excludes path isDirectory = true ↔
      ∃ spans, rule.CoversEach spans ∧ path.toList = ['/'].intercalate spans := by
  rw [excludes_iff_covers isForPaths nonempty, ← intercalate_fields '/' rule.pattern.toList]
  refine Glob.covers_intercalate_iff (by decide) (fields_ne_nil _ _) ?_
  rw [intercalate_fields]
  exact isForPaths.noBracket

structure SpansComponents (rule : ExcludeRule) (path : String) (isDirectory : Bool) : Prop where
  spans : rule.excludes path isDirectory = true ↔
    ∃ spans, rule.CoversEach spans ∧ path.toList = ['/'].intercalate spans
  componentwise : rule.CoversEach (fields '/' path.toList) ↔
    rule.excludes path isDirectory = true ∧
      (fields '/' path.toList).length = (fields '/' rule.pattern.toList).length
  atLeast : rule.excludes path isDirectory = true →
    (fields '/' rule.pattern.toList).length ≤ (fields '/' path.toList).length
  literal : '*' ∉ rule.pattern.toList → '?' ∉ rule.pattern.toList →
    (rule.excludes path isDirectory = true ↔ path = rule.pattern)
  star : '*' ∈ rule.pattern.toList → rule.excludes path isDirectory = true →
    ∃ front behind, path.toList = front ++ behind ∧
      ∀ inserted, rule.excludes (String.ofList (front ++ inserted ++ behind)) isDirectory = true

theorem CoversEach.length_eq {spans : List (List Char)} (each : rule.CoversEach spans) :
    (fields '/' rule.pattern.toList).length = spans.length :=
  List.Forall₂.length_eq each

theorem CoversEach.ne_nil {spans : List (List Char)} (each : rule.CoversEach spans) :
    spans ≠ [] := by
  have positive := List.length_pos_iff.mpr (fields_ne_nil '/' rule.pattern.toList)
  rw [each.length_eq] at positive
  exact List.length_pos_iff.mp positive

theorem CoversEach.eq_fields {spans : List (List Char)} (each : rule.CoversEach spans)
    (same : (fields '/' (['/'].intercalate spans)).length = spans.length) :
    fields '/' (['/'].intercalate spans) = spans := by
  rw [length_fields_intercalate '/' each.ne_nil] at same
  have noSlash : '/' ∉ spans.flatten := List.count_eq_zero.mp (by omega)
  have plain : ∀ span ∈ spans, '/' ∉ span := fun span member inside =>
    noSlash (List.mem_flatten_of_mem member inside)
  rw [fields_eq_splitOn]
  exact List.splitOn_intercalate '/' plain each.ne_nil

/-- A rule for whole paths goes by components as far as the counts of components allow. A star in it
takes any text in, slashes too, and with them the paths further down. -/
theorem path_rule_spans_components (read : ofText? line = some rule) (isForPaths : rule.IsForPaths)
    (path : String) (isDirectory : Bool) : rule.SpansComponents path isDirectory := by
  have nonempty := pattern_ne_nil_of_ofText? read isForPaths.anyKind
  have spans := excludes_iff_spans isForPaths nonempty path isDirectory
  have covers := excludes_iff_covers isForPaths nonempty
  refine ⟨spans, ⟨fun each => ?_, fun ⟨excludes, same⟩ => ?_⟩, fun excludes => ?_, ?_, ?_⟩
  · exact ⟨spans.mpr ⟨_, each, (intercalate_fields '/' _).symm⟩, each.length_eq.symm⟩
  · obtain ⟨groups, each, path_eq⟩ := spans.mp excludes
    rw [path_eq] at same ⊢
    rwa [each.eq_fields (same.trans each.length_eq)]
  · obtain ⟨groups, each, path_eq⟩ := spans.mp excludes
    rw [path_eq, each.length_eq, length_fields_intercalate '/' each.ne_nil]
    exact Nat.le_add_right _ _
  · intro noStar noMark
    rw [covers, Glob.covers_literal_iff isForPaths.noBracket noStar noMark, String.toList_inj]
  · intro hasStar excludes
    obtain ⟨front, behind, split, inserts⟩ :=
      Glob.covers_insert isForPaths.noBracket hasStar ((covers path isDirectory).mp excludes)
    refine ⟨front, behind, split, fun inserted => (covers _ isDirectory).mpr ?_⟩
    rw [String.toList_ofList]
    exact inserts inserted

def sourcesRule : ExcludeRule := ⟨"src/*.py", false, false, true⟩

theorem isForPaths_sourcesRule : sourcesRule.IsForPaths :=
  ⟨rfl, Or.inr rfl, by decide⟩

theorem sources_rule_spans_components :
    ofText? " src/*.py" = some sourcesRule ∧ sourcesRule.IsForPaths ∧
      sourcesRule.CoversEach ["src".toList, "main.py".toList] ∧
      sourcesRule.SpansComponents "src/main.py" false := by
  have read : ofText? " src/*.py" = some sourcesRule := by decide +kernel
  have rules := path_rule_spans_components read isForPaths_sourcesRule "src/main.py" false
  have fields : fields '/' "src/main.py".toList = ["src".toList, "main.py".toList] := by
    decide +kernel
  exact ⟨read, isForPaths_sourcesRule, fields ▸ rules.componentwise.mpr (by decide +kernel), rules⟩

/-- A file one directory further down is excluded with them. -/
theorem star_excludes_deeper_file :
    ofText? "src/*.py" = some sourcesRule ∧ sourcesRule.IsForPaths ∧
      sourcesRule.excludes "src/api/client.py" false = true ∧
      (fields '/' "src/api/client.py".toList).length = 3 ∧
      (fields '/' sourcesRule.pattern.toList).length = 2 ∧
      ¬ sourcesRule.CoversEach (fields '/' "src/api/client.py".toList) :=
  ⟨by decide +kernel, isForPaths_sourcesRule, by decide +kernel, by decide +kernel,
    by decide +kernel, fun each => absurd each.length_eq (by decide +kernel)⟩

end ExcludeRule

end Downstream
