import Downstream.Proofs.Text.Fields
import Downstream.Scan.Basic

/-!
Bare exclude rules: those without a slash. They ask whether some component of a path looks like the
pattern, so they exclude with a directory everything below it, and it does not matter what the path
leads to.
-/
namespace Downstream

structure ExcludeRule.IsBare (rule : ExcludeRule) : Prop where
  anyKind : rule.directoryOnly = false
  notAnchored : rule.anchored = false
  noSlash : rule.hasSlash = false

namespace ExcludeRule

theorem isBare_of_ofText? {line : String} {rule : ExcludeRule} (plain : '/' ∉ line.toList)
    (read : ofText? line = some rule) : rule.IsBare := by
  have plainTrimmed : '/' ∉ Text.trim line.toList := mt Text.mem_of_mem_dropWhile_ends plain
  simp only [ofText?] at read
  generalize Text.trim line.toList = pattern at plainTrimmed read
  have notLast : pattern.getLast? ≠ some '/' := mt List.mem_of_getLast? plainTrimmed
  have notFirst : pattern.head? ≠ some '/' := mt List.mem_of_head? plainTrimmed
  cases pattern with
  | nil => simp at read
  | cons first rest =>
    simp only [notLast, notFirst, decide_false, if_false] at read
    obtain rfl := Option.some.inj read
    exact ⟨rfl, rfl, by simpa using plainTrimmed⟩

theorem excludes_bare {rule : ExcludeRule} (bare : rule.IsBare) {parts : List String}
    (nonempty : parts ≠ []) (plain : ∀ part ∈ parts, '/' ∉ part.toList) (isDirectory : Bool) :
    rule.excludes (Text.join "/" parts) isDirectory = true ↔
      rule.pattern.toList ≠ [] ∧
      ∃ part ∈ parts, Glob.covers rule.pattern.toList part.toList = true := by
  have fields : Text.fields '/' (Text.join "/" parts).toList = parts.map String.toList :=
    Text.fields_join rfl nonempty plain
  simp only [excludes, bare.anyKind, bare.notAnchored, bare.noSlash, fields]
  by_cases blank : rule.pattern.toList = [] <;> simp [blank]

theorem excludes_below {rule : ExcludeRule} (bare : rule.IsBare) {above path : List String}
    (prefixed : above <+: path) (nonempty : above ≠ []) (plain : ∀ part ∈ path, '/' ∉ part.toList)
    (excludes : rule.excludes (Text.join "/" above) true = true) :
    rule.excludes (Text.join "/" path) false = true := by
  have plainAbove : ∀ part ∈ above, '/' ∉ part.toList :=
    fun part member => plain part (prefixed.subset member)
  obtain ⟨notBlank, part, inAbove, covers⟩ := (excludes_bare bare nonempty plainAbove true).mp excludes
  have inPath := prefixed.subset inAbove
  exact (excludes_bare bare (List.ne_nil_of_mem inPath) plain false).mpr
    ⟨notBlank, part, inPath, covers⟩

/-- A rule for directories excludes no file, not even one below a directory that it excludes. -/
theorem excludes_no_file {rule : ExcludeRule} (directories : rule.directoryOnly = true)
    (path : String) : rule.excludes path false = false := by
  simp [excludes, directories]

end ExcludeRule

theorem excluded_below {rules : List ExcludeRule} (bare : ∀ rule ∈ rules, rule.IsBare)
    {above path : List String} (prefixed : above <+: path) (nonempty : above ≠ [])
    (plain : ∀ part ∈ path, '/' ∉ part.toList)
    (excludes : excluded rules (Text.join "/" above) true = true) :
    excluded rules (Text.join "/" path) false = true := by
  obtain ⟨rule, inRules, matched⟩ := List.any_eq_true.mp excludes
  exact List.any_eq_true.mpr
    ⟨rule, inRules, ExcludeRule.excludes_below (bare rule inRules) prefixed nonempty plain matched⟩

theorem rules_bare {config : ScanConfig} (plain : ∀ line ∈ config.excludePaths, '/' ∉ line.toList) :
    ∀ rule ∈ config.rules, rule.IsBare := by
  intro rule member
  obtain ⟨line, inLines, read⟩ := List.mem_filterMap.mp member
  exact ExcludeRule.isBare_of_ofText? (plain line inLines) read

end Downstream
