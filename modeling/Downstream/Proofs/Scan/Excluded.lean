import Downstream.Proofs.Exclusion
import Downstream.Proofs.Scan.Upload
import Downstream.Proofs.Scan.Walk

/-!
Files below an excluded directory. The walk never enters the directory, so it speaks of none of
them. An upload only ever asks about the file: it leaves the file out if a rule excludes the whole
path as that of a file, which a bare rule does and a rule for directories never does.
-/
namespace Downstream

inductive Upload.LeftOut (config : ScanConfig) (directory : List String) (name : String) :
    Prop where
  | backslash {part : String} : part ∈ directory ++ [name] → '\\' ∈ part.toList →
      LeftOut config directory name
  | ignored {ancestor : String} : ancestor ∈ directory →
      ancestor ∈ ScanConfig.ignoredDirectories → LeftOut config directory name
  | ending : config.allows name = false → LeftOut config directory name
  | excluded : excluded config.rules (Text.join "/" (directory ++ [name])) false = true →
      LeftOut config directory name

variable {config : ScanConfig} {directory above : List String} {name : String}

theorem Upload.leftOut_iff (named : ∀ part ∈ directory ++ [name], IsFileName part) :
    (∀ records scan, materialize config records = .ok scan →
      Text.join "/" (directory ++ [name]) ∉ scan.reported) ↔ LeftOut config directory name := by
  constructor
  · intro unreported
    by_contra kept
    have plain : Plain (directory ++ [name]) :=
      ⟨by simp, named, fun part inPath inPart => kept (.backslash inPath inPart)⟩
    have allowed : config.allows name = true :=
      Bool.not_eq_false _ |>.mp fun refused => kept (.ending refused)
    have notExcluded :
        Downstream.excluded config.rules (Text.join "/" (directory ++ [name])) false = false :=
      Bool.not_eq_true _ |>.mp fun hit => kept (.excluded hit)
    have ended := materialize_ofTexts config [(Text.join "/" (directory ++ [name]), "")]
    refine unreported _ _ ended ((mem_scan_reported_iff named).mpr ⟨?_, ?_, ?_⟩)
    · exact ⟨_, List.mem_singleton_self _, normalPath_join plain⟩
    · exact fun ancestor inDirectory hit => kept (.ignored inDirectory hit)
    · rw [ScanConfig.admits, allowed, notExcluded]
      rfl
  · intro left records scan ended reported
    obtain ⟨⟨record, _, normal⟩, notIgnored, admitted⟩ :=
      (mem_materialize_reported_iff named ended).mp reported
    rw [ScanConfig.admits, Bool.and_eq_true, Bool.not_eq_true'] at admitted
    cases left with
    | backslash inPath inPart =>
      exact noBackslash_normalPath record.1 (normal ▸ Text.mem_join_of_mem inPath inPart)
    | ignored inDirectory hit => exact notIgnored _ inDirectory hit
    | ending refused => simp [refused] at admitted
    | excluded hit => simp [hit] at admitted

theorem not_reported_below_excluded {fs : FileSystem} {root : List String} {tree : Listing}
    (there : fs.root.at? root = some (.folder tree)) (wellFormed : tree.IsTree)
    (named : ∀ part ∈ directory ++ [name], IsFileName part)
    (prefixed : above <+: directory) (nonempty : above ≠ [])
    (excludes : excluded config.rules (Text.join "/" above) true = true) :
    Text.join "/" (directory ++ [name]) ∉ (fs.scan config root).reported := by
  intro reported
  obtain ⟨walked, file, entry, same, found, noFolder, reports⟩ :=
    (FileSystem.mem_reported_iff there wellFormed).mp reported
  have listed := (Listing.mem_leaves_iff wellFormed).mpr ⟨found, noFolder⟩
  have namedWalked := Listing.isFileName_of_mem_leaves wellFormed listed
  have parts := congrArg (Text.splitAt '/') same
  rw [Text.splitAt_join (by simp) fun part member => (named part member).noSlash,
    Text.splitAt_join (by simp) fun part member => (namedWalked part member).noSlash] at parts
  obtain ⟨rfl, _⟩ := List.append_inj' parts rfl
  rw [reports.notExcludedAbove above prefixed nonempty] at excludes
  exact Bool.noConfusion excludes

/-- An excluded directory hides the files below it from every walk. From uploads it hides only those
that are left out for their own sake: a bare rule that excludes the directory sees to that, while
rules for directories leave no upload out. -/
theorem excluded_directory_hides_files (config : ScanConfig) (directory above : List String)
    (name : String) (named : ∀ part ∈ directory ++ [name], IsFileName part)
    (prefixed : above <+: directory) (nonempty : above ≠ [])
    (excludes : excluded config.rules (Text.join "/" above) true = true) :
    (∀ (fs : FileSystem) root tree, fs.root.at? root = some (.folder tree) → tree.IsTree →
      Text.join "/" (directory ++ [name]) ∉ (fs.scan config root).reported) ∧
    ((∀ records scan, materialize config records = .ok scan →
        Text.join "/" (directory ++ [name]) ∉ scan.reported) ↔
      Upload.LeftOut config directory name) ∧
    (∀ rule ∈ config.rules, rule.IsBare → rule.excludes (Text.join "/" above) true = true →
      Upload.LeftOut config directory name) ∧
    ((∀ rule ∈ config.rules, rule.directoryOnly = true) →
      excluded config.rules (Text.join "/" (directory ++ [name])) false = false) := by
  refine ⟨fun fs root tree there wellFormed => ?_, Upload.leftOut_iff named, ?_, ?_⟩
  · exact not_reported_below_excluded there wellFormed named prefixed nonempty excludes
  · intro rule inRules bare matched
    have noSlash := fun part member => (named part member).noSlash
    have below := prefixed.trans (List.prefix_append directory [name])
    have hit := ExcludeRule.excludes_below bare below nonempty noSlash matched
    exact .excluded (List.any_eq_true.mpr ⟨rule, inRules, hit⟩)
  · intro directories
    refine List.any_eq_false.mpr fun rule inRules => ?_
    simp [ExcludeRule.excludes_no_file (directories rule inRules)]

def generatedOnly : ScanConfig := { excludePaths := ["generated/"] }

/-- The premises are met there: the walk leaves the file below the directory out, and no rule keeps
it out of an upload. -/
theorem generated_file_hidden_from_walk :
    let tree : Listing := .folder "generated" (.file "a.py" "x = 1\n".toUTF8 .empty) .empty
    "generated/a.py" ∉ (FileSystem.scan ⟨tree, [], "/", fun _ => 4096⟩ generatedOnly []).reported ∧
      excluded generatedOnly.rules "generated/a.py" false = false := by
  intro tree
  obtain ⟨walk, _, _, upload⟩ := excluded_directory_hides_files generatedOnly ["generated"]
    ["generated"] "a.py" (by decide) List.prefix_rfl (by simp) (by decide +kernel)
  exact ⟨walk ⟨tree, [], "/", fun _ => 4096⟩ [] tree rfl (by decide), upload (by decide +kernel)⟩

/-- The file is excluded with its directory, and an upload of it is kept all the same. -/
theorem generated_file_kept_by_upload :
    let texts := [("generated/a.py", "x = 1\n"), ("b.py", "y = 2\n")]
    excluded generatedOnly.rules "generated" true = true ∧
      ∃ scan, materialize generatedOnly (Upload.ofTexts texts) = .ok scan ∧
        scan.files.map (·.path) = ["generated/a.py", "b.py"] := by
  intro texts
  exact ⟨by decide +kernel, _, materialize_ofTexts generatedOnly texts, by decide +kernel⟩

end Downstream
