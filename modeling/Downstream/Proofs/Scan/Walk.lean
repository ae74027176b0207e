import Downstream.Proofs.FileSystem.Order
import Downstream.Proofs.Scan.Basic
import Downstream.Proofs.Text.Fields
import Downstream.Scan.Walk

/-!
The walk of a directory tree speaks of exactly the files that no filter leaves out, of each one
once, and in the order of their paths component by component. Its verdicts are those on the leaves
of the sorted tree, which is why the order of the listings is of no account.
-/
namespace Downstream

/-- A walk speaks of a file: none of the directories above it is ignored or excluded, its name has
one of the endings looked at, and the file itself is not excluded. -/
structure ScanConfig.Reports (config : ScanConfig) (directory : List String) (name : String) :
    Prop where
  notIgnored : ∀ ancestor ∈ directory, ancestor ∉ ignoredDirectories
  notExcludedAbove : ∀ above, above <+: directory → above ≠ [] →
    excluded config.rules (Text.join "/" above) true = false
  allowed : config.allows name = true
  notExcluded : excluded config.rules (Text.join "/" (directory ++ [name])) false = false

namespace ScanConfig

def enters (config : ScanConfig) : (walked directory : List String) → Bool
  | _, [] => true
  | walked, name :: rest =>
    !config.prunes name (Text.join "/" (walked ++ [name])) && enters config (walked ++ [name]) rest

theorem forall_prefix_cons {α : Type} {P : List α → Prop} {first : α} {rest : List α} :
    (∀ above, above <+: first :: rest → above ≠ [] → P above) ↔
      P [first] ∧ ∀ above, above <+: rest → above ≠ [] → P (first :: above) := by
  constructor
  · intro all
    refine ⟨all [first] (by simp) (by simp), fun above before _ => ?_⟩
    exact all (first :: above) (List.cons_prefix_cons.mpr ⟨rfl, before⟩) (by simp)
  · rintro ⟨one, more⟩ above before nonempty
    obtain ⟨head, below, rfl⟩ := List.exists_cons_of_ne_nil nonempty
    obtain ⟨rfl, beforeRest⟩ := List.cons_prefix_cons.mp before
    cases below with
    | nil => exact one
    | cons next below => exact more _ beforeRest (by simp)

theorem enters_iff {config : ScanConfig} {walked directory : List String} :
    config.enters walked directory = true ↔
      (∀ ancestor ∈ directory, ancestor ∉ ignoredDirectories) ∧
      ∀ above, above <+: directory → above ≠ [] →
        excluded config.rules (Text.join "/" (walked ++ above)) true = false := by
  induction directory generalizing walked with
  | nil => simp [enters]
  | cons name rest ih =>
    rw [forall_prefix_cons, List.forall_mem_cons]
    simp only [enters, prunes, Bool.and_eq_true, ih, Bool.not_eq_true', Bool.or_eq_false_iff,
      List.append_assoc, List.singleton_append]
    have ignored : ignoredDirectories.contains name = false ↔ name ∉ ignoredDirectories := by simp
    rw [ignored]
    tauto

def reaches (config : ScanConfig) (walked path : List String) : Bool :=
  config.enters walked path.dropLast &&
    config.admits (path.getLast?.getD "") (Text.join "/" (walked ++ path))

theorem reaches_iff_reports {config : ScanConfig} {directory : List String} {name : String} :
    config.reaches [] (directory ++ [name]) = true ↔ config.Reports directory name := by
  simp only [reaches, admits, List.dropLast_concat, List.getLast?_concat, Option.getD_some,
    List.nil_append, Bool.and_eq_true, enters_iff, Bool.not_eq_true']
  constructor
  · rintro ⟨⟨notIgnored, notExcludedAbove⟩, allowed, notExcluded⟩
    exact ⟨notIgnored, notExcludedAbove, allowed, notExcluded⟩
  · rintro ⟨notIgnored, notExcludedAbove, allowed, notExcluded⟩
    exact ⟨⟨notIgnored, notExcludedAbove⟩, allowed, notExcluded⟩

end ScanConfig

namespace Walk

variable {config : ScanConfig} {follow : String → Except FileProblem Target}

theorem childPath_join {directory : List String} (named : ∀ part ∈ directory, part ≠ "")
    (name : String) :
    childPath (Text.join "/" directory) name = Text.join "/" (directory ++ [name]) := by
  cases directory with
  | nil => simp [childPath, Text.join]
  | cons first rest =>
    have nonempty : Text.join "/" (first :: rest) ≠ "" := Text.join_ne_empty (by simp) named
    rw [childPath, if_neg (by simpa using nonempty), Text.join_concat (by simp)]

/-- What a leaf leads to: a file to itself, a link to where it leads. A folder is no leaf. -/
def behind (follow : String → Except FileProblem Target) (path : String) :
    Entry → Except FileProblem Target
  | .file bytes => .ok (.file bytes)
  | .link _ => follow path
  | .folder _ => .error .isADirectory

def verdictOn? (config : ScanConfig) (follow : String → Except FileProblem Target)
    (walked : List String) (leaf : List String × Entry) : Option Verdict :=
  let path := Text.join "/" (walked ++ leaf.1)
  if config.reaches walked leaf.1 then
    some (judgeLink config (leaf.1.getLast?.getD "") path (behind follow path leaf.2))
  else none

theorem verdictOn?_singleton (walked : List String) (name : String) (entry : Entry) :
    verdictOn? config follow walked ([name], entry) =
      if config.admits name (Text.join "/" (walked ++ [name])) then
        some (judgeLink config name (Text.join "/" (walked ++ [name]))
          (behind follow (Text.join "/" (walked ++ [name])) entry))
      else none := by
  simp [verdictOn?, ScanConfig.reaches, ScanConfig.enters]

theorem verdictOn?_cons (walked : List String) (name : String) {path : List String}
    (below : path ≠ []) (entry : Entry) :
    verdictOn? config follow walked (name :: path, entry) =
      if config.prunes name (Text.join "/" (walked ++ [name])) then none
      else verdictOn? config follow (walked ++ [name]) (path, entry) := by
  obtain ⟨next, rest, rfl⟩ := List.exists_cons_of_ne_nil below
  cases pruned : config.prunes name (Text.join "/" (walked ++ [name])) <;>
    simp [verdictOn?, ScanConfig.reaches, ScanConfig.enters, pruned]

/-- What is asked of a folder is what every leaf in it would be asked first. -/
theorem filterMap_leafIn (walked : List String) (name : String) (inside : Listing) :
    (inside.leaves.map (leafIn name)).filterMap (verdictOn? config follow walked) =
      if config.prunes name (Text.join "/" (walked ++ [name])) then []
      else inside.leaves.filterMap (verdictOn? config follow (walked ++ [name])) := by
  have below : ∀ leaf ∈ inside.leaves, (verdictOn? config follow walked ∘ leafIn name) leaf =
      if config.prunes name (Text.join "/" (walked ++ [name])) then none
      else verdictOn? config follow (walked ++ [name]) leaf := by
    intro leaf member
    obtain ⟨_, _, path, _⟩ := Listing.head_mem_names member
    exact verdictOn?_cons walked name (by simp [path]) leaf.2
  rw [List.filterMap_map, List.filterMap_congr below]
  cases config.prunes name (Text.join "/" (walked ++ [name])) <;> simp

theorem verdicts_eq {walked : List String} (named : ∀ part ∈ walked, part ≠ "")
    {listing : Listing} (tree : listing.IsTree) :
    verdicts config follow (Text.join "/" walked) listing =
      listing.leaves.filterMap (verdictOn? config follow walked) := by
  induction listing generalizing walked with
  | empty => rfl
  | file name bytes rest ih =>
    rw [verdicts, Listing.leaves, List.filterMap_cons, verdictOn?_singleton, childPath_join named,
      ih named tree.2.2]
    cases config.admits name (Text.join "/" (walked ++ [name])) <;> rfl
  | link name target rest ih =>
    rw [verdicts, Listing.leaves, List.filterMap_cons, verdictOn?_singleton, childPath_join named,
      ih named tree.2.2]
    cases config.admits name (Text.join "/" (walked ++ [name])) <;> rfl
  | folder name inside rest within later =>
    obtain ⟨⟨nonempty, _⟩, _, treeInside, treeRest⟩ := tree
    have namedInside : ∀ part ∈ walked ++ [name], part ≠ "" := by
      simp only [List.mem_append, List.mem_singleton]
      rintro part (above | rfl)
      · exact named part above
      · exact nonempty
    rw [verdicts, Listing.leaves, List.filterMap_append, filterMap_leafIn, later named treeRest,
      childPath_join named, within namedInside treeInside]
    cases config.prunes name (Text.join "/" (walked ++ [name])) <;> simp

theorem judgeLink_path (name path : String) (destination : Except FileProblem Target) :
    (judgeLink config name path destination).path = path := by
  unfold judgeLink
  split
  · exact ScanConfig.judge_path _ _ _ _ _
  · repeat' split
    all_goals rfl
  · rfl

theorem verdict_paths (leaves : List (List String × Entry)) :
    (leaves.filterMap (verdictOn? config follow [])).map (·.path) =
      (leaves.filter fun leaf => config.reaches [] leaf.1).map
        fun leaf => Text.join "/" leaf.1 := by
  induction leaves with
  | nil => rfl
  | cons leaf leaves ih =>
    rw [List.filterMap_cons, List.filter_cons]
    cases reached : config.reaches [] leaf.1 with
    | false => simpa [verdictOn?, reached] using ih
    | true => simpa [verdictOn?, reached, judgeLink_path] using ih

theorem verdict_paths_increase (config : ScanConfig)
    (follow : String → Except FileProblem Target) {tree : Listing} (wellFormed : tree.IsTree) :
    ComponentsIncrease
      ((tree.sorted.leaves.filterMap (verdictOn? config follow [])).map (·.path)) := by
  have apart : ∀ leaf ∈ tree.sorted.leaves, Text.splitAt '/' (Text.join "/" leaf.1) = leaf.1 := by
    intro leaf member
    obtain ⟨_, _, path, _⟩ := Listing.head_mem_names member
    have named := Listing.isFileName_of_mem_leaves (Listing.sorted_isTree wellFormed) member
    exact Text.splitAt_join (by simp [path]) fun part inPath => (named part inPath).noSlash
  rw [verdict_paths, ComponentsIncrease, List.pairwise_map]
  refine List.Pairwise.sublist List.filter_sublist ?_
  refine (Listing.leaves_increasing (Listing.sorted_isSorted wellFormed)).imp_of_mem ?_
  intro leaf next member memberNext less
  rwa [apart leaf member, apart next memberNext]

end Walk

namespace FileSystem

variable {fs : FileSystem} {config : ScanConfig} {root : List String} {tree : Listing}

theorem scan_eq (config : ScanConfig) (there : fs.root.at? root = some (.folder tree))
    (wellFormed : tree.IsTree) :
    fs.scan config root = .ofVerdicts (some (PathText.absolute root).toString)
      (tree.sorted.leaves.filterMap (Walk.verdictOn? config (fs.followBelow root) [])) := by
  have walked : Walk.verdicts config (fs.followBelow root) (Text.join "/" []) tree.sorted =
      tree.sorted.leaves.filterMap (Walk.verdictOn? config (fs.followBelow root) []) :=
    Walk.verdicts_eq (by simp) (Listing.sorted_isTree wellFormed)
  rw [scan, there, ← walked]
  rfl

theorem mem_reported_iff (there : fs.root.at? root = some (.folder tree)) (wellFormed : tree.IsTree)
    {path : String} : path ∈ (fs.scan config root).reported ↔ ∃ directory name entry,
      path = Text.join "/" (directory ++ [name]) ∧
      tree.at? (directory ++ [name]) = some entry ∧ entry.isFolder = false ∧
      config.Reports directory name := by
  rw [scan_eq config there wellFormed, ScanResult.reported_perm.mem_iff, Walk.verdict_paths,
    List.mem_map]
  constructor
  · rintro ⟨⟨components, entry⟩, member, rfl⟩
    obtain ⟨listed, reached⟩ := List.mem_filter.mp member
    obtain ⟨found, noFolder⟩ := (Listing.mem_sorted_leaves_iff wellFormed).mp listed
    obtain ⟨_, _, path, _⟩ := Listing.head_mem_names listed
    obtain ⟨directory, name, rfl⟩ : ∃ directory name, components = directory ++ [name] :=
      ⟨_, _, (List.dropLast_concat_getLast (by simp [path])).symm⟩
    exact ⟨directory, name, entry, rfl, found, noFolder,
      ScanConfig.reaches_iff_reports.mp reached⟩
  · rintro ⟨directory, name, entry, rfl, found, noFolder, reports⟩
    have listed := (Listing.mem_sorted_leaves_iff wellFormed).mpr ⟨found, noFolder⟩
    have reached := ScanConfig.reaches_iff_reports.mpr reports
    exact ⟨_, List.mem_filter.mpr ⟨listed, reached⟩, rfl⟩

theorem target_sortedEntry (found : List String × Entry) :
    fs.target (sortedEntry found) = fs.target found := by
  obtain ⟨real, entry⟩ := found
  cases entry <;> rfl

theorem followBelow_reordered {listing : Listing} (wellFormed : fs.root.IsTree)
    (reordered : fs.root.Reordered listing) (root : List String) :
    { fs with root := listing }.followBelow root = fs.followBelow root := by
  have sorted (found : Except FileProblem (List String × Entry)) :
      fs.target <$> found = fs.target <$> found.map sortedEntry := by
    cases found with
    | error problem => rfl
    | ok found => exact congrArg Except.ok (target_sortedEntry found).symm
  funext path
  rw [followBelow, followBelow, sorted (fs.lookup _), ← lookup_reordered wellFormed reordered,
    ← sorted]
  rfl

theorem scan_reordered {listing : Listing}
    (wellFormed : fs.root.IsTree) (reordered : fs.root.Reordered listing) :
    { fs with root := listing }.scan config root = fs.scan config root := by
  have atRoot : (listing.at? root).map Entry.sorted = (fs.root.at? root).map Entry.sorted := by
    rw [← Listing.at?_sorted wellFormed, ← Listing.at?_sorted (reordered.isTree wellFormed),
      reordered.sorted_eq wellFormed]
  simp only [scan, Walk.ofListing, followBelow_reordered wellFormed reordered]
  revert atRoot
  cases listing.at? root with
  | none => cases fs.root.at? root <;> simp
  | some entry =>
    cases fs.root.at? root with
    | none => simp
    | some other => cases entry <;> cases other <;> simp +contextual [Entry.sorted]

end FileSystem

/-- A scan speaks of every file that no filter leaves out and of no other, of each one once, in the
order of their paths, and whatever order the directories list their entries in. -/
theorem scan_is_exact {fs : FileSystem} {config : ScanConfig} {root : List String} {tree : Listing}
    (there : fs.root.at? root = some (.folder tree)) (wellFormed : fs.root.IsTree) :
    (∀ path, path ∈ (fs.scan config root).reported ↔ ∃ directory name entry,
      path = Text.join "/" (directory ++ [name]) ∧
      tree.at? (directory ++ [name]) = some entry ∧ entry.isFolder = false ∧
      config.Reports directory name) ∧
    (fs.scan config root).reported.Nodup ∧
    ComponentsIncrease ((fs.scan config root).files.map (·.path)) ∧
    ComponentsIncrease ((fs.scan config root).skipped.map (·.path)) ∧
    ∀ listing, fs.root.Reordered listing →
      { fs with root := listing }.scan config root = fs.scan config root := by
  have treeWithin : tree.IsTree := Listing.isTree_of_at? wellFormed there
  have scanned := FileSystem.scan_eq config there treeWithin
  have increase := Walk.verdict_paths_increase config (fs.followBelow root) treeWithin
  refine ⟨fun path => FileSystem.mem_reported_iff there treeWithin, ?_, ?_, ?_,
    fun listing reordered => FileSystem.scan_reordered wellFormed reordered⟩
  · rw [scanned, ScanResult.reported_perm.nodup_iff]
    refine increase.imp fun less same => ?_
    exact lt_irrefl _ (same ▸ less)
  · rw [scanned]
    exact ScanResult.files_increase increase
  · rw [scanned]
    exact ScanResult.skipped_increase increase

/-- A directory listed out of order, with a directory that is ignored, one that is excluded, and a
link that leads back to itself. -/
def mixedListing : Listing :=
  .file "a-b.py" "x = 1".toUTF8 <|
  .link "loop.py" "loop.py" <|
  .folder "a" (.file "x.py" "y = 2".toUTF8 (.file "empty.py" .empty .empty)) <|
  .folder "node_modules" (.file "lib.py" "z = 3".toUTF8 .empty) <|
  .folder "old" (.folder "deep" (.file "main.py" "z = 4".toUTF8 .empty) .empty) .empty

/-- The premises are met there: the file in a folder comes before the one whose name goes on with a
character smaller than the slash. -/
theorem scan_is_exact_out_of_order :
    let fs : FileSystem := ⟨.folder "repo" mixedListing .empty, [], "/", fun _ => 4096⟩
    let config : ScanConfig := { excludePaths := ["old/"] }
    (fs.scan config ["repo"]).reported = ["a/x.py", "a-b.py", "a/empty.py", "loop.py"] ∧
    (∀ path, path ∈ (fs.scan config ["repo"]).reported ↔ ∃ directory name entry,
      path = Text.join "/" (directory ++ [name]) ∧
      mixedListing.at? (directory ++ [name]) = some entry ∧ entry.isFolder = false ∧
      config.Reports directory name) ∧
    (fs.scan config ["repo"]).reported.Nodup ∧
    ComponentsIncrease ((fs.scan config ["repo"]).files.map (·.path)) ∧
    ComponentsIncrease ((fs.scan config ["repo"]).skipped.map (·.path)) ∧
    ∀ listing, fs.root.Reordered listing →
      { fs with root := listing }.scan config ["repo"] = fs.scan config ["repo"] := by
  intro fs config
  have there : fs.root.at? ["repo"] = some (.folder mixedListing) := rfl
  have wellFormed : fs.root.IsTree := by decide +kernel
  have reported : (fs.scan config ["repo"]).reported =
      ["a/x.py", "a-b.py", "a/empty.py", "loop.py"] := by decide +kernel
  exact ⟨reported, scan_is_exact there wellFormed⟩

end Downstream
