import Downstream.Proofs.Scan.Walk
import Downstream.Proofs.Text.Bytes
import Mathlib.Data.List.Sort

/-!
What a scan keeps, said without the walk: a file that no filter leaves out and that holds a text of
an allowed size. The list of files kept is determined by these files and their bytes, so two trees
that agree on them give the same list, whatever else they hold.
-/
namespace Downstream

namespace FileSystem

def HoldsBytes (fs : FileSystem) (root path : List String) (bytes : ByteArray) : Prop :=
  ∃ entry, fs.root.at? (root ++ path) = some entry ∧
    Walk.behind (fs.followBelow root) (Text.join "/" path) entry = .ok (.file bytes)

/-- A scan of a directory keeps the file of a name: no filter leaves it out, and it holds a text
that is neither empty nor too long. -/
structure Keeps (fs : FileSystem) (config : ScanConfig) (root directory : List String)
    (name : String) (bytes : ByteArray) : Prop where
  reported : config.Reports directory name
  found : fs.HoldsBytes root (directory ++ [name]) bytes
  nonempty : bytes.size ≠ 0
  withinLimit : (bytes.size : Int) ≤ config.maxFileSize
  isText : ∃ content : String, bytes = content.toUTF8 ∧ '\u0000' ∉ content.toList

end FileSystem

def SourceFile.recordOf (directory : List String) (name content : String) : SourceFile :=
  ⟨name, Text.join "/" (directory ++ [name]), content, Language.ofFileName name,
    content.toUTF8.size⟩

namespace Walk

variable {config : ScanConfig} {name path : String}

theorem judgeBytes_file? {bytes : ByteArray} {file : SourceFile} :
    (judgeBytes config name path bytes).file? = some file ↔
      bytes.size ≠ 0 ∧ (bytes.size : Int) ≤ config.maxFileSize ∧
      ∃ content, decode? bytes = some content ∧
        file = ⟨name, path, content, Language.ofEnding (ScanConfig.smallEnding name), bytes.size⟩ :=
  ScanConfig.judge_file?

theorem judgeLink_file? {destination : Except FileProblem Target} {file : SourceFile} :
    (judgeLink config name path destination).file? = some file ↔
      ∃ bytes, destination = .ok (.file bytes) ∧
        (judgeBytes config name path bytes).file? = some file := by
  unfold judgeLink
  split
  · simp
  · repeat' split
    all_goals simp [Verdict.file?]
  · simp [Verdict.file?]

theorem verdictOn?_file? {follow : String → Except FileProblem Target} {directory : List String}
    {entry : Entry} {file : SourceFile} :
    (verdictOn? config follow [] (directory ++ [name], entry)).bind (·.file?) = some file ↔
      config.Reports directory name ∧ ∃ bytes,
        behind follow (Text.join "/" (directory ++ [name])) entry = .ok (.file bytes) ∧
        bytes.size ≠ 0 ∧ (bytes.size : Int) ≤ config.maxFileSize ∧
        ∃ content, decode? bytes = some content ∧
          file = ⟨name, Text.join "/" (directory ++ [name]), content, Language.ofFileName name,
            bytes.size⟩ := by
  simp only [verdictOn?, List.nil_append, List.getLast?_concat, Option.getD_some]
  cases reached : config.reaches [] (directory ++ [name]) with
  | false => simp [← ScanConfig.reaches_iff_reports, reached]
  | true =>
    have reports := ScanConfig.reaches_iff_reports.mp reached
    simp only [if_true, Option.bind_some, judgeLink_file?, judgeBytes_file?, reports, true_and,
      ScanConfig.ofEnding_smallEnding reports.allowed]

end Walk

namespace FileSystem

variable {fs : FileSystem} {config : ScanConfig} {root : List String}

theorem exists_scanned (config : ScanConfig) (root : List String) (wellFormed : fs.root.IsTree) :
    ∃ tree : Listing, tree.IsTree ∧
      (∀ path, path ≠ [] → fs.root.at? (root ++ path) = tree.at? path) ∧
      fs.scan config root = .ofVerdicts (some (PathText.absolute root).toString)
        (tree.sorted.leaves.filterMap (Walk.verdictOn? config (fs.followBelow root) [])) := by
  have below (path : List String) :
      fs.root.at? (root ++ path) = (fs.root.at? root).bind (·.at? path) :=
    Entry.at?_append (.folder fs.root) root path
  have emptyAt (path : List String) (nonempty : path ≠ []) : Listing.empty.at? path = none := by
    cases path with
    | nil => exact absurd rfl nonempty
    | cons first rest => rw [Listing.at?_cons]; rfl
  cases there : fs.root.at? root with
  | none =>
    refine ⟨.empty, trivial, fun path nonempty => ?_, by rw [scan, there]; rfl⟩
    rw [below, there, emptyAt path nonempty]
    rfl
  | some entry =>
    cases entry with
    | folder tree =>
      have treeBelow : tree.IsTree := Listing.isTree_of_at? wellFormed there
      exact ⟨tree, treeBelow, fun path _ => by rw [below, there]; rfl,
        scan_eq config there treeBelow⟩
    | _ =>
      refine ⟨.empty, trivial, fun path nonempty => ?_, by rw [scan, there]; rfl⟩
      rw [below, there, emptyAt path nonempty]
      cases path with
      | nil => exact absurd rfl nonempty
      | cons first rest => rfl

theorem mem_scan_files_iff (wellFormed : fs.root.IsTree) {file : SourceFile} :
    file ∈ (fs.scan config root).files ↔ ∃ directory name content,
      fs.Keeps config root directory name content.toUTF8 ∧
      file = .recordOf directory name content := by
  obtain ⟨tree, treeBelow, below, scanned⟩ := exists_scanned config root wellFormed
  rw [scanned]
  simp only [ScanResult.ofVerdicts, List.filterMap_filterMap, List.mem_filterMap]
  constructor
  · rintro ⟨⟨path, entry⟩, listed, kept⟩
    obtain ⟨found, noFolder⟩ := (Listing.mem_sorted_leaves_iff treeBelow).mp listed
    obtain ⟨_, _, nonempty, _⟩ := Listing.head_mem_names listed
    obtain ⟨directory, name, rfl⟩ : ∃ directory name, path = directory ++ [name] :=
      ⟨_, _, (List.dropLast_concat_getLast (by simp [nonempty])).symm⟩
    obtain ⟨reported, bytes, leads, nonempty, withinLimit, content, decoded, rfl⟩ :=
      Walk.verdictOn?_file?.mp kept
    obtain ⟨rfl, noZero⟩ := Walk.decode?_eq_some_iff.mp decoded
    have there : fs.HoldsBytes root (directory ++ [name]) content.toUTF8 :=
      ⟨entry, (below _ (by simp)).trans found, leads⟩
    exact ⟨directory, name, content,
      ⟨reported, there, nonempty, withinLimit, content, rfl, noZero⟩, rfl⟩
  · rintro ⟨directory, name, content, keeps, rfl⟩
    obtain ⟨entry, found, leads⟩ := keeps.found
    rw [below _ (by simp)] at found
    obtain ⟨text, same, noZero⟩ := keeps.isText
    obtain rfl : content = text := String.toByteArray_inj.mp same
    have noFolder : entry.isFolder = false := by
      cases entry <;> simp_all [Walk.behind, Entry.isFolder]
    have decoded := Walk.decode?_toUTF8 noZero
    exact ⟨(directory ++ [name], entry),
      (Listing.mem_sorted_leaves_iff treeBelow).mpr ⟨found, noFolder⟩,
      Walk.verdictOn?_file?.mpr ⟨keeps.reported, content.toUTF8, leads, keeps.nonempty,
        keeps.withinLimit, content, decoded, rfl⟩⟩

theorem scan_files_increase (config : ScanConfig) (root : List String)
    (wellFormed : fs.root.IsTree) :
    ComponentsIncrease ((fs.scan config root).files.map (·.path)) := by
  obtain ⟨tree, treeBelow, _, scanned⟩ := exists_scanned config root wellFormed
  rw [scanned]
  exact ScanResult.files_increase
    (Walk.verdict_paths_increase config (fs.followBelow root) treeBelow)

variable {directory : List String} {name : String}

theorem Keeps.isFileName {bytes : ByteArray} (wellFormed : fs.root.IsTree)
    (keeps : fs.Keeps config root directory name bytes) :
    ∀ part ∈ directory ++ [name], IsFileName part := by
  obtain ⟨tree, treeBelow, below, _⟩ := exists_scanned config root wellFormed
  obtain ⟨entry, found, leads⟩ := keeps.found
  rw [below _ (by simp)] at found
  have noFolder : entry.isFolder = false := by
    cases entry <;> simp_all [Walk.behind, Entry.isFolder]
  exact Listing.isFileName_of_mem_leaves treeBelow
    ((Listing.mem_leaves_iff treeBelow).mpr ⟨found, noFolder⟩)

theorem keeps_of_mem_scan_files {content : String} (wellFormed : fs.root.IsTree)
    (plain : ∀ part ∈ directory ++ [name], '/' ∉ part.toList)
    (member : .recordOf directory name content ∈ (fs.scan config root).files) :
    fs.Keeps config root directory name content.toUTF8 := by
  obtain ⟨walked, file, text, keeps, same⟩ := (mem_scan_files_iff wellFormed).mp member
  have named := keeps.isFileName wellFormed
  simp only [SourceFile.recordOf, SourceFile.mk.injEq] at same
  obtain ⟨_, samePath, rfl, _⟩ := same
  have parts := congrArg (Text.splitAt '/') samePath
  rw [Text.splitAt_join (by simp) plain,
    Text.splitAt_join (by simp) fun part inPath => (named part inPath).noSlash] at parts
  obtain ⟨rfl, sameName⟩ := List.append_inj' parts rfl
  rw [List.singleton_inj.mp sameName]
  exact keeps

variable {other : FileSystem} {otherRoot : List String}

theorem keeps_of_scan_files_eq {bytes : ByteArray} (wellFormed : fs.root.IsTree)
    (otherWellFormed : other.root.IsTree)
    (files : (fs.scan config root).files = (other.scan config otherRoot).files)
    (keeps : fs.Keeps config root directory name bytes) :
    other.Keeps config otherRoot directory name bytes := by
  obtain ⟨content, rfl, _⟩ := keeps.isText
  have member := (mem_scan_files_iff wellFormed).mpr ⟨directory, name, content, keeps, rfl⟩
  have plain : ∀ part ∈ directory ++ [name], '/' ∉ part.toList :=
    fun part inPath => (keeps.isFileName wellFormed part inPath).noSlash
  rw [files] at member
  exact keeps_of_mem_scan_files otherWellFormed plain member

/-- Two scans list the same files exactly if they keep the same files with the same bytes. -/
theorem scan_files_eq_iff (wellFormed : fs.root.IsTree) (otherWellFormed : other.root.IsTree) :
    (fs.scan config root).files = (other.scan config otherRoot).files ↔
      ∀ directory name bytes, fs.Keeps config root directory name bytes ↔
        other.Keeps config otherRoot directory name bytes := by
  constructor
  · intro files directory name bytes
    exact ⟨keeps_of_scan_files_eq wellFormed otherWellFormed files,
      keeps_of_scan_files_eq otherWellFormed wellFormed files.symm⟩
  · intro same
    let earlier (file next : SourceFile) : Prop :=
      Text.splitAt '/' file.path < Text.splitAt '/' next.path
    have irreflexive : Std.Irrefl earlier := ⟨fun _ => lt_irrefl _⟩
    have antisymmetric : Std.Antisymm earlier := ⟨fun _ _ less more => absurd more less.asymm⟩
    have increasing := scan_files_increase config root wellFormed
    have otherIncreasing := scan_files_increase config otherRoot otherWellFormed
    rw [ComponentsIncrease, List.pairwise_map] at increasing otherIncreasing
    -- Two lists that increase strictly are equal as soon as they have the same members.
    refine List.Pairwise.eq_of_mem_iff (r := earlier) increasing otherIncreasing fun file => ?_
    rw [mem_scan_files_iff wellFormed, mem_scan_files_iff otherWellFormed]
    simp only [same]

end FileSystem

end Downstream
