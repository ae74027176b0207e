import Downstream.Proofs.Exclusion
import Downstream.Proofs.Scan.Upload
import Downstream.Proofs.Scan.Walk
import Downstream.Proofs.Text.Bytes
import Mathlib.Data.List.Sort

/-!
Walking a tree of texts and uploading its files in path order give the same scan, as long as no
exclude pattern holds a slash. The walk asks of each directory whether it is excluded; a bare rule
that excludes a directory excludes the files below it, so asking only of the files comes to the
same.
-/
namespace Downstream

/-- Folders and files alone: no backslash in the path of a file, and no zero in its text. -/
structure Listing.HoldsTexts (tree : Listing) : Prop where
  wellFormed : tree.IsTree
  noBackslash : ∀ path entry, tree.at? path = some entry → entry.isFolder = false →
    ∀ part ∈ path, '\\' ∉ part.toList
  texts : ∀ path entry, tree.at? path = some entry → entry.isFolder = false →
    ∃ content : String, entry = .file content.toUTF8 ∧ '\u0000' ∉ content.toList

structure Listing.RecordedAs (tree : Listing) (records : List (String × String)) : Prop where
  complete : ∀ path content, (path, content) ∈ records ↔
    ∃ components, path = Text.join "/" components ∧
      tree.at? components = some (.file content.toUTF8)
  increasing : ComponentsIncrease (records.map (·.1))

/-- Where the rules are bare, a walk speaks of a file if no directory above it is ignored and the
file itself is a candidate. -/
theorem ScanConfig.reports_iff_admits {config : ScanConfig}
    (bare : ∀ rule ∈ config.rules, rule.IsBare) {directory : List String} {name : String}
    (plain : ∀ part ∈ directory ++ [name], '/' ∉ part.toList) :
    config.Reports directory name ↔
      (∀ ancestor ∈ directory, ancestor ∉ ignoredDirectories) ∧
      config.admits name (Text.join "/" (directory ++ [name])) = true := by
  simp only [admits, Bool.and_eq_true, Bool.not_eq_true']
  constructor
  · rintro ⟨notIgnored, _, allowed, notExcluded⟩
    exact ⟨notIgnored, allowed, notExcluded⟩
  · rintro ⟨notIgnored, allowed, notExcluded⟩
    refine ⟨notIgnored, fun above before nonempty => ?_, allowed, notExcluded⟩
    by_contra excludes
    rw [Bool.not_eq_false] at excludes
    have inPath := before.trans (List.prefix_append directory [name])
    have below := excluded_below bare inPath nonempty plain excludes
    rw [below] at notExcluded
    exact Bool.noConfusion notExcluded

namespace Listing

variable {tree : Listing} {records : List (String × String)} {config : ScanConfig}

theorem HoldsTexts.plain (holds : tree.HoldsTexts) {path : List String} {entry : Entry}
    (found : tree.at? path = some entry) (noFolder : entry.isFolder = false) :
    Upload.Plain path := by
  have listed := (mem_leaves_iff holds.wellFormed).mpr ⟨found, noFolder⟩
  obtain ⟨_, _, nonempty, _⟩ := head_mem_names listed
  exact ⟨by simp [nonempty], isFileName_of_mem_leaves holds.wellFormed listed,
    holds.noBackslash path entry found noFolder⟩

def leafOf (record : String × String) : List String × Entry :=
  (Text.splitAt '/' record.1, .file record.2.toUTF8)

theorem RecordedAs.leaves_eq (recorded : tree.RecordedAs records) (holds : tree.HoldsTexts) :
    records.map leafOf = tree.sorted.leaves := by
  let earlier (leaf next : List String × Entry) : Prop := leaf.1 < next.1
  have irreflexive : Std.Irrefl earlier := ⟨fun _ => lt_irrefl _⟩
  have antisymmetric : Std.Antisymm earlier := ⟨fun _ _ less more => absurd more less.asymm⟩
  have increasing := recorded.increasing
  rw [ComponentsIncrease, List.pairwise_map] at increasing
  have leafs : (records.map leafOf).Pairwise earlier := List.pairwise_map.mpr increasing
  -- Two lists that increase strictly are equal as soon as they have the same members.
  refine leafs.eq_of_mem_iff (leaves_increasing (sorted_isSorted holds.wellFormed)) ?_
  rintro ⟨path, entry⟩
  rw [mem_sorted_leaves_iff holds.wellFormed, List.mem_map]
  constructor
  · rintro ⟨⟨text, content⟩, member, same⟩
    obtain ⟨components, rfl, found⟩ := (recorded.complete text content).mp member
    have plain := holds.plain found rfl
    rw [leafOf, Text.splitAt_join plain.nonempty plain.noSlash] at same
    obtain ⟨rfl, rfl⟩ := Prod.mk.inj same
    exact ⟨found, rfl⟩
  · rintro ⟨found, noFolder⟩
    obtain ⟨content, rfl, _⟩ := holds.texts path entry found noFolder
    have member := (recorded.complete _ content).mpr ⟨path, rfl, found⟩
    have plain := holds.plain found noFolder
    exact ⟨_, member, by rw [leafOf, Text.splitAt_join plain.nonempty plain.noSlash]⟩

theorem verdict?_eq_verdictOn? (bare : ∀ rule ∈ config.rules, rule.IsBare)
    {follow : String → Except FileProblem Walk.Target} {path : List String} {content : String}
    (plain : Upload.Plain path) (noZero : '\u0000' ∉ content.toList) :
    Upload.verdict? config (Text.join "/" path) content =
      Walk.verdictOn? config follow [] (path, .file content.toUTF8) := by
  obtain ⟨directory, name, rfl⟩ : ∃ directory name, path = directory ++ [name] :=
    ⟨_, _, (List.dropLast_concat_getLast plain.nonempty).symm⟩
  have reached := ScanConfig.reaches_iff_reports.trans
    (ScanConfig.reports_iff_admits bare plain.noSlash)
  have judged : Walk.judgeBytes config name (Text.join "/" (directory ++ [name])) content.toUTF8 =
      config.judge name (Text.join "/" (directory ++ [name])) content.utf8ByteSize
        (some content) := by
    rw [Walk.judgeBytes, Walk.decode?_toUTF8 noZero]
    rfl
  have normal := Upload.normalPath_join plain
  simp only [Upload.verdict?_of_normal config plain.named normal, Walk.verdictOn?, reached,
    List.nil_append, List.getLast?_concat, Option.getD_some, Walk.behind, Walk.judgeLink, judged]

theorem RecordedAs.verdicts_eq (recorded : tree.RecordedAs records) (holds : tree.HoldsTexts)
    (bare : ∀ rule ∈ config.rules, rule.IsBare) (follow : String → Except FileProblem Walk.Target) :
    records.filterMap (fun (path, content) => Upload.verdict? config path content) =
      tree.sorted.leaves.filterMap (Walk.verdictOn? config follow []) := by
  rw [← recorded.leaves_eq holds, List.filterMap_map]
  refine List.filterMap_congr ?_
  rintro ⟨text, content⟩ member
  obtain ⟨components, rfl, found⟩ := (recorded.complete text content).mp member
  have plain := holds.plain found rfl
  obtain ⟨text, same, noZero⟩ := holds.texts components _ found rfl
  obtain rfl : content = text := String.toByteArray_inj.mp (Entry.file.inj same)
  rw [Function.comp_apply, leafOf, Text.splitAt_join plain.nonempty plain.noSlash]
  exact verdict?_eq_verdictOn? bare plain noZero

end Listing

end Downstream
