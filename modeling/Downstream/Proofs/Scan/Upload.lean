import Downstream.Proofs.FileSystem.Tree
import Downstream.Proofs.Scan.Basic
import Downstream.Proofs.Text.Fields
import Downstream.Proofs.Text.Points
import Downstream.Proofs.Text.Runs
import Downstream.Scan.Upload
import Mathlib.Data.List.TakeWhile

/-!
What becomes of an uploaded file whose path is that of a file in a tree: the path is in normal form
already, so its components decide, and the scan speaks of the file as the walk would, except that it
never asks about the directories above it. A list of uploaded files is scanned unless some candidate
in it holds a half, and then its scan is that of the texts.
-/
namespace Downstream

namespace Upload

open Text (Stops)

theorem dropDots_eq_self {cs : List Char} (noDot : ∀ rest, cs ≠ '.' :: '/' :: rest) :
    dropDots cs = cs := by
  unfold dropDots
  split
  · exact absurd rfl (noDot _)
  · rfl

structure IsNormal (path : String) : Prop where
  noBackslash : '\\' ∉ path.toList
  notFirst : path.toList.head? ≠ some '/'
  notLast : path.toList.getLast? ≠ some '/'
  noDot : ¬ ['.', '/'] <+: path.toList

def slashed (path : String) : List Char :=
  path.toList.map fun c => if c = '\\' then '/' else c

theorem normalPath_toList (path : String) :
    (normalPath path).toList = trimSlashes (dropDots (slashed path)) :=
  String.toList_ofList

theorem slashed_eq_self {path : String} (plain : '\\' ∉ path.toList) :
    slashed path = path.toList := by
  rw [slashed, List.map_congr_left (g := id), List.map_id]
  intro c member
  have other : c ≠ '\\' := fun same => plain (same ▸ member)
  exact if_neg other

theorem stops_slash_iff {cs : List Char} : Stops (· == '/') cs ↔ cs.head? ≠ some '/' := by
  cases cs <;> simp [Stops]

theorem trimSlashes_eq_self {cs : List Char} (notFirst : cs.head? ≠ some '/')
    (notLast : cs.getLast? ≠ some '/') : trimSlashes cs = cs :=
  Text.dropWhile_ends_eq_self (stops_slash_iff.mpr notFirst)
    (stops_slash_iff.mpr (by simpa using notLast))

theorem IsNormal.normalPath_eq {path : String} (normal : IsNormal path) :
    normalPath path = path := by
  have noDot : ∀ rest, path.toList ≠ '.' :: '/' :: rest :=
    fun rest split => normal.noDot ⟨rest, split.symm⟩
  rw [← String.toList_inj, normalPath_toList, slashed_eq_self normal.noBackslash,
    dropDots_eq_self noDot, trimSlashes_eq_self normal.notFirst normal.notLast]

structure Plain (path : List String) : Prop where
  nonempty : path ≠ []
  named : ∀ part ∈ path, IsFileName part
  noBackslash : ∀ part ∈ path, '\\' ∉ part.toList

variable {path : List String}

theorem Plain.noSlash (plain : Plain path) : ∀ part ∈ path, '/' ∉ part.toList :=
  fun part member => (plain.named part member).noSlash

theorem Plain.field_named (plain : Plain path) {field : List Char}
    (member : field ∈ Text.fields '/' (Text.join "/" path).toList) :
    field ≠ [] ∧ field ≠ ['.'] := by
  rw [Text.fields_join rfl plain.nonempty plain.noSlash] at member
  obtain ⟨part, inPath, rfl⟩ := List.mem_map.mp member
  have named := plain.named part inPath
  exact ⟨fun empty => named.nonempty (String.toList_inj.mp empty),
    fun dot => named.notHere (String.toList_inj.mp dot)⟩

theorem isNormal_join (plain : Plain path) : IsNormal (Text.join "/" path) := by
  have field : ∀ field ∈ Text.fields '/' (Text.join "/" path).toList, field ≠ [] ∧ field ≠ ['.'] :=
    fun _ member => plain.field_named member
  refine ⟨?_, ?_, ?_, ?_⟩
  · intro member
    rcases Text.mem_join member with slash | ⟨part, inPath, inPart⟩
    · exact absurd slash (by decide)
    · exact plain.noBackslash part inPath inPart
  · intro first
    obtain ⟨rest, split⟩ := List.head?_eq_some_iff.mp first
    rw [split] at field
    exact (field [] (by simp [Text.fields])).1 rfl
  · intro last
    obtain ⟨front, split⟩ := List.getLast?_eq_some_iff.mp last
    rw [split, Text.fields_eq_splitOn, List.splitOn_append_cons_self] at field
    exact (field [] (by simp)).1 rfl
  · intro dot
    obtain ⟨rest, split⟩ := dot
    rw [← split] at field
    exact (field ['.'] (by simp [Text.fields])).2 rfl

theorem normalPath_join (plain : Plain path) :
    normalPath (Text.join "/" path) = Text.join "/" path :=
  (isNormal_join plain).normalPath_eq

theorem isCandidate_iff {config : ScanConfig} {raw : String} :
    isCandidate config raw = true ↔
      normalPath raw ≠ "" ∧
      (∀ directory ∈ (Text.splitAt '/' (normalPath raw)).dropLast,
        directory ∉ ScanConfig.ignoredDirectories) ∧
      config.admits (nameOfPath (normalPath raw)) (normalPath raw) = true := by
  simp [isCandidate, and_assoc]

/-- An uploaded file asks only whether a directory above it is ignored, and what the rules say of
its whole path. -/
theorem isCandidate_of_normal (config : ScanConfig) {raw : String} {directory : List String}
    {name : String} (named : ∀ part ∈ directory ++ [name], IsFileName part)
    (normal : normalPath raw = Text.join "/" (directory ++ [name])) :
    isCandidate config raw = true ↔
      (∀ ancestor ∈ directory, ancestor ∉ ScanConfig.ignoredDirectories) ∧
      config.admits name (Text.join "/" (directory ++ [name])) = true := by
  have notEmpty : Text.join "/" (directory ++ [name]) ≠ "" :=
    Text.join_ne_empty (by simp) fun part member => (named part member).nonempty
  have noSlash := fun part member => (named part member).noSlash
  have last : nameOfPath (Text.join "/" (directory ++ [name])) = name :=
    nameOfPath_join (noSlash name (by simp)) directory
  rw [isCandidate_iff, normal, Text.splitAt_join (by simp) noSlash, last, List.dropLast_concat]
  exact and_iff_right notEmpty

theorem verdict?_of_normal (config : ScanConfig) {raw : String} {directory : List String}
    {name : String} (named : ∀ part ∈ directory ++ [name], IsFileName part)
    (normal : normalPath raw = Text.join "/" (directory ++ [name])) (content : String) :
    verdict? config raw content =
      if (∀ ancestor ∈ directory, ancestor ∉ ScanConfig.ignoredDirectories) ∧
          config.admits name (Text.join "/" (directory ++ [name])) = true then
        some (config.judge name (Text.join "/" (directory ++ [name])) content.utf8ByteSize
          (some content))
      else none := by
  have last : nameOfPath (Text.join "/" (directory ++ [name])) = name :=
    nameOfPath_join (named name (by simp)).noSlash directory
  simp only [verdict?, isCandidate_of_normal config named normal, normal, last]

theorem verdict?_eq_some_iff {config : ScanConfig} {raw content : String} {verdict : Verdict} :
    verdict? config raw content = some verdict ↔
      isCandidate config raw = true ∧
      verdict = config.judge (nameOfPath (normalPath raw)) (normalPath raw) content.utf8ByteSize
        (some content) := by
  simp only [verdict?, Option.ite_none_right_eq_some, Option.some.injEq, eq_comm (a := verdict)]

theorem path_of_verdict? {config : ScanConfig} {raw content : String} {verdict : Verdict}
    (judged : verdict? config raw content = some verdict) : verdict.path = normalPath raw := by
  obtain ⟨_, rfl⟩ := verdict?_eq_some_iff.mp judged
  exact ScanConfig.judge_path _ _ _ _ _

theorem dropDots_suffix (cs : List Char) : dropDots cs <:+ cs := by
  fun_induction dropDots cs with
  | case1 rest ih => exact ih.trans (List.suffix_append ['.', '/'] rest)
  | case2 cs _ => exact List.suffix_rfl

theorem noBackslash_normalPath (raw : String) : '\\' ∉ (normalPath raw).toList := by
  have unslashed : '\\' ∉ raw.toList.map fun c => if c = '\\' then '/' else c := by
    simp only [List.mem_map, not_exists, not_and]
    intro c _
    split
    · simp
    · assumption
  rw [normalPath, String.toList_ofList]
  exact fun member =>
    unslashed ((dropDots_suffix _).subset (Text.mem_of_mem_dropWhile_ends member))

def HoldsHalf (config : ScanConfig) (records : List (String × Text.Points)) : Prop :=
  ∃ record ∈ records, isCandidate config record.1 = true ∧ record.2.HoldsHalf

instance (config : ScanConfig) (records : List (String × Text.Points)) :
    Decidable (HoldsHalf config records) :=
  decidable_of_iff
    (records.any (fun record => isCandidate config record.1 && decide record.2.HoldsHalf) = true)
    (by simp [HoldsHalf])

theorem findSome?_halves?_eq_none_iff {config : ScanConfig}
    {records : List (String × Text.Points)} :
    records.findSome? (halves? config) = none ↔ ¬ HoldsHalf config records := by
  simp [List.findSome?_eq_none_iff, halves?, HoldsHalf, Text.Points.halves?_eq_none_iff]

@[simp]
theorem texts_ofTexts (texts : List (String × String)) : Upload.texts (ofTexts texts) = texts := by
  simp [Upload.texts, ofTexts, Function.comp_def]

theorem not_holdsHalf_ofTexts (config : ScanConfig) (texts : List (String × String)) :
    ¬ HoldsHalf config (ofTexts texts) := by
  simp [HoldsHalf, ofTexts]

end Upload

section Materialize

variable {config : ScanConfig} {records : List (String × Text.Points)} {scan : ScanResult}

theorem materialize_eq_ok_iff :
    materialize config records = .ok scan ↔
      ¬ Upload.HoldsHalf config records ∧ Upload.scan config (Upload.texts records) = scan := by
  rw [← Upload.findSome?_halves?_eq_none_iff, materialize]
  cases records.findSome? (Upload.halves? config) <;> simp

theorem exists_materialize_ok_iff :
    (∃ scan, materialize config records = .ok scan) ↔ ¬ Upload.HoldsHalf config records := by
  simp only [materialize_eq_ok_iff, exists_and_left, exists_eq', and_true]

theorem exists_materialize_error_iff :
    (∃ halves, materialize config records = .error halves) ↔ Upload.HoldsHalf config records := by
  rw [← not_iff_not, ← Upload.findSome?_halves?_eq_none_iff, materialize]
  cases records.findSome? (Upload.halves? config) <;> simp

theorem materialize_ofTexts (config : ScanConfig) (texts : List (String × String)) :
    materialize config (Upload.ofTexts texts) = .ok (Upload.scan config texts) :=
  materialize_eq_ok_iff.mpr
    ⟨Upload.not_holdsHalf_ofTexts config texts, by rw [Upload.texts_ofTexts]⟩

theorem Upload.mem_scan_reported_iff {texts : List (String × String)} {directory : List String}
    {name : String} (named : ∀ part ∈ directory ++ [name], IsFileName part) :
    Text.join "/" (directory ++ [name]) ∈ (Upload.scan config texts).reported ↔
      (∃ text ∈ texts, Upload.normalPath text.1 = Text.join "/" (directory ++ [name])) ∧
      (∀ ancestor ∈ directory, ancestor ∉ ScanConfig.ignoredDirectories) ∧
      config.admits name (Text.join "/" (directory ++ [name])) = true := by
  rw [Upload.scan, ScanResult.reported_perm.mem_iff, List.mem_map]
  constructor
  · rintro ⟨verdict, member, same⟩
    obtain ⟨⟨raw, content⟩, inTexts, judged⟩ := List.mem_filterMap.mp member
    have normal := (Upload.path_of_verdict? judged).symm.trans same
    obtain ⟨candidate, _⟩ := Upload.verdict?_eq_some_iff.mp judged
    exact ⟨⟨_, inTexts, normal⟩, (Upload.isCandidate_of_normal config named normal).mp candidate⟩
  · rintro ⟨⟨⟨raw, content⟩, inTexts, normal⟩, admitted⟩
    have judged := Upload.verdict?_of_normal config named normal content
    rw [if_pos admitted] at judged
    exact ⟨_, List.mem_filterMap.mpr ⟨_, inTexts, judged⟩, ScanConfig.judge_path _ _ _ _ _⟩

theorem mem_materialize_reported_iff {directory : List String} {name : String}
    (named : ∀ part ∈ directory ++ [name], IsFileName part)
    (ended : materialize config records = .ok scan) :
    Text.join "/" (directory ++ [name]) ∈ scan.reported ↔
      (∃ record ∈ records,
        Upload.normalPath record.1 = Text.join "/" (directory ++ [name])) ∧
      (∀ ancestor ∈ directory, ancestor ∉ ScanConfig.ignoredDirectories) ∧
      config.admits name (Text.join "/" (directory ++ [name])) = true := by
  obtain ⟨_, rfl⟩ := materialize_eq_ok_iff.mp ended
  rw [Upload.mem_scan_reported_iff named]
  simp [Upload.texts]

end Materialize

end Downstream
