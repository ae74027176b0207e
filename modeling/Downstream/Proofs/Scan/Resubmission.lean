import Downstream.Proofs.Exclusion
import Downstream.Proofs.Scan.Upload
import Downstream.Proofs.Text.Runs

/-!
Uploading once more what an upload has kept. Nothing is skipped then, and every file comes back
whose path is in normal form. The slashes in front of a path are dropped after the "./", so where
they stand before a "./" the path is not in normal form yet: such a file comes back under a shorter
path, or not at all if a rule excludes that one.
-/
namespace Downstream

def ScanResult.records (scan : ScanResult) : List (String × String) :=
  scan.files.map fun file => (file.path, file.content)

namespace Upload

open Text (Stops)

/-! ### Paths in normal form -/

theorem ends_trimSlashes (cs : List Char) :
    (trimSlashes cs).head? ≠ some '/' ∧ (trimSlashes cs).getLast? ≠ some '/' := by
  obtain ⟨first, last, _⟩ := Text.exists_dropWhile_ends (· == '/') cs
  exact ⟨stops_slash_iff.mp first, by simpa [trimSlashes] using stops_slash_iff.mp last⟩

theorem exists_trimSlashes (cs : List Char) :
    ∃ front behind, (∀ c ∈ front, c = '/') ∧ (∀ c ∈ behind, c = '/') ∧
      cs = front ++ (trimSlashes cs ++ behind) := by
  obtain ⟨_, _, front, behind, inFront, atEnd, split⟩ :=
    Text.exists_dropWhile_ends (· == '/') cs
  exact ⟨front, behind, by simpa using inFront, by simpa using atEnd, split⟩

theorem ends_normalPath (path : String) :
    (normalPath path).toList.head? ≠ some '/' ∧ (normalPath path).toList.getLast? ≠ some '/' := by
  rw [normalPath_toList]
  exact ends_trimSlashes _

theorem isNormal_normalPath_iff_noDot {path : String} :
    IsNormal (normalPath path) ↔ ¬ ['.', '/'] <+: (normalPath path).toList := by
  obtain ⟨notFirst, notLast⟩ := ends_normalPath path
  exact ⟨IsNormal.noDot, fun noDot => ⟨noBackslash_normalPath path, notFirst, notLast, noDot⟩⟩

theorem length_trimSlashes_le (cs : List Char) : (trimSlashes cs).length ≤ cs.length := by
  obtain ⟨front, behind, _, _, split⟩ := exists_trimSlashes cs
  have lengths := congrArg List.length split
  simp only [List.length_append] at lengths
  omega

theorem normalPath_eq_self_iff {path : String} : normalPath path = path ↔ IsNormal path := by
  refine ⟨fun same => ?_, IsNormal.normalPath_eq⟩
  obtain ⟨notFirst, notLast⟩ := ends_normalPath path
  have plain := noBackslash_normalPath path
  have chars := normalPath_toList path
  rw [same] at notFirst notLast plain chars
  refine ⟨plain, notFirst, notLast, ?_⟩
  rintro ⟨rest, split⟩
  have dropped : dropDots (slashed path) = dropDots rest := by
    rw [slashed_eq_self plain, ← split]
    rfl
  have shorter : path.toList.length ≤ rest.length := by
    rw [chars, dropped]
    exact (length_trimSlashes_le _).trans (dropDots_suffix rest).length_le
  rw [← split, List.length_append] at shorter
  have dot : ['.', '/'].length = 2 := rfl
  omega

/-- Slashes in front of a "./" with more than slashes behind it: dropping them uncovers the "./". -/
def UncoversDot (path : String) : Prop :=
  ∃ slashes rest, slashes ≠ [] ∧ (∀ c ∈ slashes, c = '/') ∧ (∃ c ∈ rest, c ≠ '/') ∧
    dropDots (slashed path) = slashes ++ '.' :: '/' :: rest

theorem not_dot_dropDots (cs : List Char) : ¬ ['.', '/'] <+: dropDots cs := by
  fun_induction dropDots cs with
  | case1 rest ih => exact ih
  | case2 cs noDot =>
    rintro ⟨rest, split⟩
    exact noDot rest split.symm

theorem dot_trimSlashes_iff {cs : List Char} :
    ['.', '/'] <+: trimSlashes cs ↔
      ∃ slashes rest, (∀ c ∈ slashes, c = '/') ∧ (∃ c ∈ rest, c ≠ '/') ∧
        cs = slashes ++ '.' :: '/' :: rest := by
  constructor
  · intro dot
    obtain ⟨inside, dot⟩ := dot
    obtain ⟨_, notLast⟩ := ends_trimSlashes cs
    obtain ⟨front, behind, inFront, _, split⟩ := exists_trimSlashes cs
    rw [← dot] at notLast split
    refine ⟨front, inside ++ behind, inFront, ?_, by simpa using split⟩
    rcases List.eq_nil_or_concat inside with rfl | ⟨before, c, rfl⟩
    · exact absurd rfl notLast
    · rw [List.concat_eq_append, ← List.append_assoc, List.getLast?_concat] at notLast
      exact ⟨c, by simp, fun slash => notLast (congrArg some slash)⟩
  · intro uncovered
    obtain ⟨slashes, rest, allSlashes, ⟨c, inRest, notSlash⟩, rfl⟩ := uncovered
    have stopsAtDot : Stops (· == '/') ('.' :: '/' :: rest) := by simp
    have kept : rest.reverse.dropWhile (· == '/') ≠ [] := by
      rw [Ne, List.dropWhile_eq_nil_iff]
      intro all
      exact notSlash (by simpa using all c (List.mem_reverse.mpr inRest))
    rw [trimSlashes, Text.dropWhile_append_of_stops (by simpa using allSlashes) stopsAtDot,
      List.reverse_cons, List.reverse_cons, List.append_assoc, List.dropWhile_append, if_neg
      (by simpa using kept), List.reverse_append]
    exact List.prefix_append _ _

/-- The path that a client gives comes out in normal form unless slashes in front hide a "./". -/
theorem isNormal_normalPath_iff (path : String) :
    IsNormal (normalPath path) ↔ ¬ UncoversDot path := by
  rw [isNormal_normalPath_iff_noDot, normalPath_toList, not_iff_not, dot_trimSlashes_iff]
  constructor
  · intro uncovered
    obtain ⟨slashes, rest, allSlashes, more, split⟩ := uncovered
    refine ⟨slashes, rest, ?_, allSlashes, more, split⟩
    intro empty
    rw [empty, List.nil_append] at split
    exact not_dot_dropDots (slashed path) ⟨rest, split.symm⟩
  · intro uncovers
    obtain ⟨slashes, rest, _, allSlashes, more, split⟩ := uncovers
    exact ⟨slashes, rest, allSlashes, more, split⟩

/-! ### What is cut off in front -/

def AreComponents (front : List Char) : Prop :=
  front = [] ∨ ∃ before, front = before ++ ['/']

theorem AreComponents.append {front more : List Char} (one : AreComponents front)
    (other : AreComponents more) : AreComponents (front ++ more) := by
  rcases other with rfl | ⟨before, rfl⟩
  · rwa [List.append_nil]
  · exact Or.inr ⟨front ++ before, by rw [List.append_assoc]⟩

theorem areComponents_slashes {front : List Char} (all : ∀ c ∈ front, c = '/') :
    AreComponents front := by
  rcases List.eq_nil_or_concat front with rfl | ⟨before, c, rfl⟩
  · exact Or.inl rfl
  · obtain rfl := all c (by simp)
    exact Or.inr ⟨before, List.concat_eq_append⟩

theorem exists_dropDots (cs : List Char) :
    ∃ front, AreComponents front ∧ cs = front ++ dropDots cs := by
  fun_induction dropDots cs with
  | case1 rest ih =>
    obtain ⟨front, components, split⟩ := ih
    refine ⟨['.', '/'] ++ front, AreComponents.append (Or.inr ⟨['.'], rfl⟩) components, ?_⟩
    rw [List.append_assoc, ← split]
    rfl
  | case2 cs _ => exact ⟨[], Or.inl rfl, rfl⟩

/-- Bringing a path into normal form takes components off in front, if it has neither backslashes
nor a slash at the end. -/
theorem exists_front {path : String} (noBackslash : '\\' ∉ path.toList)
    (notLast : path.toList.getLast? ≠ some '/') :
    ∃ front, AreComponents front ∧ path.toList = front ++ (normalPath path).toList := by
  obtain ⟨dots, areDots, split⟩ := exists_dropDots path.toList
  obtain ⟨slashes, behind, inFront, atEnd, inside⟩ := exists_trimSlashes (dropDots path.toList)
  have normal : trimSlashes (dropDots path.toList) = (normalPath path).toList := by
    rw [normalPath_toList, slashed_eq_self noBackslash]
  rw [inside, normal] at split
  obtain rfl : behind = [] := by
    rcases List.eq_nil_or_concat behind with rfl | ⟨before, c, rfl⟩
    · rfl
    · obtain rfl := atEnd c (by simp)
      exact absurd (by rw [split]; simp) notLast
  refine ⟨dots ++ slashes, areDots.append (areComponents_slashes inFront), ?_⟩
  rw [split, List.append_nil, List.append_assoc]

theorem normalPath_ne_empty {path : String} (noBackslash : '\\' ∉ path.toList)
    (notLast : path.toList.getLast? ≠ some '/') (nonempty : path ≠ "") : normalPath path ≠ "" := by
  intro empty
  obtain ⟨front, components, split⟩ := exists_front noBackslash notLast
  rw [empty, String.toList_empty, List.append_nil] at split
  rcases components with rfl | ⟨before, rfl⟩
  · exact nonempty (String.toList_eq_nil_iff.mp split)
  · exact notLast (by rw [split]; simp)

theorem exists_above {path : String} (noBackslash : '\\' ∉ path.toList)
    (notLast : path.toList.getLast? ≠ some '/') :
    ∃ above, Text.fields '/' path.toList = above ++ Text.fields '/' (normalPath path).toList := by
  obtain ⟨front, components, split⟩ := exists_front noBackslash notLast
  rw [split]
  rcases components with rfl | ⟨before, rfl⟩
  · exact ⟨[], by rw [List.nil_append, List.nil_append]⟩
  · refine ⟨Text.fields '/' before, ?_⟩
    rw [List.append_assoc, List.singleton_append, Text.fields_eq_splitOn,
      List.splitOn_append_cons_self, Text.fields_eq_splitOn, Text.fields_eq_splitOn]

theorem nameOfPath_normalPath {path : String} (noBackslash : '\\' ∉ path.toList)
    (notLast : path.toList.getLast? ≠ some '/') : nameOfPath (normalPath path) = nameOfPath path := by
  obtain ⟨above, split⟩ := exists_above noBackslash notLast
  have last := Text.getLast?_fields '/' path.toList
  rw [split, List.getLast?_append, Text.getLast?_fields, Option.some_or] at last
  exact congrArg String.ofList (Option.some.inj last)

theorem directories_normalPath_subset {path : String} (noBackslash : '\\' ∉ path.toList)
    (notLast : path.toList.getLast? ≠ some '/') :
    (Text.splitAt '/' (normalPath path)).dropLast ⊆ (Text.splitAt '/' path).dropLast := by
  obtain ⟨above, split⟩ := exists_above noBackslash notLast
  intro directory member
  have below : Text.fields '/' (normalPath path).toList ≠ [] := by
    intro empty
    simp [Text.splitAt, empty] at member
  rw [Text.splitAt, split, List.map_append, List.dropLast_append_of_ne_nil (by simpa using below)]
  exact List.mem_append_right _ member

/-! ### Files that come back -/

variable {config : ScanConfig}

structure IsKept (config : ScanConfig) (file : SourceFile) : Prop where
  named : file.name = nameOfPath file.path
  notEmpty : file.path ≠ ""
  noBackslash : '\\' ∉ file.path.toList
  notLast : file.path.toList.getLast? ≠ some '/'
  notIgnored : ∀ directory ∈ (Text.splitAt '/' file.path).dropLast,
    directory ∉ ScanConfig.ignoredDirectories
  allowed : config.allows file.name = true
  notExcluded : excluded config.rules file.path false = false
  judged : ∀ path, config.judge file.name path file.content.utf8ByteSize (some file.content) =
    .kept { file with path }

theorem isKept_of_mem {texts : List (String × String)} {file : SourceFile}
    (kept : file ∈ (Upload.scan config texts).files) : IsKept config file := by
  obtain ⟨verdict, inVerdicts, isFile⟩ := List.mem_filterMap.mp kept
  obtain ⟨⟨raw, content⟩, _, judged⟩ := List.mem_filterMap.mp inVerdicts
  obtain ⟨candidate, rfl⟩ := verdict?_eq_some_iff.mp judged
  obtain ⟨notEmpty, notIgnored, admitted⟩ := isCandidate_iff.mp candidate
  have renamed := ScanConfig.judge_renamed isFile
  obtain ⟨_, _, _, same, rfl⟩ := ScanConfig.judge_file?.mp isFile
  obtain rfl := Option.some.inj same
  rw [ScanConfig.admits, Bool.and_eq_true, Bool.not_eq_true'] at admitted
  exact ⟨rfl, notEmpty, noBackslash_normalPath raw, (ends_normalPath raw).2, notIgnored,
    admitted.1, admitted.2, renamed⟩

def resubmitted (config : ScanConfig) (file : SourceFile) : Option SourceFile :=
  if excluded config.rules (normalPath file.path) false then none
  else some { file with path := normalPath file.path }

/-- A file that an upload has kept is judged as before under its new path, unless a rule excludes
that one. -/
theorem IsKept.verdict? {file : SourceFile} (kept : IsKept config file) :
    verdict? config file.path file.content = (resubmitted config file).map .kept := by
  have sameName := (nameOfPath_normalPath kept.noBackslash kept.notLast).trans kept.named.symm
  rw [resubmitted]
  by_cases hit : excluded config.rules (normalPath file.path) false = true
  · rw [if_pos hit, Option.map_none, Option.eq_none_iff_forall_ne_some]
    intro verdict judged
    obtain ⟨candidate, _⟩ := verdict?_eq_some_iff.mp judged
    obtain ⟨_, _, admitted⟩ := isCandidate_iff.mp candidate
    simp [ScanConfig.admits, hit] at admitted
  · rw [if_neg hit, Option.map_some, verdict?_eq_some_iff, isCandidate_iff, sameName]
    refine ⟨⟨normalPath_ne_empty kept.noBackslash kept.notLast kept.notEmpty, ?_, ?_⟩,
      (kept.judged _).symm⟩
    · intro directory member
      exact kept.notIgnored directory
        (directories_normalPath_subset kept.noBackslash kept.notLast member)
    · simp [ScanConfig.admits, kept.allowed, hit]

/-- Rules without a slash ask about the components of a path, so they leave no file out that they
have let pass before. -/
theorem IsKept.resubmitted_of_bare {file : SourceFile} (kept : IsKept config file)
    (bare : ∀ line ∈ config.excludePaths, '/' ∉ line.toList) :
    resubmitted config file = some { file with path := normalPath file.path } := by
  refine if_neg fun hit => ?_
  obtain ⟨rule, inRules, excludes⟩ := List.any_eq_true.mp hit
  have isBare := rules_bare bare rule inRules
  obtain ⟨above, split⟩ := exists_above kept.noBackslash kept.notLast
  have excludesBefore : rule.excludes file.path false = true := by
    simp only [ExcludeRule.excludes, isBare.anyKind, isBare.notAnchored, isBare.noSlash, split,
      List.any_append] at excludes ⊢
    by_cases blank : rule.pattern.toList.isEmpty <;> simp_all
  have passed := kept.notExcluded
  rw [excluded, List.any_eq_false] at passed
  exact passed rule inRules excludesBefore

theorem IsKept.resubmitted_eq_some_iff {file : SourceFile} (kept : IsKept config file) :
    resubmitted config file = some file ↔ IsNormal file.path := by
  rw [← normalPath_eq_self_iff, resubmitted]
  constructor
  · intro same
    rw [Option.ite_none_left_eq_some] at same
    exact congrArg SourceFile.path (Option.some.inj same.2)
  · intro same
    rw [same, kept.notExcluded]
    rfl

end Upload

theorem filterMap_eq_self_iff {α : Type} {f : α → Option α} {xs : List α} :
    xs.filterMap f = xs ↔ ∀ x ∈ xs, f x = some x := by
  induction xs with
  | nil => simp
  | cons x xs ih =>
    rw [List.forall_mem_cons, ← ih]
    cases image : f x with
    | some y => simp [image]
    | none =>
      have shorter := List.length_filterMap_le f xs
      simp only [List.filterMap_cons_none image, reduceCtorEq, false_and, iff_false]
      intro same
      rw [same, List.length_cons] at shorter
      omega

structure Resubmits (config : ScanConfig) (scan again : ScanResult) : Prop where
  skipsNothing : again.skipped = []
  files : again.files = scan.files.filterMap (Upload.resubmitted config)
  sameFiles_iff : again.files = scan.files ↔ ∀ file ∈ scan.files, Upload.IsNormal file.path
  bareRules : (∀ line ∈ config.excludePaths, '/' ∉ line.toList) →
    again.files = scan.files.map fun file => { file with path := Upload.normalPath file.path }

/-- A second upload of the files that were kept skips nothing, and it keeps them all as they are if
and only if their paths are in normal form. They are, unless slashes in front of a "./" hide it. -/
theorem materialize_again (config : ScanConfig) (records : List (String × Text.Points)) :
    (∀ scan, materialize config records = .ok scan →
      ∃ again, materialize config (Upload.ofTexts scan.records) = .ok again ∧
        Resubmits config scan again) ∧
    ((∃ scan, materialize config records = .ok scan) ↔ ¬ Upload.HoldsHalf config records) ∧
    ∀ raw, Upload.IsNormal (Upload.normalPath raw) ↔ ¬ Upload.UncoversDot raw := by
  refine ⟨fun scan ended => ⟨_, materialize_ofTexts config scan.records, ?_⟩,
    exists_materialize_ok_iff, Upload.isNormal_normalPath_iff⟩
  have kept : ∀ file ∈ scan.files, Upload.IsKept config file := by
    obtain ⟨_, rfl⟩ := materialize_eq_ok_iff.mp ended
    exact fun file member => Upload.isKept_of_mem member
  -- A verdict rests on its own record alone, so the second upload is judged file by file.
  have verdicts : scan.records.filterMap (fun record =>
      Upload.verdict? config record.1 record.2) =
      (scan.files.filterMap (Upload.resubmitted config)).map .kept := by
    rw [ScanResult.records, List.filterMap_map, List.map_filterMap]
    refine List.filterMap_congr fun file member => ?_
    simp only [Function.comp_apply, (kept file member).verdict?]
  have again : Upload.scan config scan.records =
      ⟨none, scan.files.filterMap (Upload.resubmitted config), []⟩ := by
    rw [Upload.scan, verdicts, ScanResult.ofVerdicts, List.filterMap_map, List.filterMap_map]
    simp [Function.comp_def, Verdict.file?, Verdict.skipped?]
  rw [again]
  refine ⟨rfl, rfl, ?_, fun bare => ?_⟩
  · rw [filterMap_eq_self_iff]
    exact forall₂_congr fun file member => (kept file member).resubmitted_eq_some_iff
  · rw [← List.filterMap_eq_map']
    exact List.filterMap_congr fun file member => (kept file member).resubmitted_of_bare bare

/-- The premise is met by two files of which only the second comes back under its path, and beside
them a text that is no candidate and holds a half. -/
theorem hidden_dot_resubmitted :
    let config : ScanConfig := { excludePaths := ["/b.py"] }
    let records : List (String × Text.Points) :=
      [("/./a.py", .ofString "x = 1\n"), ("notes.md", [.half 0]), ("src\\b.py", .ofString "y = 2\n")]
    ∃ scan, materialize config records = .ok scan ∧
      scan.files.map (·.path) = ["./a.py", "src/b.py"] ∧
      ∃ again, materialize config (Upload.ofTexts scan.records) = .ok again ∧
        again.files.map (·.path) = ["a.py", "src/b.py"] ∧ Resubmits config scan again := by
  intro config records
  have plain : ¬ Upload.HoldsHalf config records := by decide +kernel
  have ended := materialize_eq_ok_iff.mpr ⟨plain, rfl⟩
  obtain ⟨again, endedAgain, resubmits⟩ := (materialize_again config records).1 _ ended
  refine ⟨_, ended, by decide +kernel, again, endedAgain, ?_, resubmits⟩
  rw [resubmits.files]
  decide +kernel

/-- A file whose path is not in normal form comes back under another one, or not at all. -/
theorem renamed_on_second_upload :
    let config : ScanConfig := { excludePaths := ["/b.py"] }
    let texts := [("/./a.py", "x = 1\n"), ("/./b.py", "y = 2\n")]
    ∃ scan again, materialize config (Upload.ofTexts texts) = .ok scan ∧
      materialize config (Upload.ofTexts scan.records) = .ok again ∧
      scan.files.map (·.path) = ["./a.py", "./b.py"] ∧ again.files.map (·.path) = ["a.py"] := by
  intro config texts
  exact ⟨_, _, materialize_ofTexts config texts, materialize_ofTexts config _, by decide +kernel,
    by decide +kernel⟩

end Downstream
