import Downstream.Proofs.Scan.Kept
import Downstream.Proofs.Scan.Upload

/-!
The records of the files that are kept, and what decides that a file is kept. The size is measured
on the bytes in a walk and on the text in an upload, and the language is read off an ending in small
letters; either way the record says what its name and its text say. A file that a walk visits stands
a row of tests, and the first one that it fails is the reason for which it is skipped.
-/
namespace Downstream

/-- The name, the language and the size of a record go with its path and its text, and the size is
one that the settings allow. -/
structure SourceFile.WellFormed (file : SourceFile) (config : ScanConfig) : Prop where
  hasPath : file.path ≠ ""
  lastOfPath : (Text.splitAt '/' file.path).getLast? = some file.name
  languageOfName : file.language = Language.ofFileName file.name
  nonempty : 0 < file.size
  withinLimit : (file.size : Int) ≤ config.maxFileSize
  sizeOfText : file.size = file.content.toUTF8.size

namespace ScanConfig

/-- The tests that the bytes of a file stand, in their order, each with the reason for which a file
is skipped that fails it. -/
def tests (config : ScanConfig) (bytes : ByteArray) : List (Bool × SkipReason) :=
  [(bytes.size ≠ 0, .emptyFile),
    (bytes.size ≤ config.maxFileSize, .tooLarge config.maxFileSize),
    (0 ∉ bytes.data, .notText),
    (bytes.IsValidUTF8, .notText)]

def firstFailure? (config : ScanConfig) (bytes : ByteArray) : Option SkipReason :=
  ((config.tests bytes).find? fun test => !test.1).map (·.2)

end ScanConfig

namespace Walk

variable {config : ScanConfig} {name path : String} {bytes : ByteArray}

theorem decode?_eq_none_iff : decode? bytes = none ↔ 0 ∈ bytes.data ∨ ¬bytes.IsValidUTF8 := by
  have zeroByte : bytes.data.any (· == 0) = true ↔ 0 ∈ bytes.data := by
    simp only [Array.any_eq_true', beq_iff_eq, exists_eq_right]
  rw [decode?, ← zeroByte, String.fromUTF8?]
  split
  · rename_i zero
    exact iff_of_true rfl (Or.inl zero)
  · rename_i noZero
    rw [or_iff_right noZero]
    split
    · rename_i text
      exact iff_of_false (Option.some_ne_none _) (not_not.mpr text)
    · rename_i noText
      exact iff_of_true rfl noText

theorem firstFailure?_eq (config : ScanConfig) (bytes : ByteArray) :
    config.firstFailure? bytes =
      if bytes.size = 0 then some .emptyFile
      else if config.maxFileSize < bytes.size then some (.tooLarge config.maxFileSize)
      else if decode? bytes = none then some .notText
      else none := by
  simp only [ScanConfig.firstFailure?, ScanConfig.tests, decode?_eq_none_iff]
  by_cases empty : bytes.size = 0
  · simp [empty]
  by_cases large : config.maxFileSize < bytes.size
  · simp [empty, large, Int.not_le.mpr large]
  by_cases zero : 0 ∈ bytes.data
  · simp [empty, large, Int.not_lt.mp large, zero]
  by_cases text : bytes.IsValidUTF8
  · simp [empty, large, Int.not_lt.mp large, zero, text]
  · simp [empty, large, Int.not_lt.mp large, zero, text]

theorem skipped?_judgeBytes (config : ScanConfig) (name path : String) (bytes : ByteArray) :
    (judgeBytes config name path bytes).skipped? =
      (config.firstFailure? bytes).map (SkippedFile.mk path) := by
  rw [firstFailure?_eq]
  unfold judgeBytes ScanConfig.judge
  split
  · rfl
  · split
    · rfl
    · cases decode? bytes <;> rfl

theorem isSome_file?_judgeBytes (config : ScanConfig) (name path : String) (bytes : ByteArray) :
    (judgeBytes config name path bytes).file?.isSome = (config.firstFailure? bytes).isNone := by
  rw [← Option.isNone_map, ← skipped?_judgeBytes config name path bytes]
  cases judgeBytes config name path bytes <;> rfl

end Walk

namespace Verdict

variable {verdict : Verdict}

theorem path_of_file? {file : SourceFile} (kept : verdict.file? = some file) :
    file.path = verdict.path := by
  cases verdict with
  | kept record => exact congrArg SourceFile.path (Option.some.inj kept).symm
  | skipped record => simp [file?] at kept

theorem path_of_skipped? {file : SkippedFile} (skipped : verdict.skipped? = some file) :
    file.path = verdict.path := by
  cases verdict with
  | kept record => simp [skipped?] at skipped
  | skipped record => exact congrArg SkippedFile.path (Option.some.inj skipped).symm

end Verdict

theorem ComponentsIncrease.nodup {paths : List String} (increase : ComponentsIncrease paths) :
    paths.Nodup := by
  refine increase.imp fun less same => ?_
  exact lt_irrefl _ (same ▸ less)

namespace ScanResult

variable {root : Option String} {verdicts : List Verdict} {verdict : Verdict} {path : String}

/-- A list made of parts of the verdicts holds a part of a path only from the verdict on it. -/
theorem part_of_path {α : Type} {part? : Verdict → Option α} {pathOf : α → String}
    (samePath : ∀ verdict entry, part? verdict = some entry → pathOf entry = verdict.path)
    (distinct : (verdicts.map (·.path)).Nodup) (judged : verdict ∈ verdicts) {entry : α}
    (same : pathOf entry = verdict.path) :
    entry ∈ verdicts.filterMap part? ↔ part? verdict = some entry := by
  rw [List.mem_filterMap]
  constructor
  · rintro ⟨other, member, part⟩
    have alike : other.path = verdict.path := (samePath other entry part).symm.trans same
    rwa [← List.inj_on_of_nodup_map distinct member judged alike]
  · intro part
    exact ⟨verdict, judged, part⟩

theorem exists_kept_iff (distinct : (verdicts.map (·.path)).Nodup) (judged : verdict ∈ verdicts)
    (on : verdict.path = path) :
    (∃ file ∈ (ofVerdicts root verdicts).files, file.path = path) ↔
      verdict.file?.isSome = true := by
  subst on
  rw [Option.isSome_iff_exists]
  constructor
  · rintro ⟨file, member, same⟩
    exact ⟨file, (part_of_path (fun _ _ => Verdict.path_of_file?) distinct judged same).mp member⟩
  · rintro ⟨file, kept⟩
    have same := Verdict.path_of_file? kept
    exact ⟨file, (part_of_path (fun _ _ => Verdict.path_of_file?) distinct judged same).mpr kept,
      same⟩

theorem mem_skipped_iff (distinct : (verdicts.map (·.path)).Nodup) (judged : verdict ∈ verdicts)
    (on : verdict.path = path) {reason : SkipReason} :
    ⟨path, reason⟩ ∈ (ofVerdicts root verdicts).skipped ↔
      verdict.skipped? = some ⟨path, reason⟩ :=
  part_of_path (fun _ _ => Verdict.path_of_skipped?) distinct judged on.symm

end ScanResult

namespace FileSystem

variable {fs : FileSystem} {config : ScanConfig} {root : List String}

theorem HoldsBytes.unique {path : List String} {bytes other : ByteArray}
    (holds : fs.HoldsBytes root path bytes) (holdsOther : fs.HoldsBytes root path other) :
    bytes = other := by
  obtain ⟨entry, found, leads⟩ := holds
  obtain ⟨again, foundAgain, leadsOther⟩ := holdsOther
  obtain rfl := Option.some.inj (found.symm.trans foundAgain)
  exact Walk.Target.file.inj (Except.ok.inj (leads.symm.trans leadsOther))

/-- A scan has one verdict on a path, and on a file that it visits the one that its bytes call
for. -/
theorem exists_verdicts (config : ScanConfig) (root : List String) (wellFormed : fs.root.IsTree) :
    ∃ verdicts, fs.scan config root =
        .ofVerdicts (some (PathText.absolute root).toString) verdicts ∧
      (verdicts.map (·.path)).Nodup ∧
      ∀ directory name bytes, config.Reports directory name →
        fs.HoldsBytes root (directory ++ [name]) bytes →
        Walk.judgeBytes config name (Text.join "/" (directory ++ [name])) bytes ∈ verdicts := by
  obtain ⟨tree, treeBelow, below, scanned⟩ := exists_scanned config root wellFormed
  refine ⟨_, scanned,
    (Walk.verdict_paths_increase config (fs.followBelow root) treeBelow).nodup, ?_⟩
  rintro directory name bytes reports ⟨entry, found, leads⟩
  rw [below _ (by simp)] at found
  have noFolder : entry.isFolder = false := by
    cases entry <;> simp_all [Walk.behind, Entry.isFolder]
  have listed := (Listing.mem_sorted_leaves_iff treeBelow).mpr ⟨found, noFolder⟩
  have reached := ScanConfig.reaches_iff_reports.mpr reports
  refine List.mem_filterMap.mpr ⟨_, listed, ?_⟩
  simp only [Walk.verdictOn?, reached, if_true, List.nil_append, List.getLast?_concat,
    Option.getD_some, leads, Walk.judgeLink]

theorem wellFormed_of_mem_scan (wellFormed : fs.root.IsTree) {file : SourceFile}
    (kept : file ∈ (fs.scan config root).files) :
    file.WellFormed config ∧
      fs.HoldsBytes root (Text.splitAt '/' file.path) file.content.toUTF8 := by
  obtain ⟨directory, name, content, keeps, rfl⟩ := (mem_scan_files_iff wellFormed).mp kept
  have named := keeps.isFileName wellFormed
  have parts : Text.splitAt '/' (Text.join "/" (directory ++ [name])) = directory ++ [name] :=
    Text.splitAt_join (by simp) fun part member => (named part member).noSlash
  constructor
  · exact {
      hasPath := Text.join_ne_empty (by simp) fun part member => (named part member).nonempty
      lastOfPath := by rw [SourceFile.recordOf, parts, List.getLast?_concat]
      languageOfName := by rw [SourceFile.recordOf]
      nonempty := Nat.pos_of_ne_zero keeps.nonempty
      withinLimit := keeps.withinLimit
      sizeOfText := by rw [SourceFile.recordOf] }
  · rw [SourceFile.recordOf, parts]
    exact keeps.found

end FileSystem

theorem wellFormed_of_judge {config : ScanConfig} {name path content : String} {file : SourceFile}
    (hasPath : path ≠ "") (last : (Text.splitAt '/' path).getLast? = some name)
    (allowed : config.allows name = true)
    (kept : (config.judge name path content.utf8ByteSize (some content)).file? = some file) :
    file.WellFormed config := by
  obtain ⟨nonempty, withinLimit, _, same, rfl⟩ := ScanConfig.judge_file?.mp kept
  obtain rfl := Option.some.inj same
  exact {
    hasPath := hasPath
    lastOfPath := last
    languageOfName := by dsimp only; exact ScanConfig.ofEnding_smallEnding allowed
    nonempty := Nat.pos_of_ne_zero nonempty
    withinLimit := withinLimit
    sizeOfText := by rw [String.toUTF8_eq_toByteArray, String.size_toByteArray] }

theorem wellFormed_of_mem_materialize {config : ScanConfig}
    {records : List (String × Text.Points)} {scan : ScanResult} {file : SourceFile}
    (ended : materialize config records = .ok scan) (kept : file ∈ scan.files) :
    file.WellFormed config := by
  obtain ⟨_, rfl⟩ := materialize_eq_ok_iff.mp ended
  obtain ⟨verdict, judged, isKept⟩ := List.mem_filterMap.mp kept
  obtain ⟨⟨raw, content⟩, _, verdictOn⟩ := List.mem_filterMap.mp judged
  obtain ⟨candidate, rfl⟩ := Upload.verdict?_eq_some_iff.mp verdictOn
  obtain ⟨hasPath, _, admitted⟩ := Upload.isCandidate_iff.mp candidate
  rw [ScanConfig.admits, Bool.and_eq_true] at admitted
  exact wellFormed_of_judge hasPath (getLast?_splitAt _) admitted.1 isKept

/-- Every record goes with its path and its text, the text of a file in a tree is that of its bytes,
and a file that a scan visits is kept if it stands every test and is otherwise skipped for the first
one that it fails. -/
theorem records_match_files (config : ScanConfig) :
    (∀ records scan, materialize config records = .ok scan →
      ∀ file ∈ scan.files, file.WellFormed config) ∧
    ∀ (fs : FileSystem) (root : List String), fs.root.IsTree →
      (∀ file ∈ (fs.scan config root).files, file.WellFormed config ∧
        ∀ bytes, fs.HoldsBytes root (Text.splitAt '/' file.path) bytes ↔
          bytes = file.content.toUTF8) ∧
      ∀ directory name bytes, config.Reports directory name →
        fs.HoldsBytes root (directory ++ [name]) bytes →
        ((∃ file ∈ (fs.scan config root).files,
            file.path = Text.join "/" (directory ++ [name])) ↔
          config.firstFailure? bytes = none) ∧
        ∀ reason, ⟨Text.join "/" (directory ++ [name]), reason⟩ ∈ (fs.scan config root).skipped ↔
          config.firstFailure? bytes = some reason := by
  refine ⟨fun records scan ended file kept => wellFormed_of_mem_materialize ended kept,
    fun fs root wellFormed => ⟨fun file kept => ?_, ?_⟩⟩
  · obtain ⟨recorded, holds⟩ := FileSystem.wellFormed_of_mem_scan wellFormed kept
    exact ⟨recorded, fun bytes => ⟨fun found => found.unique holds, fun same => same ▸ holds⟩⟩
  · intro directory name bytes reports holds
    obtain ⟨verdicts, scanned, distinct, judgedIn⟩ :=
      FileSystem.exists_verdicts config root wellFormed
    have judged := judgedIn directory name bytes reports holds
    have on := ScanConfig.judge_path config name (Text.join "/" (directory ++ [name])) bytes.size
      (Walk.decode? bytes)
    rw [scanned, ScanResult.exists_kept_iff distinct judged on, Walk.isSome_file?_judgeBytes,
      Option.isNone_iff_eq_none]
    refine ⟨Iff.rfl, fun reason => ?_⟩
    rw [ScanResult.mem_skipped_iff distinct judged on, Walk.skipped?_judgeBytes]
    simp

def overlongBytes : ByteArray := ⟨#[0xE0, 0x83, 0xA9]⟩

/-- A text with a character of two bytes and a link to it, a text that is too long, one with a zero
in it, and bytes that are no text. -/
def oddListing : Listing :=
  .file "Main.PY" "é = 1".toUTF8 <|
  .link "again.py" "Main.PY" <|
  .file "long.py" "name = 1".toUTF8 <|
  .file "overlong.py" overlongBytes <|
  .file "zero.py" ⟨#[120, 0]⟩ .empty

/-- The premises are met there: two records go with one file, and the bytes that are no text are
skipped for the last test. -/
theorem odd_records_match_files :
    let fs : FileSystem := ⟨.folder "repo" oddListing .empty, [], "/", fun _ => 4096⟩
    let config : ScanConfig := { maxFileSize := 6 }
    (fs.scan config ["repo"]).files =
      [⟨"Main.PY", "Main.PY", "é = 1", "python", 6⟩,
        ⟨"again.py", "again.py", "é = 1", "python", 6⟩] ∧
    (∀ file ∈ (fs.scan config ["repo"]).files, file.WellFormed config ∧
      ∀ bytes, fs.HoldsBytes ["repo"] (Text.splitAt '/' file.path) bytes ↔
        bytes = file.content.toUTF8) ∧
    fs.HoldsBytes ["repo"] ["overlong.py"] overlongBytes ∧
    config.firstFailure? overlongBytes = some .notText ∧
    ⟨"overlong.py", .notText⟩ ∈ (fs.scan config ["repo"]).skipped := by
  intro fs config
  have wellFormed : fs.root.IsTree := by decide +kernel
  have files : (fs.scan config ["repo"]).files =
      [⟨"Main.PY", "Main.PY", "é = 1", "python", 6⟩,
        ⟨"again.py", "again.py", "é = 1", "python", 6⟩] := by decide +kernel
  have holds : fs.HoldsBytes ["repo"] ["overlong.py"] overlongBytes := ⟨_, rfl, rfl⟩
  have visited : config.reaches [] ([] ++ ["overlong.py"]) = true := by decide +kernel
  have fails : config.firstFailure? overlongBytes = some .notText := by decide +kernel
  obtain ⟨kept, judged⟩ := (records_match_files config).2 fs ["repo"] wellFormed
  obtain ⟨_, skipped⟩ :=
    judged [] "overlong.py" overlongBytes (ScanConfig.reaches_iff_reports.mp visited) holds
  exact ⟨files, kept, holds, fails, (skipped .notText).mpr fails⟩

end Downstream
