import Downstream.Proofs.Scan.Kept
import Downstream.Proofs.Scan.Upload
import Downstream.Workspace

/-!
Stricter filters keep fewer files. A directory that the wider settings prune is pruned by the
narrower ones too, and so is a file that they leave out; so by induction on the tree, whatever the
narrower scan keeps the wider one keeps as well, as the same record and in the same order.
-/
namespace Downstream

structure ScanConfig.Narrows (narrow wide : ScanConfig) : Prop where
  excludePaths : wide.excludePaths ⊆ narrow.excludePaths
  includeConfigFiles : narrow.includeConfigFiles = true → wide.includeConfigFiles = true
  maxFileSize : narrow.maxFileSize ≤ wide.maxFileSize

namespace ScanConfig.Narrows

variable {narrow wide : ScanConfig} {name path : String}

theorem excluded (narrows : narrow.Narrows wide) {isDirectory : Bool}
    (excludes : excluded wide.rules path isDirectory = true) :
    Downstream.excluded narrow.rules path isDirectory = true := by
  obtain ⟨rule, inRules, matched⟩ := List.any_eq_true.mp excludes
  obtain ⟨line, inLines, read⟩ := List.mem_filterMap.mp inRules
  exact List.any_eq_true.mpr
    ⟨rule, List.mem_filterMap.mpr ⟨line, narrows.excludePaths inLines, read⟩, matched⟩

theorem prunes (narrows : narrow.Narrows wide) (pruned : wide.prunes name path = true) :
    narrow.prunes name path = true := by
  rw [ScanConfig.prunes, Bool.or_eq_true] at pruned ⊢
  exact pruned.imp_right narrows.excluded

theorem allows (narrows : narrow.Narrows wide) (allowed : narrow.allows name = true) :
    wide.allows name = true := by
  simp only [ScanConfig.allows, Bool.or_eq_true, Bool.and_eq_true] at allowed ⊢
  exact allowed.imp_right fun config => ⟨narrows.includeConfigFiles config.1, config.2⟩

theorem admits (narrows : narrow.Narrows wide) (admitted : narrow.admits name path = true) :
    wide.admits name path = true := by
  rw [ScanConfig.admits, Bool.and_eq_true, Bool.not_eq_true', ← Bool.not_eq_true] at admitted ⊢
  exact ⟨narrows.allows admitted.1, mt narrows.excluded admitted.2⟩

theorem judge (narrows : narrow.Narrows wide) {size : Nat} {content? : Option String}
    {file : SourceFile} (kept : (narrow.judge name path size content?).file? = some file) :
    (wide.judge name path size content?).file? = some file := by
  have limits := narrows.maxFileSize
  unfold ScanConfig.judge at kept ⊢
  split at kept
  · simp [Verdict.file?] at kept
  · split at kept
    · simp [Verdict.file?] at kept
    · rename_i nonempty within
      rw [if_neg nonempty, if_neg (by omega)]
      exact kept

theorem judgeLink (narrows : narrow.Narrows wide) {destination : Except FileProblem Walk.Target}
    {file : SourceFile}
    (kept : (Walk.judgeLink narrow name path destination).file? = some file) :
    (Walk.judgeLink wide name path destination).file? = some file := by
  rw [Walk.judgeLink_file?] at kept ⊢
  obtain ⟨bytes, found, kept⟩ := kept
  exact ⟨bytes, found, narrows.judge kept⟩

end ScanConfig.Narrows

def Verdict.files (verdicts : List Verdict) : List SourceFile :=
  verdicts.filterMap (·.file?)

namespace Walk

variable {narrow wide : ScanConfig} {name path : String}

theorem candidate_sublist (narrows : narrow.Narrows wide) {judged judgedWide : Verdict}
    {others othersWide : List Verdict}
    (kept : ∀ file, judged.file? = some file → judgedWide.file? = some file)
    (later : (Verdict.files others).Sublist (Verdict.files othersWide)) :
    (Verdict.files (if narrow.admits name path then judged :: others else others)).Sublist
      (Verdict.files
        (if wide.admits name path then judgedWide :: othersWide else othersWide)) := by
  have more (first : Verdict) (rest : List Verdict) :
      (Verdict.files rest).Sublist (Verdict.files (first :: rest)) :=
    (List.sublist_cons_self first rest).filterMap _
  by_cases admitted : narrow.admits name path = true
  · rw [if_pos admitted, if_pos (narrows.admits admitted)]
    cases here : judged.file? with
    | none =>
      have dropped : Verdict.files (judged :: others) = Verdict.files others :=
        List.filterMap_cons_none here
      rw [dropped]
      exact later.trans (more judgedWide othersWide)
    | some file =>
      simp only [Verdict.files, List.filterMap_cons_some here,
        List.filterMap_cons_some (kept file here)]
      exact later.cons_cons file
  · rw [if_neg admitted]
    split
    · exact later.trans (more judgedWide othersWide)
    · exact later

theorem verdicts_sublist (narrows : narrow.Narrows wide)
    (follow : String → Except FileProblem Target) (directory : String) (listing : Listing) :
    (Verdict.files (verdicts narrow follow directory listing)).Sublist
      (Verdict.files (verdicts wide follow directory listing)) := by
  induction listing generalizing directory with
  | empty => exact List.Sublist.refl _
  | file name bytes rest ih =>
    simp only [verdicts, judgeBytes]
    exact candidate_sublist narrows (fun _ kept => narrows.judge kept) (ih directory)
  | link name target rest ih =>
    simp only [verdicts]
    exact candidate_sublist narrows (fun _ kept => narrows.judgeLink kept) (ih directory)
  | folder name inside rest within later =>
    simp only [verdicts]
    by_cases pruned : wide.prunes name (childPath directory name) = true
    · rw [if_pos pruned, if_pos (narrows.prunes pruned)]
      exact later directory
    · rw [if_neg pruned, Verdict.files, Verdict.files, List.filterMap_append]
      split
      · exact (later directory).trans (List.sublist_append_right _ _)
      · rw [List.filterMap_append]
        exact (within _).append (later directory)

end Walk

namespace Upload

theorem isCandidate_narrows {narrow wide : ScanConfig} (narrows : narrow.Narrows wide)
    {path : String} (candidate : isCandidate narrow path = true) :
    isCandidate wide path = true := by
  rw [isCandidate_iff] at candidate ⊢
  obtain ⟨notEmpty, notIgnored, admitted⟩ := candidate
  exact ⟨notEmpty, notIgnored, narrows.admits admitted⟩

theorem HoldsHalf.widens {narrow wide : ScanConfig} (narrows : narrow.Narrows wide)
    {records : List (String × Text.Points)} (holds : HoldsHalf narrow records) :
    HoldsHalf wide records := by
  obtain ⟨record, member, candidate, half⟩ := holds
  exact ⟨record, member, isCandidate_narrows narrows candidate, half⟩

theorem verdict?_narrows {narrow wide : ScanConfig} (narrows : narrow.Narrows wide)
    {path content : String} {file : SourceFile}
    (kept : (verdict? narrow path content).bind (·.file?) = some file) :
    (verdict? wide path content).bind (·.file?) = some file := by
  obtain ⟨verdict, judged, isKept⟩ := Option.bind_eq_some_iff.mp kept
  obtain ⟨candidate, rfl⟩ := verdict?_eq_some_iff.mp judged
  exact Option.bind_eq_some_iff.mpr
    ⟨_, verdict?_eq_some_iff.mpr ⟨isCandidate_narrows narrows candidate, rfl⟩, narrows.judge isKept⟩

end Upload

theorem filterMap_sublist_filterMap {α β : Type} {part? whole? : α → Option β}
    (agrees : ∀ a b, part? a = some b → whole? a = some b) (items : List α) :
    (items.filterMap part?).Sublist (items.filterMap whole?) := by
  induction items with
  | nil => exact List.Sublist.refl _
  | cons item items ih =>
    cases here : part? item with
    | none =>
      rw [List.filterMap_cons_none here]
      exact ih.trans ((List.sublist_cons_self item items).filterMap _)
    | some value =>
      rw [List.filterMap_cons_some here, List.filterMap_cons_some (agrees item value here)]
      exact ih.cons_cons value

theorem FileSystem.scan_files_sublist {narrow wide : ScanConfig} (narrows : narrow.Narrows wide)
    (fs : FileSystem) (root : List String) :
    (fs.scan narrow root).files.Sublist (fs.scan wide root).files :=
  Walk.verdicts_sublist narrows (fs.followBelow root) "" _

theorem Upload.scan_files_sublist {narrow wide : ScanConfig} (narrows : narrow.Narrows wide)
    (texts : List (String × String)) :
    (Upload.scan narrow texts).files.Sublist (Upload.scan wide texts).files := by
  simp only [Upload.scan, ScanResult.ofVerdicts, List.filterMap_filterMap]
  exact filterMap_sublist_filterMap (fun record file => Upload.verdict?_narrows narrows) texts

/-- What a scan keeps under narrower settings it keeps under wider ones: the same files in the same
order, and perhaps more between them. A directory that cannot be scanned is refused either way. An
upload is refused by settings under which a candidate holds a half, so if the wider ones let it
pass, the narrower ones do. -/
theorem narrower_scan_keeps_sublist {narrow wide : ScanConfig} (narrows : narrow.Narrows wide) :
    (∀ (ws : Workspace) path,
      (∃ failure, (ws.scan narrow path).1 = .error failure ∧
        (ws.scan wide path).1 = .error failure) ∨
      ∃ few many, (ws.scan narrow path).1 = .ok few ∧ (ws.scan wide path).1 = .ok many ∧
        few.files.Sublist many.files) ∧
    ∀ records,
      (∀ many, materialize wide records = .ok many →
        ∃ few, materialize narrow records = .ok few ∧ few.files.Sublist many.files) ∧
      ∀ config, (∃ halves, materialize config records = .error halves) ↔
        Upload.HoldsHalf config records := by
  constructor
  · intro ws path
    simp only [Workspace.scan]
    cases ws.fs.rootAt path with
    | error failure => exact Or.inl ⟨failure, rfl, rfl⟩
    | ok root => exact Or.inr ⟨_, _, rfl, rfl, FileSystem.scan_files_sublist narrows ws.fs root⟩
  · refine fun records => ⟨fun many ended => ?_, fun config => exists_materialize_error_iff⟩
    obtain ⟨plain, rfl⟩ := materialize_eq_ok_iff.mp ended
    have plainNarrow : ¬ Upload.HoldsHalf narrow records := fun holds => plain (holds.widens narrows)
    exact ⟨_, materialize_eq_ok_iff.mpr ⟨plainNarrow, rfl⟩, Upload.scan_files_sublist narrows _⟩

def narrowFilters : ScanConfig := { excludePaths := ["old/", "/a/deep"], maxFileSize := 6 }

def wideFilters : ScanConfig := { excludePaths := ["old/"], includeConfigFiles := true }

def filteredListing : Listing :=
  .folder "a"
    (.file "x.py" "x = 1".toUTF8 <|
     .folder "deep" (.file "y.py" "y = 2".toUTF8 .empty) <|
     .file "long.py" "name = 1".toUTF8 .empty) <|
  .file "setup.yml" "a: 1".toUTF8 <|
  .file "z.py" "z = 3".toUTF8 .empty

/-- The premise is met by these settings: each of the three filters takes one file out of the walk,
and the others stay in their order. -/
theorem narrow_filters_keep_two_files :
    let ws : Workspace :=
      { fs := ⟨.folder "repo" filteredListing .empty, [], "/", fun _ => 4096⟩, time := "" }
    let paths (config : ScanConfig) :=
      (ws.scan config "/repo").1.toOption.map fun scan => scan.files.map (·.path)
    narrowFilters.Narrows wideFilters ∧
    paths narrowFilters = some ["a/x.py", "z.py"] ∧
    paths wideFilters = some ["a/deep/y.py", "a/long.py", "a/x.py", "setup.yml", "z.py"] ∧
    ∃ few many, (ws.scan narrowFilters "/repo").1 = .ok few ∧
      (ws.scan wideFilters "/repo").1 = .ok many ∧ few.files.Sublist many.files := by
  intro ws paths
  have narrows : narrowFilters.Narrows wideFilters := ⟨by decide, by decide, by decide⟩
  have kept : paths narrowFilters = some ["a/x.py", "z.py"] := by decide +kernel
  have all : paths wideFilters = some ["a/deep/y.py", "a/long.py", "a/x.py", "setup.yml", "z.py"] :=
    by decide +kernel
  refine ⟨narrows, kept, all, ?_⟩
  rcases (narrower_scan_keeps_sublist narrows).1 ws "/repo" with ⟨failure, failed, _⟩ | kept_both
  · simp [paths, failed, Except.toOption] at kept
  · exact kept_both

/-- The wider settings look at a file that the narrower ones leave out. The half in it leaves them
with no scan at all. -/
theorem half_refused_by_wider_filters :
    let narrow : ScanConfig := { excludePaths := ["a.py"] }
    let records : List (String × Text.Points) := [("a.py", [.half 0]), ("b.py", .ofString "x")]
    narrow.Narrows {} ∧
    (∃ few, materialize narrow records = .ok few ∧ few.files.map (·.path) = ["b.py"]) ∧
    ¬ ∃ few many, materialize narrow records = .ok few ∧ materialize {} records = .ok many ∧
      few.files.Sublist many.files := by
  intro narrow records
  have narrows : narrow.Narrows {} := ⟨by decide, by decide, by decide⟩
  have plain : ¬ Upload.HoldsHalf narrow records := by decide +kernel
  have holds : Upload.HoldsHalf {} records := by decide +kernel
  refine ⟨narrows, ⟨_, materialize_eq_ok_iff.mpr ⟨plain, rfl⟩, by decide +kernel⟩, ?_⟩
  rintro ⟨_, many, _, scanned, _⟩
  exact (materialize_eq_ok_iff.mp scanned).1 holds

end Downstream
