import Downstream.Proofs.Analysis.Run
import Downstream.Proofs.Scan.Kept

/-!
Files that a scan ignores or skips have no say in an analysis. Everything behind the scan works on
the files kept, so two trees that agree on those end alike; what a skipped file leaves behind is one
warning, and an outcome holds no other warnings.
-/
namespace Downstream

structure Outcome.SameFindings (outcome other : Outcome) : Prop where
  analysis : outcome.analysis = other.analysis
  filesScanned : outcome.filesScanned = other.filesScanned
  keyFiles : outcome.keyFiles = other.keyFiles
  language : outcome.language = other.language

def SkippedFile.warning (file : SkippedFile) : Event :=
  ⟨.warning, "Skipped " ++ file.path ++ ": " ++ file.reason.message⟩

def Note.Quiet (note : Note) : Prop :=
  ∀ event, note.event? = some event → event.severity ≠ .warning

def Event.warnings (events : List Event) : List Event :=
  events.filter (·.severity = .warning)

namespace Analysis

inductive EndInert : Except Failure Outcome → Except Failure Outcome → Prop where
  | empty (skipped otherSkipped : Nat) :
      EndInert (.error (.noCodeFiles skipped)) (.error (.noCodeFiles otherSkipped))
  | failed (failure : Failure) : EndInert (.error failure) (.error failure)
  | ended {outcome other : Outcome} (same : outcome.SameFindings other) :
      EndInert (.ok outcome) (.ok other)

theorem ofScan_endInert {plugins : List Plugin} {config : Config} {request : AnalysisRequest}
    {before otherBefore : List Note} {scan other : ScanResult} (files : scan.files = other.files) :
    EndInert (ofScan plugins config request before scan).result
      (ofScan plugins config request otherBefore other).result := by
  by_cases empty : other.files.isEmpty = true
  · simp only [ofScan, ScanResult.require, files, if_pos empty]
    exact .empty scan.skipped.length other.skipped.length
  · simp only [ofScan, ScanResult.require, files, if_neg empty]
    cases selector plugins config request.selector with
    | error failure => exact .failed failure
    | ok chosen =>
      refine .ended ⟨?_, ?_, ?_, ?_⟩
      · rfl
      · exact congrArg List.length files
      · rfl
      · simp only [outcome, files]

def eventsOf (notes : List Note) : List Event :=
  notes.filterMap (·.event?)

theorem warnings_append (notes more : List Note) :
    Event.warnings (eventsOf (notes ++ more)) =
      Event.warnings (eventsOf notes) ++ Event.warnings (eventsOf more) := by
  rw [eventsOf, List.filterMap_append, Event.warnings, List.filter_append]
  rfl

theorem warnings_of_quiet {notes : List Note} (quiet : ∀ note ∈ notes, note.Quiet) :
    Event.warnings (eventsOf notes) = [] := by
  refine List.filter_eq_nil_iff.mpr fun event member => ?_
  obtain ⟨note, inNotes, recorded⟩ := List.mem_filterMap.mp member
  simpa using quiet note inNotes event recorded

theorem quiet_logged (source : String) (severity : Severity) (message : String) :
    (Note.logged source severity message).Quiet := by
  intro event recorded
  simp [Note.event?] at recorded

theorem quiet_step {severity : Severity} (mild : severity ≠ .warning) (message : String) :
    (Findings.step severity message).Quiet := by
  intro event recorded
  rw [← Option.some.inj recorded]
  exact mild

theorem warnings_skipEvents (scan : ScanResult) :
    Event.warnings (eventsOf (skipEvents scan)) = scan.skipped.map (·.warning) := by
  have recorded : eventsOf (skipEvents scan) = scan.skipped.map (·.warning) := by
    rw [eventsOf, skipEvents, List.filterMap_map]
    exact congrFun List.filterMap_eq_map scan.skipped
  rw [recorded]
  refine List.filter_eq_self.mpr fun event member => ?_
  obtain ⟨file, _, rfl⟩ := List.mem_map.mp member
  rfl

theorem quiet_scan (root : List String) (scan : ScanResult) :
    ∀ note ∈ scanStart root :: scanNotes root scan, note.Quiet := by
  intro note member
  simp only [scanNotes, skipRecords, List.mem_cons, List.mem_append, List.mem_map,
    List.not_mem_nil, or_false] at member
  rcases member with rfl | ⟨file, _, rfl⟩ | rfl
  · exact quiet_step (by decide) _
  · exact quiet_logged _ _ _
  · exact quiet_logged _ _ _

theorem quiet_openingNotes (name : String) (files : List SourceFile) :
    ∀ note ∈ openingNotes name files, note.Quiet := by
  intro note member
  simp only [openingNotes, List.mem_cons, List.not_mem_nil, or_false] at member
  rcases member with rfl | rfl
  · exact quiet_step (by decide) _
  · exact quiet_step (by decide) _

theorem quiet_findings (f : Findings) : ∀ note ∈ f.notes, note.Quiet := by
  intro note member
  simp only [Findings.notes, List.mem_cons, List.mem_append, List.not_mem_nil, or_false,
    or_assoc] at member
  rcases member with rfl | inMatches | rfl | inDiscarded | rfl
  · exact quiet_step (by decide) _
  · obtain ⟨⟨file, found⟩, _, inFile⟩ := List.mem_flatMap.mp inMatches
    obtain ⟨⟨idiom, candidates⟩, _, noted⟩ := List.mem_filterMap.mp inFile
    dsimp only at noted
    split at noted
    · simp at noted
    · rw [← Option.some.inj noted]
      exact quiet_logged _ _ _
  · exact quiet_step (by decide) _
  · obtain ⟨candidate, _, rfl⟩ := List.mem_map.mp inDiscarded
    exact quiet_logged _ _ _
  · exact quiet_step (by decide) _

theorem warnings_ofScan {plugins : List Plugin} {config : Config} {request : AnalysisRequest}
    {before : List Note} {scan : ScanResult} (quiet : ∀ note ∈ before, note.Quiet) :
    Event.warnings (eventsOf (ofScan plugins config request before scan).notes) =
      scan.skipped.map (·.warning) := by
  have opening : Event.warnings (eventsOf (before ++ skipEvents scan)) =
      scan.skipped.map (·.warning) := by
    rw [warnings_append, warnings_of_quiet quiet, warnings_skipEvents, List.nil_append]
  simp only [ofScan]
  split
  · exact opening
  · have named := warnings_of_quiet
      (quiet_openingNotes (serviceName config request scan.files) scan.files)
    split
    · rw [warnings_append, opening, named, List.append_nil]
    · rw [warnings_append, warnings_append, opening, named, warnings_of_quiet (quiet_findings _),
        List.append_nil, List.append_nil]

theorem ofScan_records {plugins : List Plugin} {config : Config} {request : AnalysisRequest}
    {before : List Note} {scan : ScanResult} {outcome : Outcome}
    (ended : (ofScan plugins config request before scan).result = .ok outcome) :
    outcome.skipped = scan.skipped ∧
      outcome.events = eventsOf (ofScan plugins config request before scan).notes := by
  simp only [ofScan] at ended ⊢
  split at ended
  · simp at ended
  · split at ended
    · simp at ended
    · obtain rfl := Except.ok.inj ended
      exact ⟨rfl, rfl⟩

end Analysis

namespace Workspace

/-- The analysis of a scanned directory warns of each file that the scan skips, once and in order,
and of nothing else; so does its outcome if it ends well. -/
structure WarnsOfSkipped (ws : Workspace) (config : Config) (request : AnalysisRequest)
    (path : String) (root : List String) : Prop where
  noted : Event.warnings
      (Analysis.eventsOf
        (Analysis.ofRoot ws.plugins (ws.scanned root) config request root).notes) =
    ((ws.scanned root).scan config.scan root).skipped.map (·.warning)
  ended : ∀ outcome, (ws.analyze { request with config := some config } path).1 = .ok outcome →
    outcome.skipped = ((ws.scanned root).scan config.scan root).skipped ∧
    Event.warnings outcome.events = outcome.skipped.map (·.warning)

theorem analyze_rooted {ws : Workspace} {path : String} {root : List String}
    (rooted : ws.fs.rootAt path = .ok root) (config : Config) (request : AnalysisRequest) :
    (ws.analyze { request with config := some config } path).1 =
      (Analysis.ofRoot ws.plugins (ws.scanned root) config { request with config := some config }
        root).result := by
  simp only [analyze, Analysis.prepare, rooted]
  rfl

theorem analyze_warnsOfSkipped {ws : Workspace} {path : String} {root : List String}
    (rooted : ws.fs.rootAt path = .ok root) (config : Config) (request : AnalysisRequest) :
    ws.WarnsOfSkipped config request path root := by
  have noted (request : AnalysisRequest) : Event.warnings
      (Analysis.eventsOf
        (Analysis.ofRoot ws.plugins (ws.scanned root) config request root).notes) =
        ((ws.scanned root).scan config.scan root).skipped.map (·.warning) :=
    Analysis.warnings_ofScan (Analysis.quiet_scan root _)
  refine ⟨noted request, fun outcome ended => ?_⟩
  rw [analyze_rooted rooted] at ended
  obtain ⟨skipped, events⟩ := Analysis.ofScan_records ended
  refine ⟨skipped, ?_⟩
  rw [events, skipped]
  exact noted _

end Workspace

/-- What a scan ignores or skips has no say in an analysis. Two directories whose files kept agree,
path by path and byte by byte, are both scanned, and their analyses end alike; and each of them
warns of the files that its own scan skipped. -/
theorem skipped_files_are_inert (config : Config) (request : AnalysisRequest)
    {ws other : Workspace} {path otherPath : String} {root otherRoot : List String}
    (samePlugins : ws.plugins = other.plugins) (rooted : ws.fs.rootAt path = .ok root)
    (otherRooted : other.fs.rootAt otherPath = .ok otherRoot)
    (wellFormed : (ws.scanned root).root.IsTree)
    (otherWellFormed : (other.scanned otherRoot).root.IsTree)
    (sameKept : ∀ directory name bytes,
      (ws.scanned root).Keeps config.scan root directory name bytes ↔
        (other.scanned otherRoot).Keeps config.scan otherRoot directory name bytes) :
    ((∃ scan, (ws.scan config.scan path).1 = .ok scan) ∧
      ∃ scan, (other.scan config.scan otherPath).1 = .ok scan) ∧
    Analysis.EndInert (ws.analyze { request with config := some config } path).1
      (other.analyze { request with config := some config } otherPath).1 ∧
    ws.WarnsOfSkipped config request path root ∧
    other.WarnsOfSkipped config request otherPath otherRoot := by
  have files := (FileSystem.scan_files_eq_iff wellFormed otherWellFormed).mpr sameKept
  refine ⟨⟨?_, ?_⟩, ?_, Workspace.analyze_warnsOfSkipped rooted config request,
    Workspace.analyze_warnsOfSkipped otherRooted config request⟩
  · simp [Workspace.scan, rooted]
  · simp [Workspace.scan, otherRooted]
  · rw [Workspace.analyze_rooted rooted, Workspace.analyze_rooted otherRooted, samePlugins]
    exact Analysis.ofScan_endInert files

def litteredTree : Workspace where
  fs := ⟨.folder "repo"
    (.folder "app"
      (.link "loop.py" "loop.py" <|
       .file "AppConfig.java" "@Bean public BillingClient billing()".toUTF8 <|
       .file "empty.py" .empty <|
       .file "binary.py" ⟨#[97, 0]⟩ .empty) <|
     .folder "node_modules" (.file "lib.java" "@Bean public SpareClient spare()".toUTF8 .empty) <|
     .file "notes.md" "SpareClient".toUTF8 .empty) .empty, [], "/", fun _ => 4096⟩
  time := ""

def sparseTree : Workspace where
  fs := ⟨.link "gone.py" "missing" <|
    .folder "app"
      (.file "AppConfig.java" "@Bean public BillingClient billing()".toUTF8 <|
       .file "latin.py" ⟨#[233]⟩ .empty) .empty, [], "/", fun _ => 4096⟩
  time := ""

/-- The premises are met by these two directories: both analyses find the one dependency, and each
warns of what it skipped. -/
theorem littered_and_sparse_trees_agree :
    let config : Config := { root := "/repo" }
    let request : AnalysisRequest := { config := some config }
    litteredTree.plugins = sparseTree.plugins ∧
    litteredTree.fs.rootAt "/repo" = .ok ["repo"] ∧ sparseTree.fs.rootAt "/" = .ok [] ∧
    (litteredTree.scanned ["repo"]).root.IsTree ∧ (sparseTree.scanned []).root.IsTree ∧
    (∀ directory name bytes,
      (litteredTree.scanned ["repo"]).Keeps config.scan ["repo"] directory name bytes ↔
        (sparseTree.scanned []).Keeps config.scan [] directory name bytes) ∧
    ((litteredTree.analyze request "/repo").1.toOption.map fun outcome =>
        (outcome.analysis.dependencies.map (·.name), outcome.skipped)) =
      some (["Billing"], [⟨"app/binary.py", .notText⟩, ⟨"app/empty.py", .emptyFile⟩,
        ⟨"app/loop.py", .unreadable .tooManyLinks⟩]) ∧
    ((sparseTree.analyze request "/").1.toOption.map (·.skipped)) =
      some [⟨"app/latin.py", .notText⟩, ⟨"gone.py", .unreadable .notFound⟩] ∧
    Analysis.EndInert (litteredTree.analyze request "/repo").1 (sparseTree.analyze request "/").1 ∧
    litteredTree.WarnsOfSkipped config request "/repo" ["repo"] ∧
    sparseTree.WarnsOfSkipped config request "/" [] := by
  intro config request
  have samePlugins : litteredTree.plugins = sparseTree.plugins := rfl
  have rooted : litteredTree.fs.rootAt "/repo" = .ok ["repo"] :=
    eq_ok_of_toOption (by decide +kernel)
  have otherRooted : sparseTree.fs.rootAt "/" = .ok [] := eq_ok_of_toOption (by decide +kernel)
  have wellFormed : (litteredTree.scanned ["repo"]).root.IsTree := by decide +kernel
  have otherWellFormed : (sparseTree.scanned []).root.IsTree := by decide +kernel
  have files : ((litteredTree.scanned ["repo"]).scan config.scan ["repo"]).files =
      ((sparseTree.scanned []).scan config.scan []).files := by decide +kernel
  have sameKept := (FileSystem.scan_files_eq_iff wellFormed otherWellFormed).mp files
  obtain ⟨_, inert⟩ := skipped_files_are_inert config request samePlugins rooted otherRooted wellFormed
    otherWellFormed sameKept
  exact ⟨samePlugins, rooted, otherRooted, wellFormed, otherWellFormed, sameKept, by decide +kernel,
    by decide +kernel, inert⟩

end Downstream
