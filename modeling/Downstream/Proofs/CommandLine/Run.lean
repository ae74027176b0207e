import Downstream.CommandLine.Run
import Downstream.Proofs.Dependency
import Downstream.Proofs.FileSystem.Write
import Downstream.Proofs.Text.Bytes
import Downstream.Proofs.Workspace

/-!
Runs of the program that analyse a directory and save what comes out: a failed analysis leaves every
file as it was, an analysis with a JSON text is saved and its report shown, and an analysis whose
text has no bytes leaves an empty file behind.
-/
namespace Downstream.CommandLine

open Text (halves?)

structure SavesTo (fs : FileSystem) (file : String) : Prop where
  named : file ≠ ""
  noNull : (PathText.ofString file).holdsNull = false
  accepts : fs.Accepts (.ofString file)

def Holds (fs : FileSystem) (file : String) (value : Json) : Prop :=
  ∃ bytes text, fs.read (.ofString file) = .ok bytes ∧ Text.decode bytes = .ok text ∧
    Json.parse text = .ok value

def ShowsReport (output report : String) : Prop :=
  ∃ front, output = front ++ unlines [rule] ++ report ++ unlines [rule]

theorem unlines_append (before after : List String) :
    unlines (before ++ after) = unlines before ++ unlines after := by
  simp [unlines]

theorem reportText_shows (analysis : ServiceAnalysis) (diagram : Bool) :
    ShowsReport (reportText analysis diagram) (analysis.report diagram) := by
  refine ⟨unlines ["", "📝 Use the following prompt to generate the diagram:"], ?_⟩
  rw [reportText, ← unlines_append]
  rfl

section Save

variable {ws : Workspace} {file : String} {analysis : ServiceAnalysis}

theorem saveAnalysis_plain (saves : SavesTo ws.fs file)
    (plain : analysis.toJson.halves? = none) :
    ∃ fs line, saveAnalysis ws analysis file = (.ok (.ok line), { ws with fs }) ∧
      Holds fs file analysis.toJson := by
  have noHalves := analysis.halves?_jsonText.mpr plain
  obtain ⟨fs, written, read⟩ := FileSystem.read_write saves.accepts
    (analysis.jsonText ++ "\n").toUTF8
  refine ⟨fs, unlines ["", "✅ Analysis results saved to: " ++ shownPath fs (.ofString file)], ?_,
    _, _, read, Text.decode_toUTF8 _, analysis.parse_jsonText (by simp [Json.isSpace])⟩
  simp only [saveAnalysis, saves.noNull, noHalves, Option.isSome_none, Bool.false_eq_true, if_false,
    written]

theorem saveAnalysis_halves (saves : SavesTo ws.fs file)
    (holds : analysis.toJson.halves? ≠ none) :
    ∃ fs halves, saveAnalysis ws analysis file = (.error (.unencodable halves), { ws with fs }) ∧
      fs.read (.ofString file) = .ok .empty := by
  obtain ⟨halves, found⟩ := Option.ne_none_iff_exists'.mp
    (mt analysis.halves?_jsonText.mp holds)
  obtain ⟨fs, written, read⟩ := FileSystem.read_write saves.accepts .empty
  refine ⟨fs, halves, ?_, read⟩
  simp only [saveAnalysis, saves.noNull, found, Option.isSome_some, Bool.false_eq_true, if_false,
    if_true, written]

end Save

section Analyze

variable {ws : Workspace} {path file : String} {outcome : Outcome} (options : AnalyzeOptions)

theorem analyze_failed (fileless : ws.log.Fileless) (given : options.path = some path)
    {failure : Failure}
    (failed : (Analysis.ofPath ws.plugins ws.fs (requestOf options) path).result = .error failure)
    (verbose : Bool) :
    exitStatus (analyze verbose options ws).1 = Completion.failureStatus failure.kind ∧
      (analyze verbose options ws).2.fs = ws.fs := by
  obtain ⟨after, same, run⟩ := Workspace.analyze_fileless fileless (requestOf options) path
  rw [failed] at run
  simp only [analyze, given, run]
  exact ⟨rfl, same.fs⟩

theorem analyze_plain (fileless : ws.log.Fileless) (given : options.path = some path)
    (output : options.output = some file) (saves : SavesTo ws.fs file)
    (ended : (Analysis.ofPath ws.plugins ws.fs (requestOf options) path).result = .ok outcome)
    (plain : outcome.analysis.toJson.halves? = none) (verbose : Bool) :
    ∃ completion, (analyze verbose options ws).1 = .ok completion ∧ completion.status = 0 ∧
      ShowsReport completion.output (outcome.analysis.report options.diagram) ∧
      Holds (analyze verbose options ws).2.fs file outcome.analysis.toJson := by
  obtain ⟨after, same, run⟩ := Workspace.analyze_fileless fileless (requestOf options) path
  rw [ended] at run
  obtain ⟨fs, line, saved, holds⟩ := saveAnalysis_plain (same.fs ▸ saves) plain
  have named : nonempty options.output = some file := by
    simp [nonempty, output, saves.named]
  obtain ⟨front, shows⟩ := reportText_shows outcome.analysis options.diagram
  simp only [analyze, given, run, conclude, named, saved, Option.getD_some]
  refine ⟨_, rfl, rfl,
    ⟨openingText path ++ (unlines (summaryLines verbose outcome) ++ line) ++ front, ?_⟩, holds⟩
  simp only [shows, String.append_assoc]

/-- An analysis whose JSON form has no bytes ends the program and leaves an empty file. -/
theorem analyze_halves (fileless : ws.log.Fileless) (given : options.path = some path)
    (output : options.output = some file) (saves : SavesTo ws.fs file)
    (ended : (Analysis.ofPath ws.plugins ws.fs (requestOf options) path).result = .ok outcome)
    (holds : outcome.analysis.toJson.halves? ≠ none) (verbose : Bool) :
    exitStatus (analyze verbose options ws).1 = 1 ∧
      (analyze verbose options ws).2.fs.read (.ofString file) = .ok .empty := by
  obtain ⟨after, same, run⟩ := Workspace.analyze_fileless fileless (requestOf options) path
  rw [ended] at run
  obtain ⟨fs, halves, saved, empty⟩ := saveAnalysis_halves (same.fs ▸ saves) holds
  have named : nonempty options.output = some file := by
    simp [nonempty, output, saves.named]
  simp only [analyze, given, run, conclude, named, saved]
  exact ⟨rfl, empty⟩

/-- A run that analyses a directory without a log file is the analysis itself, apart from what the
log has shown. -/
theorem run_analyze (fileless : ws.log.Fileless) (noLog : options.logFile = none)
    {arguments : List String} {verbose : Bool}
    (read : Invocation.read arguments = .ok ⟨verbose, .analyze options⟩) :
    ∃ (start : Workspace) (shown : String), start.fs = ws.fs ∧ start.plugins = ws.plugins ∧
      start.log.Fileless ∧
      (run arguments ws).1 = (analyze verbose options start).1.map
        (fun completion => { completion with errors := shown ++ completion.errors }) ∧
      (run arguments ws).2.fs = (analyze verbose options start).2.fs := by
  obtain ⟨log, logFileless, configured⟩ := Workspace.configureLog_fileless fileless verbose
  have noFile : logFile? (.analyze options) = none := by
    simp [logFile?, noLog, nonempty]
  refine ⟨{ ws with log, console := "" },
    (analyze verbose options { ws with log, console := "" }).2.console, rfl, rfl, logFileless, ?_⟩
  simp only [run, read, noFile, configured, carryOut]
  exact ⟨rfl, rfl⟩

theorem exitStatus_map (result : Except Failure Completion) (shown : String) :
    exitStatus (result.map fun completion =>
      { completion with errors := shown ++ completion.errors }) = exitStatus result := by
  cases result <;> rfl

end Analyze

end Downstream.CommandLine
