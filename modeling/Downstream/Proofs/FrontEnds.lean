import Downstream.Proofs.Analysis.Failures
import Downstream.Proofs.Analysis.Run
import Downstream.Proofs.CommandLine.Arguments
import Downstream.Proofs.CommandLine.Run
import Downstream.Proofs.Service.Respond

/-!
The two ways to have a directory analysed, by the program and by the service. Started on the same
files, they come to the same outcome or tell of the same failure. The one thing that a failing run
may change is the file that it saves to: it is emptied before a text without bytes is met.
-/
namespace Downstream

open CommandLine (Completion Holds SavesTo ShowsReport exitStatus savingWords textGiven)
open Service (PathBody Response readBodyAs respond)

def savingRun (ws : Workspace) (path file : String) (serviceName : Option String) :
    Except Failure Completion × Workspace :=
  CommandLine.run ("analyze" :: savingWords path file serviceName) ws

def savingOptions (path file : String) (serviceName : Option String) :
    CommandLine.AnalyzeOptions :=
  { path := some path, output := some file, serviceName }

def pathAnswer (ws : Workspace) (body : String) : Response :=
  (respond Service.analyzer ⟨"POST", "/analyze", body⟩ ws).1

def resultFor (ws : Workspace) (path : String) (serviceName : Option String) :
    Except Failure Outcome :=
  (Analysis.ofPath ws.plugins ws.fs { serviceName } path).result

/-- A double dash is a path for the service alone: the program fails on it whatever the files
are. -/
theorem savingRun_dashes {ws : Workspace} (fileless : ws.log.Fileless) (file : String)
    (serviceName : Option String) : exitStatus (savingRun ws "--" file serviceName).1 = 1 := by
  have read := CommandLine.read_savingWords "--" file serviceName
  obtain ⟨start, shown, _, _, _, result, _⟩ := CommandLine.run_analyze _ fileless rfl read
  rw [savingRun, result, CommandLine.exitStatus_map]
  rfl

/-- One analysis asked of both, with a log that writes to no file. A double dash is no text for an
option of the program. -/
structure AskedOfBoth (ws : Workspace) (path file : String) (serviceName : Option String)
    (body : String) : Prop where
  fileless : ws.log.Fileless
  pathText : path ≠ "--"
  fileText : file ≠ "--"
  nameText : serviceName ≠ some "--"
  visible : Text.trim path.toList ≠ []
  saves : SavesTo ws.fs file
  reads : readBodyAs PathBody.read body = .ok ⟨path, serviceName⟩

namespace AskedOfBoth

variable {ws : Workspace} {path file body : String} {serviceName : Option String}

theorem run (asked : AskedOfBoth ws path file serviceName body) :
    ∃ (start : Workspace) (shown : String), start.fs = ws.fs ∧ start.plugins = ws.plugins ∧
      start.log.Fileless ∧
      let options := savingOptions path file serviceName
      (savingRun ws path file serviceName).1 = (CommandLine.analyze false options start).1.map
        (fun completion => { completion with errors := shown ++ completion.errors }) ∧
      (savingRun ws path file serviceName).2.fs =
        (CommandLine.analyze false options start).2.fs := by
  have name : serviceName.bind textGiven = serviceName := by
    cases serviceName with
    | none => rfl
    | some name =>
      exact CommandLine.textGiven_eq_some fun same => asked.nameText (congrArg some same)
  have read := CommandLine.read_savingWords path file serviceName
  rw [CommandLine.textGiven_eq_some asked.pathText, CommandLine.textGiven_eq_some asked.fileText,
    name] at read
  exact CommandLine.run_analyze (savingOptions path file serviceName) asked.fileless rfl read

theorem answer (asked : AskedOfBoth ws path file serviceName body) :
    pathAnswer ws body = (Response.ofResult (resultFor ws path serviceName)).written :=
  Service.respond_analyze asked.fileless asked.reads asked.visible

theorem failed (asked : AskedOfBoth ws path file serviceName body) {failure : Failure}
    (ended : resultFor ws path serviceName = .error failure) :
    exitStatus (savingRun ws path file serviceName).1 = Completion.failureStatus failure.kind ∧
      (savingRun ws path file serviceName).2.fs = ws.fs ∧
      (pathAnswer ws body).status = Response.failureStatus failure.kind := by
  have explained := Analysis.explained_ofPath ws.plugins ws.fs { serviceName } path failure ended
  obtain ⟨start, shown, sameFiles, samePlugins, fileless, result, left⟩ := asked.run
  rw [asked.answer, ended, result, left, CommandLine.exitStatus_map, ← sameFiles]
  rw [resultFor, ← sameFiles, ← samePlugins] at ended
  obtain ⟨exit, same⟩ :=
    CommandLine.analyze_failed (savingOptions path file serviceName) fileless rfl ended false
  exact ⟨exit, same, Response.status_written_ofFailure explained⟩

theorem saved (asked : AskedOfBoth ws path file serviceName body) {outcome : Outcome}
    (ended : resultFor ws path serviceName = .ok outcome)
    (plain : outcome.analysis.toJson.halves? = none) :
    (∃ completion, (savingRun ws path file serviceName).1 = .ok completion ∧
        completion.status = 0 ∧ ShowsReport completion.output (outcome.analysis.report true)) ∧
      Holds (savingRun ws path file serviceName).2.fs file outcome.analysis.toJson ∧
      pathAnswer ws body = .outcome outcome := by
  obtain ⟨start, shown, sameFiles, samePlugins, fileless, result, left⟩ := asked.run
  rw [asked.answer, ended, result, left]
  rw [resultFor, ← sameFiles, ← samePlugins] at ended
  obtain ⟨completion, ok, exit, shows, holds⟩ :=
    CommandLine.analyze_plain (savingOptions path file serviceName) fileless rfl rfl
      (sameFiles ▸ asked.saves) ended plain false
  rw [ok]
  exact ⟨⟨_, rfl, exit, shows⟩, holds, Response.written_outcome plain⟩

theorem emptied (asked : AskedOfBoth ws path file serviceName body) {outcome : Outcome}
    (ended : resultFor ws path serviceName = .ok outcome)
    (halves : outcome.analysis.toJson.halves? ≠ none) :
    exitStatus (savingRun ws path file serviceName).1 = 1 ∧
      (savingRun ws path file serviceName).2.fs.read (.ofString file) = .ok .empty ∧
      (pathAnswer ws body).status = 400 := by
  obtain ⟨start, shown, sameFiles, samePlugins, fileless, result, left⟩ := asked.run
  rw [asked.answer, ended, result, left, CommandLine.exitStatus_map]
  rw [resultFor, ← sameFiles, ← samePlugins] at ended
  obtain ⟨exit, empty⟩ :=
    CommandLine.analyze_halves (savingOptions path file serviceName) fileless rfl rfl
      (sameFiles ▸ asked.saves) ended halves false
  exact ⟨exit, empty, Response.status_written_outcome halves⟩

end AskedOfBoth

def Unwritable (analysis : Except Failure Outcome) : Prop :=
  ∃ outcome, analysis = .ok outcome ∧ outcome.analysis.toJson.halves? ≠ none

def Service.Response.member? (response : Response) (key : String) : Option Json :=
  response.json?.bind (·.get? key)

/-- What both make of one analysis of some files: what the program ended with, the files that it
left, and the answer of the service. -/
structure FrontEndsAgree (fs : FileSystem) (file : String) (analysis : Except Failure Outcome)
    (ended : Except Failure Completion) (left : FileSystem) (response : Response) : Prop where
  success : exitStatus ended = 0 ↔ response.status = 200
  sameOutcome : response.status = 200 → ∃ outcome completion,
    analysis = .ok outcome ∧ ended = .ok completion ∧
    let name := Json.str outcome.analysis.serviceName
    let dependencies := Json.arr (outcome.analysis.dependencies.map (·.toJson))
    let report := outcome.analysis.report true
    response.member? "serviceName" = some name ∧
    response.member? "dependencies" = some dependencies ∧
    response.member? "context" = some (.str report) ∧
    Holds left file (.obj [("serviceName", name), ("dependencies", dependencies)]) ∧
    ShowsReport completion.output report
  badRoot : exitStatus ended = 2 ↔ ∃ error, analysis = .error (.root error)
  badRootRefused : exitStatus ended = 2 → response.status = 400
  noFiles : exitStatus ended = 3 ↔ response.status = 404
  noFilesFound : response.status = 404 ↔ ∃ skipped, analysis = .error (.noCodeFiles skipped)
  otherwise : exitStatus ended ∉ [0, 2, 3] → exitStatus ended = 1 ∧
    (response.status = 400 ∧ ((∃ failure, analysis = .error failure ∧
        (failure.kind = .invalidConfig ∨ failure.kind = .invalidValue)) ∨ Unwritable analysis) ∨
      response.status = 500 ∧ ∃ failure, analysis = .error failure ∧ failure.kind = .other)
  untouched : exitStatus ended ≠ 0 → ¬ Unwritable analysis → left = fs
  emptied : Unwritable analysis → exitStatus ended = 1 ∧ left.read (.ofString file) = .ok .empty

section Agree

variable {fs left : FileSystem} {file : String} {ended : Except Failure Completion}
  {response : Response}

theorem agree_of_failed {failure : Failure} (explained : failure.kind ≠ .analysis)
    (exit : exitStatus ended = Completion.failureStatus failure.kind) (same : left = fs)
    (status : response.status = Response.failureStatus failure.kind) :
    FrontEndsAgree fs file (.error failure) ended left response := by
  have noOutcome : ¬ Unwritable (.error failure) := by simp [Unwritable]
  have root := @Failure.kind_eq_invalidRoot_iff failure
  have noFiles := @Failure.kind_eq_noCodeFiles_iff failure
  constructor
  case untouched => exact fun _ _ => same
  case emptied => exact fun unwritable => absurd unwritable noOutcome
  all_goals
    simp only [exit, status, Except.error.injEq, ← root, ← noFiles, exists_eq_left', noOutcome]
    revert explained
    cases failure.kind <;> simp [Completion.failureStatus, Response.failureStatus]

theorem agree_of_saved {outcome : Outcome} (plain : outcome.analysis.toJson.halves? = none)
    (ok : ∃ completion, ended = .ok completion ∧ completion.status = 0 ∧
      ShowsReport completion.output (outcome.analysis.report true))
    (holds : Holds left file outcome.analysis.toJson) (answer : response = .outcome outcome) :
    FrontEndsAgree fs file (.ok outcome) ended left response := by
  obtain ⟨completion, ok, exit, shows⟩ := ok
  have writable : ¬ Unwritable (.ok outcome) := by simp [Unwritable, plain]
  have exit : exitStatus ended = 0 := by rw [ok, exitStatus, exit]
  have status : response.status = 200 := by rw [answer]; rfl
  constructor
  case sameOutcome =>
    intro _
    rw [answer]
    exact ⟨outcome, completion, rfl, ok, rfl, rfl, rfl, holds, shows⟩
  case emptied => exact fun unwritable => absurd unwritable writable
  all_goals simp [exit, status]

theorem agree_of_emptied {outcome : Outcome} (halves : outcome.analysis.toJson.halves? ≠ none)
    (exit : exitStatus ended = 1) (empty : left.read (.ofString file) = .ok .empty)
    (status : response.status = 400) :
    FrontEndsAgree fs file (.ok outcome) ended left response := by
  have unwritable : Unwritable (.ok outcome) := ⟨outcome, rfl, halves⟩
  constructor
  case emptied => exact fun _ => ⟨exit, empty⟩
  all_goals simp [exit, status, unwritable]

end Agree

/-- The program and the service agree on every analysis that both are asked for. -/
theorem front_ends_agree (ws : Workspace) (path file : String) (serviceName : Option String)
    (body : String) (asked : AskedOfBoth ws path file serviceName body) :
    FrontEndsAgree ws.fs file (resultFor ws path serviceName)
      (savingRun ws path file serviceName).1 (savingRun ws path file serviceName).2.fs
      (pathAnswer ws body) := by
  cases ended : resultFor ws path serviceName with
  | error failure =>
    have explained := Analysis.explained_ofPath ws.plugins ws.fs { serviceName } path failure ended
    obtain ⟨exit, same, status⟩ := asked.failed ended
    exact agree_of_failed explained exit same status
  | ok outcome =>
    by_cases plain : outcome.analysis.toJson.halves? = none
    · obtain ⟨ok, holds, answer⟩ := asked.saved ended plain
      exact agree_of_saved plain ok holds answer
    · obtain ⟨exit, empty, status⟩ := asked.emptied ended plain
      exact agree_of_emptied plain exit empty status

def projectTree (config : String) : Workspace where
  fs := ⟨.file "out.json" "old".toUTF8
    (.folder "proj" (.file ".depinfer.yml" config.toUTF8 (.file "a.py" "x = 1\n".toUTF8 .empty))
      .empty), [], "/", fun _ => 4096⟩
  time := ""

def projectBody : String :=
  "\x7b\"path\":\"/proj\"\x7d"

theorem projectTree_asked (config : String) :
    AskedOfBoth (projectTree config) "/proj" "/out.json" none projectBody where
  fileless := by simp [projectTree, Log.Fileless]
  pathText := by decide
  fileText := by decide
  nameText := by decide
  visible := by decide
  saves := ⟨by decide, rfl, [], "out.json", "old".toUTF8, _, rfl, rfl, by decide⟩
  reads := eq_ok_of_toOption (by decide +kernel)

theorem billing_front_ends_agree :
    let ws := projectTree "service_name: billing\n"
    (pathAnswer ws projectBody).status = 200 ∧
      FrontEndsAgree ws.fs "/out.json" (resultFor ws "/proj" none)
        (savingRun ws "/proj" "/out.json" none).1 (savingRun ws "/proj" "/out.json" none).2.fs
        (pathAnswer ws projectBody) := by
  intro ws
  have asked := projectTree_asked "service_name: billing\n"
  have named : (resultFor ws "/proj" none).toOption.map (·.analysis) = some ⟨"billing", []⟩ := by
    decide +kernel
  obtain ⟨outcome, inResult, analysis⟩ := Option.map_eq_some_iff.mp named
  have plain : outcome.analysis.toJson.halves? = none := by
    have name : Text.halves? "billing" = none := Text.halves?_eq_none_iff.mpr (by decide)
    rw [analysis]
    simp [ServiceAnalysis.toJson, Json.halves?, Json.memberHalves?, Json.itemHalves?, name]
  obtain ⟨_, _, answer⟩ := asked.saved (eq_ok_of_toOption inResult) plain
  refine ⟨?_, front_ends_agree ws "/proj" "/out.json" none _ asked⟩
  rw [answer]
  rfl

/-- An escape in a configured name can stand for a half. The run that meets it fails, but the file
is not what it was. -/
theorem failing_run_empties_file :
    let ws := projectTree "service_name: \"caf\\udce9\"\n"
    let run := savingRun ws "/proj" "/out.json" none
    exitStatus run.1 = 1 ∧ (pathAnswer ws projectBody).status = 400 ∧
      ws.fs.read (.ofString "/out.json") = .ok "old".toUTF8 ∧
      run.2.fs.read (.ofString "/out.json") = .ok .empty := by
  intro ws run
  have asked := projectTree_asked "service_name: \"caf\\udce9\"\n"
  have named : (resultFor ws "/proj" none).toOption.map
      (·.analysis.serviceName.toList.any Text.isHalf) = some true := by
    decide +kernel
  obtain ⟨outcome, inResult, half⟩ := Option.map_eq_some_iff.mp named
  have halves : outcome.analysis.toJson.halves? ≠ none := by
    intro plain
    have noHalf := Text.noHalf_iff_any.mp (outcome.analysis.noHalf_of_toJson plain).1
    simp [half] at noHalf
  obtain ⟨exit, empty, status⟩ := asked.emptied (eq_ok_of_toOption inResult) halves
  exact ⟨exit, status, rfl, empty⟩

end Downstream
