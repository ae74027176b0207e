import Downstream.Proofs.Dependency
import Downstream.Proofs.Failure
import Downstream.Proofs.Report
import Downstream.Proofs.Workspace
import Downstream.Service.Respond

/-!
Answers to requests that analyse a directory. An answer whose texts have bytes is written as it is;
another one gives way to a refusal, which never hides that there was nothing to analyse.
-/
namespace Downstream

open Text

namespace Service

namespace Response

theorem halves?_outcomeJson (o : Outcome) :
    (outcomeJson o).halves? = none ↔ o.analysis.toJson.halves? = none := by
  have context (plain : o.analysis.toJson.halves? = none) :
      Text.halves? (o.analysis.report true) = none := by
    obtain ⟨name, names⟩ := o.analysis.noHalf_of_toJson plain
    exact halves?_eq_none_iff.mpr (o.analysis.noHalf_report true name names)
  have parts : (outcomeJson o).halves? = none ↔
      o.analysis.toJson.halves? = none ∧ Text.halves? (o.analysis.report true) = none := by
    simp [outcomeJson, ServiceAnalysis.toJson, Json.halves?, Json.memberHalves?, and_assoc]
  rw [parts]
  exact ⟨And.left, fun plain => ⟨plain, context plain⟩⟩

theorem written_outcome {o : Outcome} (plain : o.analysis.toJson.halves? = none) :
    (outcome o).written = outcome o := by
  rw [written, (halves?_outcomeJson o).mpr plain]

theorem status_written_outcome {o : Outcome} (holds : o.analysis.toJson.halves? ≠ none) :
    (outcome o).written.status = 400 := by
  obtain ⟨halves, found⟩ := Option.ne_none_iff_exists'.mp (mt (halves?_outcomeJson o).mp holds)
  rw [written, found]
  rfl

theorem written_refused (status : Nat) {detail : String} (plain : NoHalf detail.toList) :
    (refused status detail).written = refused status detail := by
  have key : NoHalf (Json.writeString "detail") := by decide
  have marks : isHalf '\x7b' = false ∧ isHalf '\x7d' = false ∧ isHalf ':' = false := by decide
  have noHalves : Text.halves? (refused status detail).text = none := by
    rw [halves?_eq_none_iff]
    have value := Json.noHalf_writeString.mpr plain
    simp [text, json?, Json.compact, Json.compactMembers, value, key, marks]
  simp only [written, noHalves]
  rfl

theorem status_written_refused (detail : String) : (refused 400 detail).written.status = 400 := by
  simp only [written]
  split
  · rfl
  · split <;> rfl

theorem written_crashed : crashed.written = crashed := by
  have noHalves : Text.halves? crashed.text = none := halves?_eq_none_iff.mpr (by decide)
  simp only [written, noHalves]
  rfl

def failureStatus : FailureKind → Nat
  | .invalidRoot | .invalidConfig | .invalidValue => 400
  | .noCodeFiles => 404
  | .analysis | .other => 500

theorem status_written_ofFailure {failure : Failure} (explained : failure.kind ≠ .analysis) :
    (ofFailure failure).written.status = failureStatus failure.kind := by
  unfold ofFailure
  cases kind : failure.kind with
  | invalidRoot | invalidConfig | invalidValue => exact status_written_refused _
  | noCodeFiles =>
    obtain ⟨skipped, rfl⟩ := Failure.kind_eq_noCodeFiles_iff.mp kind
    rw [written_refused 404 (Failure.noHalf_noCodeFiles skipped)]
    rfl
  | analysis => exact absurd kind explained
  | other =>
    rw [written_crashed]
    rfl

def ofResult : Except Failure Outcome → Response
  | .ok o => outcome o
  | .error failure => ofFailure failure

end Response

theorem respond_analyze {ws : Workspace} (fileless : ws.log.Fileless) {body path : String}
    {serviceName : Option String}
    (reads : readBodyAs PathBody.read body = .ok ⟨path, serviceName⟩)
    (visible : Text.trim path.toList ≠ []) :
    (respond analyzer ⟨"POST", "/analyze", body⟩ ws).1 =
      (Response.ofResult
        (Analysis.ofPath ws.plugins ws.fs { serviceName } path).result).written := by
  have route : Route.find? "/analyze" = some (["POST"], .analyze) := by rfl
  have allowed : (!(["POST"].contains "POST")) = false := by decide
  have shown : (Text.trim path.toList).isEmpty = false := by simpa using visible
  have logged := Workspace.emit_sameFiles fileless (record .info ("Analyzing directory " ++ path))
  obtain ⟨after, same, run⟩ :=
    Workspace.analyze_fileless (logged.log ▸ fileless) { serviceName } path
  simp only [respond, route, allowed, answerRoute, reads, answerPath, shown, analyzer, run,
    logged.fs, logged.plugins, Bool.false_eq_true, if_false]
  cases (Analysis.ofPath ws.plugins ws.fs { serviceName } path).result with
  | ok o => rfl
  | error failure => rfl

end Service

end Downstream
