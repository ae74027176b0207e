import Downstream.Proofs.Extraction
import Downstream.Workspace

/-!
What an analysis that ends well has gone through: it had files, a selector chose the key files among
them, and its dependencies are what the candidates of the key files resolve to.
-/
namespace Downstream

/-- The file system as the scan of a root finds it, once the record that the scan begins has reached
the log. -/
def Workspace.scanned (ws : Workspace) (root : List String) : FileSystem :=
  (ws.emitNotes [Analysis.scanStart root]).fs

def Workspace.uploadConfig (ws : Workspace) (request : AnalysisRequest) : Config :=
  request.config.getD { root := (PathText.absolute ws.fs.workingDirectory).toString }

theorem eq_ok_of_toOption {ε α : Type} {result : Except ε α} {value : α}
    (holds : result.toOption = some value) : result = .ok value := by
  cases result with
  | error failure => simp [Except.toOption] at holds
  | ok found => rw [Option.some.inj holds]

namespace Analysis

def dependenciesOf (config : Config) (keys : List SourceFile) : List Dependency :=
  resolve (({ workers := config.extraction.workers } : Extractor).extract keys)

theorem get_heuristic (plugins : List Plugin) (config : Config) {name : String}
    (byScore : Text.lowered (Text.trimmed name) = "heuristic") :
    selector.get plugins config name = .ok (.heuristic config.selection.topN) := by
  simp [selector.get, Registry.get, byScore, pure, Except.pure]

theorem selector_configured {plugins : List Plugin} {config : Config}
    (byScore : Text.lowered (Text.trimmed config.selection.selector) = "heuristic") :
    selector plugins config .configured = .ok (.heuristic config.selection.topN) := by
  rw [selector, get_heuristic plugins config byScore]

theorem ofScan_ok {plugins : List Plugin} {config : Config} {request : AnalysisRequest}
    {before : List Note} {scan : ScanResult} {outcome : Outcome}
    (ended : (ofScan plugins config request before scan).result = .ok outcome) :
    ∃ chosen, selector plugins config request.selector = .ok chosen ∧
      outcome.keyFiles = (chosen.select scan.files).map (·.path) ∧
      outcome.analysis.dependencies = dependenciesOf config (chosen.select scan.files) := by
  simp only [ofScan] at ended
  split at ended
  · simp at ended
  · split at ended
    · simp at ended
    · rename_i chosen choice
      obtain rfl := Except.ok.inj ended
      exact ⟨chosen, choice, rfl, rfl⟩

def uploadsOf (records : List (String × Text.Points)) : List Upload :=
  records.map fun record => .text record.1 record.2

theorem scanOfUploads_uploadsOf (config : ScanConfig) (records : List (String × Text.Points)) :
    (scanOfUploads config (uploadsOf records)).result =
      (materialize config records).mapError .unencodable := by
  have sources : (uploadsOf records).filterMap (·.source?) = [] := by
    simp [uploadsOf, Upload.source?]
  have recorded : (uploadsOf records).filterMap (·.record?) = records := by
    rw [uploadsOf, List.filterMap_map]
    exact List.filterMap_some
  cases records with
  | nil => rfl
  | cons record records => simp [scanOfUploads, sources, recorded]

end Analysis

namespace Workspace

open Analysis

theorem analyze_ok {ws : Workspace} {request : AnalysisRequest} {path : String} {outcome : Outcome}
    (ended : (ws.analyze request path).1 = .ok outcome) :
    ∃ root config, prepare ws.fs request path = .ok (root, config) ∧
      ∃ before, (ofScan ws.plugins config request before
        ((ws.scanned root).scan config.scan root)).result = .ok outcome := by
  simp only [analyze] at ended
  split at ended
  · simp at ended
  · rename_i root config prepared
    exact ⟨root, config, prepared, _, ended⟩

theorem analyzeUploads_ok {ws : Workspace} {request : AnalysisRequest} {uploads : List Upload}
    {outcome : Outcome} (ended : (ws.analyzeUploads request uploads).1 = .ok outcome) :
    ∃ scan, (scanOfUploads (ws.uploadConfig request).scan uploads).result = .ok scan ∧
      ∃ before, (ofScan ws.plugins (ws.uploadConfig request) request before scan).result =
        .ok outcome := by
  simp only [analyzeUploads, finish, ofUploads] at ended
  split at ended
  · simp at ended
  · rename_i scan scanned
    exact ⟨scan, scanned, _, ended⟩

variable (ws : Workspace) (request : AnalysisRequest) {records : List (String × Text.Points)}

theorem analyzeUploads_uploadsOf {scan : ScanResult}
    (scanned : materialize (ws.uploadConfig request).scan records = .ok scan) :
    ∃ before, (ws.analyzeUploads request (uploadsOf records)).1 =
      (ofScan ws.plugins (ws.uploadConfig request) request before scan).result := by
  have result := scanOfUploads_uploadsOf (ws.uploadConfig request).scan records
  rw [scanned] at result
  simp only [uploadConfig] at result
  simp only [analyzeUploads, finish, ofUploads, result, Except.mapError]
  exact ⟨_, rfl⟩

theorem analyzeUploads_unencodable {halves : Text.Unencodable}
    (failed : materialize (ws.uploadConfig request).scan records = .error halves) :
    (ws.analyzeUploads request (uploadsOf records)).1 = .error (.unencodable halves) := by
  have result := scanOfUploads_uploadsOf (ws.uploadConfig request).scan records
  rw [failed] at result
  simp only [uploadConfig] at result
  simp only [analyzeUploads, finish, ofUploads, result, Except.mapError]

end Workspace

end Downstream
