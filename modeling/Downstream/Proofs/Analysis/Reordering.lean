import Downstream.Proofs.Analysis.Agreement
import Downstream.Proofs.Analysis.Provenance
import Downstream.Proofs.Selection

/-!
The order of an upload does not decide what is found, as long as the limit on the key files leaves
no file with a positive score out. The order does decide which of several candidates of one
certainty is quoted as evidence, and it can decide the name that is guessed for the service.
-/
namespace Downstream

structure Outcome.ReorderedTo (outcome other : Outcome) : Prop where
  ratings : Dependencies.ratings outcome.analysis.dependencies =
    Dependencies.ratings other.analysis.dependencies
  filesScanned : outcome.filesScanned = other.filesScanned
  keyFiles : outcome.keyFiles.Perm other.keyFiles
  skipped : outcome.skipped.Perm other.skipped

theorem ScanResult.ofVerdicts_perm (root : Option String) {verdicts other : List Verdict}
    (perm : verdicts.Perm other) :
    (ofVerdicts root verdicts).files.Perm (ofVerdicts root other).files ∧
      (ofVerdicts root verdicts).skipped.Perm (ofVerdicts root other).skipped :=
  ⟨perm.filterMap _, perm.filterMap _⟩

theorem ScanResult.require_of_perm {scan other : ScanResult} (files : scan.files.Perm other.files)
    (skipped : scan.skipped.Perm other.skipped) : scan.require = other.require := by
  rw [require, require, files.isEmpty_eq, skipped.length_eq]

namespace Analysis

/-- The services and their certainties depend on which files are key files, not on their order. -/
theorem ratings_dependenciesOf {config : Config} {keys other : List SourceFile}
    (perm : keys.Perm other) :
    Dependencies.ratings (dependenciesOf config keys) =
      Dependencies.ratings (dependenciesOf config other) := by
  refine ratings_resolve_eq fun c => ?_
  simp only [Extractor.mem_extract_iff, perm.mem_iff]

theorem ofScan_reordered {plugins : List Plugin} {config : Config} {request : AnalysisRequest}
    {before beforeOther : List Note} {scan other : ScanResult} {topN : Int}
    (byScore : selector plugins config request.selector = .ok (.heuristic topN))
    (files : scan.files.Perm other.files) (skipped : scan.skipped.Perm other.skipped)
    (enough : ((Selection.scored scan.files).length : Int) ≤ topN) :
    (∃ count, (ofScan plugins config request before scan).result = .error (.noCodeFiles count) ∧
      (ofScan plugins config request beforeOther other).result = .error (.noCodeFiles count)) ∨
    ∃ outcome reordered, (ofScan plugins config request before scan).result = .ok outcome ∧
      (ofScan plugins config request beforeOther other).result = .ok reordered ∧
      outcome.ReorderedTo reordered := by
  simp only [ofScan, byScore, ← ScanResult.require_of_perm files skipped]
  by_cases empty : scan.files.isEmpty = true
  · simp only [ScanResult.require, if_pos empty]
    exact Or.inl ⟨scan.skipped.length, rfl, rfl⟩
  · simp only [ScanResult.require, if_neg empty]
    have scored : (Selection.scored scan.files).Perm (Selection.scored other.files) :=
      files.filter _
    have keys : ((Selector.heuristic topN).select scan.files).Perm
        ((Selector.heuristic topN).select other.files) :=
      (Selector.select_heuristic_perm enough).trans (scored.trans
        (Selector.select_heuristic_perm (by rw [← scored.length_eq]; exact enough)).symm)
    have ratings : Dependencies.ratings (dependenciesOf config _) =
      Dependencies.ratings (dependenciesOf config _) := ratings_dependenciesOf keys
    exact Or.inr ⟨_, _, rfl, rfl, ratings, files.length_eq, keys.map SourceFile.path, skipped⟩

end Analysis

namespace Upload

variable (config : ScanConfig) {records other : List (String × Text.Points)}

theorem holdsHalf_perm (reordered : records.Perm other) :
    HoldsHalf config records ↔ HoldsHalf config other := by
  simp only [HoldsHalf, reordered.mem_iff]

theorem scan_perm (reordered : records.Perm other) :
    (Upload.scan config (texts records)).files.Perm (Upload.scan config (texts other)).files ∧
      (Upload.scan config (texts records)).skipped.Perm
        (Upload.scan config (texts other)).skipped :=
  ScanResult.ofVerdicts_perm none ((reordered.map _).filterMap _)

end Upload

/-- Two uploads of the same records in different orders end alike. If some candidate holds a half,
both fail on one; else there is no code in either, or both name the same services with the same
certainties, in the same order. -/
theorem upload_order_keeps_findings (ws : Workspace) (config : Config) (request : AnalysisRequest)
    {records other : List (String × Text.Points)} {topN : Int} (reordered : records.Perm other)
    (byScore : Analysis.selector ws.plugins config request.selector = .ok (.heuristic topN))
    (enough : ∀ scan, materialize config.scan records = .ok scan →
      ((Selection.scored scan.files).length : Int) ≤ topN) :
    let analysis (records : List (String × Text.Points)) :=
      (ws.analyzeUploads { request with config := some config } (Analysis.uploadsOf records)).1
    (Upload.HoldsHalf config.scan records → ∃ halves halvesOther,
      analysis records = .error (.unencodable halves) ∧
      analysis other = .error (.unencodable halvesOther)) ∧
    (¬ Upload.HoldsHalf config.scan records →
      (∃ skipped, analysis records = .error (.noCodeFiles skipped) ∧
        analysis other = .error (.noCodeFiles skipped)) ∨
      ∃ outcome outcomeOther, analysis records = .ok outcome ∧
        analysis other = .ok outcomeOther ∧ outcome.ReorderedTo outcomeOther) := by
  intro analysis
  constructor
  · intro holds
    obtain ⟨halves, failed⟩ := exists_materialize_error_iff.mpr holds
    obtain ⟨halvesOther, failedOther⟩ :=
      exists_materialize_error_iff.mpr ((Upload.holdsHalf_perm config.scan reordered).mp holds)
    exact ⟨halves, halvesOther, Workspace.analyzeUploads_unencodable ws _ failed,
      Workspace.analyzeUploads_unencodable ws _ failedOther⟩
  · intro plain
    have scanned := materialize_eq_ok_iff.mpr ⟨plain, rfl⟩
    have scannedOther :=
      materialize_eq_ok_iff.mpr ⟨mt (Upload.holdsHalf_perm config.scan reordered).mpr plain, rfl⟩
    obtain ⟨before, run⟩ := Workspace.analyzeUploads_uploadsOf ws
      { request with config := some config } scanned
    obtain ⟨beforeOther, runOther⟩ := Workspace.analyzeUploads_uploadsOf ws
      { request with config := some config } scannedOther
    obtain ⟨files, skipped⟩ := Upload.scan_perm config.scan reordered
    simp only [analysis, run, runOther]
    exact Analysis.ofScan_reordered byScore files skipped (enough _ scanned)

def twiceNamed : List (String × Text.Points) :=
  Upload.ofTexts
    [("config/Wiring.java", "@Bean public BillingClient billing()"),
      ("client/Clients.java", "@Bean public BillingClient client()")]

/-- The premises are met by these files in both orders, and the analysis has the room that it
needs. -/
theorem upload_order_keeps_billing :
    let config : Config := { root := "/" }
    let request : AnalysisRequest := { config := some config }
    let analysis (records : List (String × Text.Points)) :=
      (wiringTree.analyzeUploads request (Analysis.uploadsOf records)).1
    twiceNamed.Perm twiceNamed.reverse ∧
    Analysis.selector wiringTree.plugins config request.selector = .ok (.heuristic 15) ∧
    (∃ scan, materialize config.scan twiceNamed = .ok scan ∧
      ((Selection.scored scan.files).length : Int) = 2) ∧
    (analysis twiceNamed).toOption.map (·.filesScanned) = some 2 ∧
    ∃ outcome reordered, analysis twiceNamed = .ok outcome ∧
      analysis twiceNamed.reverse = .ok reordered ∧ outcome.ReorderedTo reordered := by
  intro config request analysis
  have perm : twiceNamed.Perm twiceNamed.reverse := (List.reverse_perm _).symm
  have byScore : Analysis.selector wiringTree.plugins config request.selector =
      .ok (.heuristic 15) := Analysis.selector_configured (by decide +kernel)
  have plain : ¬ Upload.HoldsHalf config.scan twiceNamed := Upload.not_holdsHalf_ofTexts _ _
  have scanned := materialize_eq_ok_iff.mpr ⟨plain, rfl⟩
  have two : ((Selection.scored (Upload.scan config.scan (Upload.texts twiceNamed)).files).length
      : Int) = 2 := by
    decide +kernel
  have enough : ∀ scan, materialize config.scan twiceNamed = .ok scan →
      ((Selection.scored scan.files).length : Int) ≤ 15 := by
    intro scan ended
    obtain rfl := Except.ok.inj (scanned.symm.trans ended)
    omega
  have found : (analysis twiceNamed).toOption.map (·.filesScanned) = some 2 := by
    decide +kernel
  obtain ⟨outcome, inFiles, _⟩ := Option.map_eq_some_iff.mp found
  have ended : analysis twiceNamed = .ok outcome := eq_ok_of_toOption inFiles
  refine ⟨perm, byScore, ⟨_, scanned, two⟩, found, ?_⟩
  rcases (upload_order_keeps_findings wiringTree config request perm byScore enough).2 plain with
    ⟨_, failed, _⟩ | reordered
  · cases failed.symm.trans ended
  · exact reordered

/-- A half in a candidate ends the analysis in either order, with neither a count of skipped files
nor an outcome. -/
theorem half_ends_both_orders :
    let config : Config := { root := "/" }
    let request : AnalysisRequest := { config := some config }
    let records : List (String × Text.Points) := [("a.py", [.half 0]), ("b.py", .ofString "x")]
    let analysis (records : List (String × Text.Points)) :=
      (wiringTree.analyzeUploads request (Analysis.uploadsOf records)).1
    records.Perm records.reverse ∧
    Analysis.selector wiringTree.plugins config request.selector = .ok (.heuristic 15) ∧
    (∀ scan, materialize config.scan records = .ok scan →
      ((Selection.scored scan.files).length : Int) ≤ 15) ∧
    ¬ ((∃ skipped, analysis records = .error (.noCodeFiles skipped) ∧
        analysis records.reverse = .error (.noCodeFiles skipped)) ∨
      ∃ outcome outcomeOther, analysis records = .ok outcome ∧
        analysis records.reverse = .ok outcomeOther ∧ outcome.ReorderedTo outcomeOther) := by
  intro config request records analysis
  have holds : Upload.HoldsHalf config.scan records := by decide +kernel
  obtain ⟨halves, failed⟩ := exists_materialize_error_iff.mpr holds
  have ended : analysis records = .error (.unencodable halves) :=
    Workspace.analyzeUploads_unencodable wiringTree _ failed
  refine ⟨(List.reverse_perm _).symm, Analysis.selector_configured (by decide +kernel),
    fun scan scanned => ?_, ?_⟩
  · cases failed.symm.trans scanned
  · rintro (⟨skipped, noFiles, _⟩ | ⟨outcome, _, found, _⟩)
    · cases ended.symm.trans noFiles
    · cases ended.symm.trans found

end Downstream
