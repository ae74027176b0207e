import Downstream.Proofs.Analysis.Provenance
import Downstream.Proofs.Selection

/-!
Raising the limit on the key files takes no dependency away. The limit bears on the selector that
goes by score only, and there the key files of the lower limit come first; so the candidates of the
lower limit come first as well, and those behind them can do no more than raise a certainty.
-/
namespace Downstream

def Config.withTopN (config : Config) (topN : Int) : Config :=
  { config with selection := { config.selection with topN } }

structure Outcome.WidensTo (outcome wider : Outcome) : Prop where
  serviceName : outcome.analysis.serviceName = wider.analysis.serviceName
  filesScanned : outcome.filesScanned = wider.filesScanned
  keyFiles : outcome.keyFiles <+: wider.keyFiles
  dependencies : Dependencies.KeptIn outcome.analysis.dependencies wider.analysis.dependencies

namespace Analysis

inductive EndWidened : Except Failure Outcome → Except Failure Outcome → Prop where
  | failed (failure : Failure) : EndWidened (.error failure) (.error failure)
  | ended {outcome wider : Outcome} (widens : outcome.WidensTo wider) :
      EndWidened (.ok outcome) (.ok wider)

/-- Either the key files are chosen by score, and the limit says how many, or the limit is of no
account. -/
theorem selector_withTopN (plugins : List Plugin) (config : Config) (choice : SelectorChoice) :
    (∀ topN, selector plugins (config.withTopN topN) choice = .ok (.heuristic topN)) ∨
    ∃ result, ∀ topN, selector plugins (config.withTopN topN) choice = result := by
  have get_cases (name : String) :
      (∀ topN, selector.get plugins (config.withTopN topN) name = .ok (.heuristic topN)) ∨
      ∃ result, ∀ topN, selector.get plugins (config.withTopN topN) name = result := by
    by_cases byScore : Text.lowered (Text.trimmed name) = "heuristic"
    · exact Or.inl fun topN => get_heuristic plugins (config.withTopN topN) byScore
    · right
      refine ⟨selector.get plugins config name, fun topN => ?_⟩
      simp [selector.get, Registry.get, byScore]
  cases choice with
  | given chosen => exact Or.inr ⟨.ok chosen, fun _ => rfl⟩
  | configured => exact get_cases config.selection.selector
  | named name => exact get_cases (if name.isEmpty then config.selection.selector else name)

theorem selector_widens (plugins : List Plugin) (config : Config) (choice : SelectorChoice)
    {n m : Int} (nonneg : 0 ≤ n) (atMost : n ≤ m) :
    (∃ failure, selector plugins (config.withTopN n) choice = .error failure ∧
      selector plugins (config.withTopN m) choice = .error failure) ∨
    ∃ chosen wider, selector plugins (config.withTopN n) choice = .ok chosen ∧
      selector plugins (config.withTopN m) choice = .ok wider ∧
      ∀ files, chosen.select files <+: wider.select files := by
  rcases selector_withTopN plugins config choice with byScore | ⟨result, fixed⟩
  · exact Or.inr ⟨_, _, byScore n, byScore m, Selector.select_heuristic_prefix nonneg atMost⟩
  · cases result with
    | error failure => exact Or.inl ⟨failure, fixed n, fixed m⟩
    | ok chosen => exact Or.inr ⟨chosen, chosen, fixed n, fixed m, fun _ => List.prefix_rfl⟩

theorem dependenciesOf_keptIn {config : Config} {keys more : List SourceFile}
    (front : keys <+: more) :
    Dependencies.KeptIn (dependenciesOf config keys) (dependenciesOf config more) := by
  obtain ⟨further, rfl⟩ := front
  rw [dependenciesOf, dependenciesOf, Extractor.extract_append]
  exact resolve_keptIn_append _ _

theorem ofScan_endWidened (plugins : List Plugin) (config : Config) (request : AnalysisRequest)
    {n m : Int} (nonneg : 0 ≤ n) (atMost : n ≤ m) (before : List Note) (scan : ScanResult) :
    EndWidened
      (ofScan plugins (config.withTopN n) { request with config := some (config.withTopN n) }
        before scan).result
      (ofScan plugins (config.withTopN m) { request with config := some (config.withTopN m) }
        before scan).result := by
  simp only [ofScan]
  cases scan.require with
  | error failure => exact .failed failure
  | ok _ =>
    rcases selector_widens plugins config request.selector nonneg atMost with
      ⟨failure, lower, upper⟩ | ⟨chosen, wider, lower, upper, front⟩
    · simp only [lower, upper]
      exact .failed failure
    · simp only [lower, upper]
      have keys := front scan.files
      have kept : Dependencies.KeptIn (dependenciesOf config (chosen.select scan.files))
          (dependenciesOf config (wider.select scan.files)) := dependenciesOf_keptIn keys
      exact .ended ⟨rfl, rfl, keys.map SourceFile.path, kept⟩

end Analysis

/-- Of two analyses that differ only in the limit on the key files, the one with the higher limit
finds every dependency of the other again, at least as certain as there. -/
theorem raised_limit_keeps_dependencies (ws : Workspace) (config : Config)
    (request : AnalysisRequest) {n m : Int} (nonneg : 0 ≤ n) (atMost : n ≤ m) :
    (∀ path, Analysis.EndWidened
      (ws.analyze { request with config := some (config.withTopN n) } path).1
      (ws.analyze { request with config := some (config.withTopN m) } path).1) ∧
    ∀ uploads, Analysis.EndWidened
      (ws.analyzeUploads { request with config := some (config.withTopN n) } uploads).1
      (ws.analyzeUploads { request with config := some (config.withTopN m) } uploads).1 := by
  constructor
  · intro path
    simp only [Workspace.analyze, Analysis.prepare]
    cases ws.fs.rootAt path with
    | error failure => exact .failed failure
    | ok root => exact Analysis.ofScan_endWidened ws.plugins config request nonneg atMost _ _
  · intro uploads
    have sameScan : (config.withTopN n).scan = (config.withTopN m).scan := rfl
    simp only [Workspace.analyzeUploads, Workspace.finish, Analysis.ofUploads, Option.getD_some,
      sameScan]
    cases (Analysis.scanOfUploads (config.withTopN m).scan uploads).result with
    | error failure => exact .failed failure
    | ok scan => exact Analysis.ofScan_endWidened ws.plugins config request nonneg atMost _ scan

/-- With room for one key file the analysis has its one dependency, with room for two it still
does. -/
theorem raised_limit_keeps_billing :
    let config : Config := { root := "/" }
    let limited (topN : Int) : AnalysisRequest := { config := some (config.withTopN topN) }
    (0 : Int) ≤ 1 ∧ (1 : Int) ≤ 2 ∧
    (wiringTree.analyze (limited 1) "/").1.toOption.map (·.analysis.dependencies) =
      some [⟨"Billing", .injection, .high, "Found in AppConfig.java: @Bean BillingClient"⟩] ∧
    Analysis.EndWidened (wiringTree.analyze (limited 1) "/").1
      (wiringTree.analyze (limited 2) "/").1 := by
  intro config limited
  have kept := raised_limit_keeps_dependencies wiringTree config {} (n := 1) (m := 2) (by decide)
    (by decide)
  exact ⟨by decide, by decide, by decide +kernel, kept.1 "/"⟩

end Downstream
