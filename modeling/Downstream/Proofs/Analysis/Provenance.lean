import Downstream.Proofs.Analysis.Run
import Downstream.Proofs.Resolution

/-!
Where the dependencies of an analysis come from. Each one repeats what one match in one key file
says, and every match in a key file that names a service is accounted for. Key files are those that
the selector chose among the files of the run; how it chooses is of no account here.
-/
namespace Downstream

structure Dependency.Repeats (d : Dependency) (file : SourceFile) (idiom : Idiom)
    (capture : Capture) : Prop where
  matched : idiom.MatchesIn file.content.toList capture
  name : Naming.canonical? (String.ofList capture.typeName) idiom.stripSuffixes = some d.name
  source : d.source = idiom.source
  confidence : d.confidence = idiom.confidence
  evidence : d.evidence =
    "Found in " ++ file.name ++ ": " ++ idiom.describe (String.ofList capture.typeName)

structure Outcome.RestsOn (outcome : Outcome) (keys : List SourceFile) : Prop where
  keyFiles : outcome.keyFiles = keys.map (·.path)
  increasing : outcome.analysis.dependencies.Pairwise fun d e => d.name < e.name
  serviceNames : ∀ d ∈ outcome.analysis.dependencies, Naming.isServiceName d.name = true
  sound : ∀ d ∈ outcome.analysis.dependencies, ∃ file ∈ keys, ∃ idiom ∈ Idiom.all,
    file.language ∈ idiom.languages ∧ ∃ capture, d.Repeats file idiom capture
  complete : ∀ file ∈ keys, ∀ idiom ∈ Idiom.all, file.language ∈ idiom.languages →
    ∀ capture, idiom.MatchesIn file.content.toList capture →
      Naming.canonical? (String.ofList capture.typeName) idiom.stripSuffixes = none ∨
      ∃ d ∈ outcome.analysis.dependencies,
        Naming.canonical? (String.ofList capture.typeName) idiom.stripSuffixes = some d.name ∧
        idiom.confidence.rank ≤ d.confidence.rank

namespace Analysis

theorem exists_match_of_mem_dependenciesOf {config : Config} {keys : List SourceFile}
    {d : Dependency} (member : d ∈ dependenciesOf config keys) :
    ∃ file ∈ keys, ∃ idiom ∈ Idiom.all, file.language ∈ idiom.languages ∧
      ∃ capture, d.Repeats file idiom capture := by
  obtain ⟨c, extracted, suggests⟩ := exists_candidate_of_mem_resolve member
  obtain ⟨file, isKey, idiom, known, speaks, applied⟩ := Extractor.mem_extract_iff.mp extracted
  obtain ⟨capture, matched, rfl⟩ := Idiom.mem_apply_iff.mp applied
  obtain ⟨name, source, confidence, evidence⟩ := Candidate.toDependency?_eq_some suggests
  exact ⟨file, isKey, idiom, known, speaks, capture, matched, name, source, confidence, evidence⟩

theorem dependenciesOf_covers {config : Config} {keys : List SourceFile} {file : SourceFile}
    {idiom : Idiom} {capture : Capture} {name : String} (isKey : file ∈ keys)
    (speaks : file.language ∈ idiom.languages)
    (matched : idiom.MatchesIn file.content.toList capture)
    (named : Naming.canonical? (String.ofList capture.typeName) idiom.stripSuffixes = some name) :
    Dependencies.Covers (dependenciesOf config keys) name idiom.confidence := by
  have applied := Idiom.mem_apply_iff.mpr ⟨capture, matched, rfl⟩
  have known : idiom ∈ Idiom.all := by cases idiom <;> decide
  have extracted : idiom.candidate file.name capture.typeName ∈
      ({ workers := config.extraction.workers } : Extractor).extract keys :=
    Extractor.mem_extract_iff.mpr ⟨file, isKey, idiom, known, speaks, applied⟩
  exact resolve_covers extracted named

theorem restsOn_of_ofScan {plugins : List Plugin} {config : Config} {request : AnalysisRequest}
    {before : List Note} {scan : ScanResult} {outcome : Outcome}
    (ended : (ofScan plugins config request before scan).result = .ok outcome) :
    ∃ chosen, selector plugins config request.selector = .ok chosen ∧
      outcome.RestsOn (chosen.select scan.files) := by
  obtain ⟨chosen, choice, keyFiles, dependencies⟩ := ofScan_ok ended
  refine ⟨chosen, choice, keyFiles, ?_, ?_, ?_, ?_⟩
  · rw [dependencies]
    exact resolve_increasing _
  · intro d member
    rw [dependencies] at member
    obtain ⟨_, _, _, _, _, _, repeated⟩ := exists_match_of_mem_dependenciesOf member
    exact Naming.isServiceName_of_canonical? repeated.name
  · intro d member
    rw [dependencies] at member
    exact exists_match_of_mem_dependenciesOf member
  · intro file isKey idiom _ speaks capture matched
    cases named : Naming.canonical? (String.ofList capture.typeName) idiom.stripSuffixes with
    | none => exact Or.inl rfl
    | some name =>
      obtain ⟨d, member, same, enough⟩ := dependenciesOf_covers isKey speaks matched named
      rw [dependencies]
      exact Or.inr ⟨d, member, by rw [same], enough⟩

end Analysis

/-- Whichever way files come to an analysis, its dependencies rest on the key files: none is
invented and none is lost. -/
theorem dependencies_rest_on_key_files (ws : Workspace) (request : AnalysisRequest) :
    (∀ path outcome, (ws.analyze request path).1 = .ok outcome →
      ∃ root config chosen, Analysis.prepare ws.fs request path = .ok (root, config) ∧
        Analysis.selector ws.plugins config request.selector = .ok chosen ∧
        outcome.RestsOn (chosen.select ((ws.scanned root).scan config.scan root).files)) ∧
    (∀ uploads outcome, (ws.analyzeUploads request uploads).1 = .ok outcome →
      ∃ scan chosen,
        (Analysis.scanOfUploads (ws.uploadConfig request).scan uploads).result = .ok scan ∧
        Analysis.selector ws.plugins (ws.uploadConfig request) request.selector = .ok chosen ∧
        outcome.RestsOn (chosen.select scan.files)) := by
  constructor
  · intro path outcome ended
    obtain ⟨root, config, prepared, _, run⟩ := Workspace.analyze_ok ended
    obtain ⟨chosen, choice, rests⟩ := Analysis.restsOn_of_ofScan run
    exact ⟨root, config, chosen, prepared, choice, rests⟩
  · intro uploads outcome ended
    obtain ⟨scan, scanned, _, run⟩ := Workspace.analyzeUploads_ok ended
    obtain ⟨chosen, choice, rests⟩ := Analysis.restsOn_of_ofScan run
    exact ⟨scan, chosen, scanned, choice, rests⟩

def plainRequest : AnalysisRequest := { config := some { root := "/" } }

def namedRequest : AnalysisRequest := { plainRequest with selector := .given (.wiringModules 3) }

def wiringTree : Workspace where
  fs := ⟨.folder "client"
    (.file "AppConfig.java" "@Bean public BillingClient billing()".toUTF8 .empty)
    (.file "notes.md" "BillingClient".toUTF8 .empty), [], "/", fun _ => 4096⟩
  time := ""

def wiringUploads : List Analysis.Upload :=
  Analysis.uploadsOf (Upload.ofTexts
    [("src/ClientModule.java",
        "import a.b.BillingClient;\n@Provides\npublic BillingClient make()"),
      ("src/di_names.py", "from x import StringClient")])

/-- The premises are met by a directory and by uploaded files: the dependency that is named twice
keeps the higher certainty, and the one that names no service is left out. -/
theorem wiring_rests_on_key_files :
    (∃ outcome, (wiringTree.analyze plainRequest "/").1 = .ok outcome ∧
      outcome.analysis.dependencies = [⟨"Billing", .injection, .high,
        "Found in AppConfig.java: @Bean BillingClient"⟩] ∧
      ∃ root config chosen,
        Analysis.prepare wiringTree.fs plainRequest "/" = .ok (root, config) ∧
        Analysis.selector wiringTree.plugins config plainRequest.selector = .ok chosen ∧
        outcome.RestsOn
          (chosen.select ((wiringTree.scanned root).scan config.scan root).files)) ∧
    (∃ outcome, (wiringTree.analyzeUploads namedRequest wiringUploads).1 = .ok outcome ∧
      outcome.analysis.dependencies = [⟨"Billing", .clientClass, .high,
        "Found in ClientModule.java: @Provides BillingClient"⟩] ∧
      outcome.keyFiles = ["src/ClientModule.java", "src/di_names.py"] ∧
      ∃ scan chosen,
        (Analysis.scanOfUploads (wiringTree.uploadConfig namedRequest).scan
          wiringUploads).result = .ok scan ∧
        Analysis.selector wiringTree.plugins (wiringTree.uploadConfig namedRequest)
          namedRequest.selector = .ok chosen ∧
        outcome.RestsOn (chosen.select scan.files)) := by
  have walked : (wiringTree.analyze plainRequest "/").1.toOption.map
      (·.analysis.dependencies) = some [⟨"Billing", .injection, .high,
        "Found in AppConfig.java: @Bean BillingClient"⟩] := by decide +kernel
  have uploaded : (wiringTree.analyzeUploads namedRequest wiringUploads).1.toOption.map
      (fun o => (o.analysis.dependencies, o.keyFiles)) = some ([⟨"Billing", .clientClass, .high,
        "Found in ClientModule.java: @Provides BillingClient"⟩],
        ["src/ClientModule.java", "src/di_names.py"]) := by decide +kernel
  obtain ⟨ofTree, inTree, listed⟩ := Option.map_eq_some_iff.mp walked
  obtain ⟨ofUploads, inUploads, named⟩ := Option.map_eq_some_iff.mp uploaded
  obtain ⟨listed_uploads, keys⟩ := Prod.mk.inj named
  constructor
  · have ended := eq_ok_of_toOption inTree
    have rests := (dependencies_rest_on_key_files wiringTree plainRequest).1
    exact ⟨ofTree, ended, listed, rests "/" ofTree ended⟩
  · have ended := eq_ok_of_toOption inUploads
    have rests := (dependencies_rest_on_key_files wiringTree namedRequest).2
    exact ⟨ofUploads, ended, listed_uploads, keys, rests wiringUploads ofUploads ended⟩

end Downstream
