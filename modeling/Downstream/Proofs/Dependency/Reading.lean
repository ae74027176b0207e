import Downstream.Proofs.Dependency

/-!
Analyses read from their JSON texts. A value states an analysis if it has members for all of its
parts, with names that stand for an idiom and a confidence. What is written for an analysis states
that analysis, so different analyses have different texts.
-/
namespace Downstream

open Json

def SourceKind.ofLabel? (label : String) : Option SourceKind :=
  [clientClass, config, importStatement, injection].find? fun kind => kind.label == label

theorem SourceKind.ofLabel?_label (kind : SourceKind) : ofLabel? kind.label = some kind := by
  cases kind <;> rfl

def Confidence.ofLabel? (label : String) : Option Confidence :=
  [low, medium, high].find? fun confidence => confidence.label == label

theorem Confidence.ofLabel?_label (confidence : Confidence) :
    ofLabel? confidence.label = some confidence := by
  cases confidence <;> rfl

def Json.textOf? (key : String) (value : Json) : Option String :=
  (value.get? key).bind str?

def Dependency.ofJson? (value : Json) : Option Dependency := do
  let name ← value.textOf? "serviceName"
  let source ← SourceKind.ofLabel? (← value.textOf? "source")
  let confidence ← Confidence.ofLabel? (← value.textOf? "confidence")
  let evidence ← value.textOf? "evidence"
  return { name, source, confidence, evidence }

theorem Dependency.ofJson?_toJson (d : Dependency) : ofJson? d.toJson = some d := by
  have name : d.toJson.textOf? "serviceName" = some d.name := rfl
  have source : d.toJson.textOf? "source" = some d.source.label := rfl
  have confidence : d.toJson.textOf? "confidence" = some d.confidence.label := rfl
  have evidence : d.toJson.textOf? "evidence" = some d.evidence := rfl
  simp [ofJson?, name, source, confidence, evidence, SourceKind.ofLabel?_label,
    Confidence.ofLabel?_label]

theorem Dependency.mapM_ofJson? (ds : List Dependency) :
    (ds.map toJson).mapM ofJson? = some ds := by
  induction ds with
  | nil => rfl
  | cons d ds ih => simp [List.mapM_cons, ofJson?_toJson, ih]

def ServiceAnalysis.ofJson? (value : Json) : Option ServiceAnalysis := do
  let serviceName ← value.textOf? "serviceName"
  match ← value.get? "dependencies" with
  | .arr items => return { serviceName, dependencies := ← items.mapM Dependency.ofJson? }
  | _ => none

theorem ServiceAnalysis.ofJson?_toJson (a : ServiceAnalysis) : ofJson? a.toJson = some a := by
  have name : a.toJson.textOf? "serviceName" = some a.serviceName := rfl
  have items : a.toJson.get? "dependencies" = some (.arr (a.dependencies.map (·.toJson))) := rfl
  simp only [ofJson?, name, items, Option.bind_eq_bind, Option.bind_some, Dependency.mapM_ofJson?]
  rfl

theorem ServiceAnalysis.parse_jsonText_alone (a : ServiceAnalysis) :
    Json.parse a.jsonText = .ok a.toJson := by
  rw [← String.append_empty (s := a.jsonText)]
  exact a.parse_jsonText (by simp)

/-- The JSON text of an analysis is read back as its names, kinds, confidences and evidence in
their order, so that the analysis follows from it and no other one has that text. -/
theorem ServiceAnalysis.jsonText_reads_back (a : ServiceAnalysis) :
    Json.parse a.jsonText = .ok (.obj [("serviceName", .str a.serviceName),
        ("dependencies", .arr (a.dependencies.map fun d =>
          .obj [("serviceName", .str d.name), ("source", .str d.source.label),
            ("confidence", .str d.confidence.label), ("evidence", .str d.evidence)]))]) ∧
      (Json.parse a.jsonText).toOption.bind ofJson? = some a ∧
      ∀ b : ServiceAnalysis, b.jsonText = a.jsonText ↔ b = a := by
  have stated : ∀ b : ServiceAnalysis, (Json.parse b.jsonText).toOption.bind ofJson? = some b := by
    intro b
    rw [b.parse_jsonText_alone]
    exact b.ofJson?_toJson
  refine ⟨a.parse_jsonText_alone, stated a, fun b => ⟨fun same => ?_, fun same => by rw [same]⟩⟩
  have read := stated b
  rw [same, stated a] at read
  exact (Option.some.inj read).symm

/-- Members stand on lines of their own, an empty list on one line; quotes are escaped. -/
example : (ServiceAnalysis.mk "a\"é" []).jsonText =
    "\x7b\n  \"serviceName\": \"a\\\"é\",\n  \"dependencies\": []\n\x7d" := by
  decide +kernel

end Downstream
