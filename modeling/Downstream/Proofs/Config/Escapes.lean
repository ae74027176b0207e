import Downstream.Proofs.Config.Basic
import Downstream.Proofs.Yaml.Refusal

/-!
What comes of a configuration file that can be read: settings, or a configuration error, or a
failure that escapes as another kind of error. It escapes where the text of the file has no document
for another reason than its form, or where an integer that stands for a text is too large to be
written.
-/
namespace Downstream

namespace Setting

open Yaml (Document Value)

def IsHuge (n : Int) : Prop :=
  Number.maxDecimalDigits < (toString n.natAbs).length

def tooLarge : Failure :=
  .configValue (.integer .tooLargeToWrite)

theorem text?_eq_error_iff {value : Value} {failure : Failure} :
    text? value = .error failure ↔ failure = tooLarge ∧ ∃ n, value = .int n ∧ IsHuge n := by
  cases value with
  | int n =>
    by_cases huge : IsHuge n
    · have written : Number.writeInteger n = .error .tooLargeToWrite := if_pos huge
      simp [text?, written, tooLarge, huge, eq_comm]
    · have written : Number.writeInteger n = .ok (toString n) := if_neg huge
      simp [text?, written, huge]
  | _ => simp [text?]

theorem itemText?_eq_error_iff {value : Value} {failure : Failure} :
    itemText? value = .error failure ↔ failure = tooLarge ∧ ∃ n, value = .int n ∧ IsHuge n := by
  cases value with
  | bool b => simp [itemText?]
  | _ => simp [itemText?, text?_eq_error_iff]

theorem texts_eq_error_iff {d : Document} {value : Value} {failure : Failure} :
    texts d value = .error failure ↔ failure = tooLarge ∧
      ∃ items, value = .sequence items ∧ ∃ item ∈ items, ∃ n, d.value item = .int n ∧ IsHuge n := by
  cases value with
  | sequence items =>
    have only (item : Nat) : FailsOnly (· = tooLarge) (itemText? (d.value item)) := by
      cases read : itemText? (d.value item) with
      | ok text => trivial
      | error problem => exact (itemText?_eq_error_iff.mp read).1
    simp only [texts, bind_eq_error_iff, mapM_eq_error_iff only, itemText?_eq_error_iff]
    simp [pure, Except.pure]
  | _ => simp [texts]

end Setting

namespace Config

open Setting
open Yaml (Document Value)

variable {d : Document} {settings own : List (Nat × Nat)} {key : String} {failure : Failure}

theorem textAt_eq_error_iff :
    textAt d own key = .error failure ↔
      failure = tooLarge ∧ ∃ n, d.lookup? own key = some (.int n) ∧ IsHuge n := by
  unfold textAt
  cases d.lookup? own key with
  | none => simp [pure, Except.pure]
  | some value => simp [text?_eq_error_iff]

theorem textsAt_eq_error_iff :
    textsAt d own key = .error failure ↔
      failure = tooLarge ∧ ∃ items, d.lookup? own key = some (.sequence items) ∧
        ∃ item ∈ items, ∃ n, d.value item = .int n ∧ IsHuge n := by
  unfold textsAt
  cases d.lookup? own key with
  | none => simp [pure, Except.pure]
  | some value => simp [texts_eq_error_iff]

inductive HasHuge (d : Document) (settings : List (Nat × Nat)) : Prop
  | serviceName {n : Int} : d.lookup? settings "service_name" = some (.int n) → IsHuge n →
    HasHuge d settings
  | selector {n : Int} :
    d.lookup? (entries d settings "selection") "selector" = some (.int n) → IsHuge n →
    HasHuge d settings
  | excludePath {items : List Nat} {item : Nat} {n : Int} :
    d.lookup? (entries d settings "scan") "exclude_paths" = some (.sequence items) →
    item ∈ items → d.value item = .int n → IsHuge n → HasHuge d settings

theorem hasHuge_of_error {root : String} (mapping : d.value d.root = .mapping settings)
    (failed : ofDocument root (some d) = .error failure) :
    failure = tooLarge ∧ HasHuge d settings := by
  simp only [ofDocument_eq mapping, bind_eq_error_iff, textAt_eq_error_iff,
    textsAt_eq_error_iff] at failed
  rcases failed with ⟨cause, items, list, item, member, n, isInt, huge⟩ | ⟨_, _, failed⟩
  · exact ⟨cause, .excludePath list member isInt huge⟩
  rcases failed with ⟨cause, n, isInt, huge⟩ | ⟨_, _, failed⟩
  · exact ⟨cause, .selector isInt huge⟩
  rcases failed with ⟨cause, n, isInt, huge⟩ | ⟨_, _, failed⟩
  · exact ⟨cause, .serviceName isInt huge⟩
  · cases failed

theorem ofDocument_eq_error_iff {root : String} (mapping : d.value d.root = .mapping settings) :
    ofDocument root (some d) = .error failure ↔ failure = tooLarge ∧ HasHuge d settings := by
  refine ⟨hasHuge_of_error mapping, ?_⟩
  rintro ⟨rfl, huge⟩
  cases result : ofDocument root (some d) with
  | error problem => rw [(hasHuge_of_error mapping result).1]
  | ok config =>
    simp only [ofDocument_eq mapping, bind_eq_ok_iff] at result
    obtain ⟨_, pathsRead, _, selectorRead, _, nameRead, _⟩ := result
    cases huge with
    | serviceName isInt huge =>
      rw [textAt_eq_error_iff.mpr ⟨rfl, _, isInt, huge⟩] at nameRead
      cases nameRead
    | selector isInt huge =>
      rw [textAt_eq_error_iff.mpr ⟨rfl, _, isInt, huge⟩] at selectorRead
      cases selectorRead
    | excludePath list member isInt huge =>
      rw [textsAt_eq_error_iff.mpr ⟨rfl, _, list, _, member, _, isInt, huge⟩] at pathsRead
      cases pathsRead

/-- A failure that is no configuration error: the text has no document for another reason than its
form, or an integer among the settings cannot be written. -/
inductive Escape (bytes : ByteArray) : Yaml.Failure → Prop
  | parsing {text : List Char} {failure : Yaml.Failure} : HoldsText bytes text →
    Document.parse (String.ofList text) = .error failure →
    (∀ complaint, failure ≠ .malformed complaint) → Escape bytes failure
  | writing {d : Document} {settings : List (Nat × Nat)} : HoldsSettings bytes d settings →
    HasHuge d settings → Escape bytes (.integer .tooLargeToWrite)

variable {root file : String} {bytes : ByteArray}

inductive ReadFailure (bytes : ByteArray) : Failure → Prop
  | config (error : ConfigError) : ReadFailure bytes (.config error)
  | escape {problem : Yaml.Failure} : Escape bytes problem →
    ReadFailure bytes (.configValue problem)

theorem failsOnly_ofDocument {text : List Char} {document : Option Document}
    (holds : HoldsText bytes text)
    (parsed : Document.parse (String.ofList text) = .ok document) :
    FailsOnly (ReadFailure bytes) (ofDocument root document) := by
  cases result : ofDocument root document with
  | ok config => trivial
  | error failure =>
    cases document with
    | none => cases result
    | some d =>
      cases atRoot : d.value d.root with
      | null =>
        simp only [ofDocument, atRoot] at result
        cases result
      | mapping settings =>
        obtain ⟨rfl, huge⟩ := hasHuge_of_error atRoot result
        exact .escape (.writing ⟨⟨text, holds, parsed⟩, atRoot⟩ huge)
      | _ =>
        simp only [ofDocument, atRoot] at result
        obtain rfl := Except.error.inj result
        exact .config _

theorem failsOnly_ofBytes (root file : String) (bytes : ByteArray) :
    FailsOnly (ReadFailure bytes) (ofBytes root file bytes) := by
  cases decoded : Text.decode bytes with
  | error defect =>
    rw [ofBytes, decoded]
    exact .config _
  | ok written =>
    by_cases blank : (unifyBreaks written.toList).all Text.isBlank = true
    · have defaults : ofBytes root file bytes = .ok { root } := by
        rw [ofBytes, decoded]
        exact if_pos blank
      rw [defaults]
      trivial
    · have holds : HoldsText bytes (unifyBreaks written.toList) :=
        ⟨⟨written, decoded, rfl⟩, by simpa using blank⟩
      rw [holds.ofBytes_eq]
      split
      · rename_i document parsed
        exact failsOnly_ofDocument holds parsed
      · exact .config _
      · rename_i failure other failed
        exact .escape (.parsing holds failed other)

theorem Escape.ofBytes_eq {problem : Yaml.Failure} (escape : Escape bytes problem) :
    ofBytes root file bytes = .error (.configValue problem) := by
  cases escape with
  | parsing holds failed other =>
    rw [holds.ofBytes_eq, failed]
    cases problem with
    | malformed complaint => exact absurd rfl (other complaint)
    | _ => rfl
  | writing holds huge =>
    rw [holds.ofBytes_eq]
    exact (ofDocument_eq_error_iff holds.mapping).mpr ⟨rfl, huge⟩

theorem Escape.kind_ne {problem : Yaml.Failure} (escape : Escape bytes problem) :
    (Failure.configValue problem).kind ≠ .invalidConfig := by
  cases escape with
  | parsing _ _ other =>
    cases problem with
    | malformed complaint => exact absurd rfl (other complaint)
    | _ => simp [Failure.kind, Failure.configValueKind]
  | writing _ _ => simp [Failure.kind, Failure.configValueKind]

/-- What comes of a configuration file with these bytes: settings, a configuration error, or what
escapes; and where the text has no document, the reason for that lies in the text. -/
structure Outcome (bytes : ByteArray) (result : Except Failure Config) : Prop where
  ends : (∃ config, result = .ok config) ∨ (∃ error, result = .error (.config error)) ∨
    ∃ problem, result = .error (.configValue problem) ∧
      (Failure.configValue problem).kind ≠ .invalidConfig
  escapes_iff : ∀ problem, result = .error (.configValue problem) ↔ Escape bytes problem
  refusal : ∀ text problem, HoldsText bytes text →
    Document.parse (String.ofList text) = .error problem →
    Yaml.Refusal (String.ofList text) problem

/-- A configuration file that can be read gives settings or a configuration error, unless a scalar
in it cannot be read as its tag asks for, an escape or a version in it names nothing, its collections
are nested too deep, or an integer for a text is too large to be written. -/
theorem load_outcome {fs : FileSystem} {path : PathText} (reads : Reads fs path root file bytes) :
    Outcome bytes (load fs path) := by
  rw [reads.load_eq]
  have only := failsOnly_ofBytes root file bytes
  refine ⟨?_, fun problem => ⟨fun failed => ?_, Escape.ofBytes_eq⟩, fun text problem _ failed => ?_⟩
  · cases result : ofBytes root file bytes with
    | ok config => exact .inl ⟨config, rfl⟩
    | error failure =>
      rw [result] at only
      cases only with
      | config error => exact .inr (.inl ⟨error, rfl⟩)
      | escape escape => exact .inr (.inr ⟨_, rfl, escape.kind_ne⟩)
  · rw [failed] at only
    cases only with
    | escape escape => exact escape
  · have refused := Yaml.failsOnly_parse (String.ofList text)
    rw [failed] at refused
    exact refused

theorem impossible_month_outcome :
    let text := "service_name: 2020-13-01\n"
    Reads (folderWith text) (.absolute []) "/" configFileName text.toUTF8 ∧
      Outcome text.toUTF8 (load (folderWith text) (.absolute [])) :=
  ⟨reads_folderWith _, load_outcome (reads_folderWith _)⟩

/-- The failure to find a date in the calendar escapes as an invalid value. -/
theorem impossible_month_escapes :
    load (folderWith "service_name: 2020-13-01\n") (.absolute []) =
        .error (.configValue (.calendar .month)) ∧
      (Failure.configValue (.calendar .month)).kind = .invalidValue := by
  decide +kernel

end Config

end Downstream
