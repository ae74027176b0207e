import Downstream.Analysis.Run
import Downstream.Proofs.Failure

/-!
The failures of an analysis. Each has a cause that is known when it is met, so none is left to the
kind of failures about which nothing more is said.
-/
namespace Downstream

def Explained {α : Type} (result : Except Failure α) : Prop :=
  ∀ failure, result = .error failure → failure.kind ≠ .analysis

section Steps

variable {α β : Type}

theorem explained_ok (value : α) : Explained (.ok value : Except Failure α) := by
  simp [Explained]

theorem explained_error {failure : Failure} :
    Explained (.error failure : Except Failure α) ↔ failure.kind ≠ .analysis := by
  simp [Explained]

theorem explained_bind {first : Except Failure α} {rest : α → Except Failure β}
    (one : Explained first) (later : ∀ value, Explained (rest value)) :
    Explained (first >>= rest) := by
  cases first with
  | error failure => exact explained_error.mpr (explained_error.mp one)
  | ok value => exact later value

theorem Failure.explained_ofPath (found : Except FileSystem.PathError α) :
    Explained (Failure.ofPath found) := by
  cases found with
  | ok found => exact explained_ok found
  | error problem => exact explained_error.mpr (Failure.unusablePath_kind_ne problem).2.2

theorem Failure.explained_ofFile (path : PathText) (found : Except FileProblem α) :
    Explained (Failure.ofFile path found) := by
  cases found with
  | ok found => exact explained_ok found
  | error problem => simp [Failure.ofFile, explained_error, Failure.kind]

theorem explained_mapM {items : List α} {step : α → Except Failure β}
    (each : ∀ item, Explained (step item)) : Explained (items.mapM step) := by
  induction items with
  | nil => exact explained_ok []
  | cons item items ih =>
    rw [List.mapM_cons]
    exact explained_bind (each item) fun found =>
      explained_bind ih fun others => explained_ok (found :: others)

end Steps

theorem explained_configValue {α : Type} (failure : Yaml.Failure) :
    Explained (.error (.configValue failure) : Except Failure α) :=
  explained_error.mpr (Failure.configValueKind_ne failure).2.2

namespace Setting

theorem explained_text? (value : Yaml.Value) : Explained (text? value) := by
  unfold text?
  split
  case h_2 =>
    split
    · exact explained_ok _
    · exact explained_configValue _
  all_goals exact explained_ok _

theorem explained_texts (d : Yaml.Document) (value : Yaml.Value) : Explained (texts d value) := by
  unfold texts
  split
  case h_2 items =>
    refine explained_bind (explained_mapM fun item => ?_) fun found => explained_ok _
    unfold itemText?
    split
    · exact explained_ok _
    · exact explained_text? _
  all_goals exact explained_ok _

end Setting

namespace Config

open Setting

theorem explained_scanOf (d : Yaml.Document) (settings : List (Nat × Nat)) :
    Explained (scanOf d settings) := by
  unfold scanOf
  extract_lets own result
  split
  · exact explained_bind (explained_texts d _) fun excludePaths => explained_ok _
  · exact explained_ok _

theorem explained_selectionOf (d : Yaml.Document) (settings : List (Nat × Nat)) :
    Explained (selectionOf d settings) := by
  unfold selectionOf
  extract_lets own result
  split
  · exact explained_bind (explained_text? _) fun named => explained_ok _
  · exact explained_ok _

theorem explained_ofDocument (root : String) (document : Option Yaml.Document) :
    Explained (ofDocument root document) := by
  unfold ofDocument
  split
  · exact explained_ok _
  · rename_i d
    split
    · exact explained_ok _
    · refine explained_bind (explained_scanOf d _) fun scan =>
        explained_bind (explained_selectionOf d _) fun selection => ?_
      extract_lets extraction result
      split
      · exact explained_bind (explained_text? _) fun named => explained_ok _
      · exact explained_ok _
    · exact explained_error.mpr (by simp [Failure.kind])

theorem explained_ofBytes (root file : String) (bytes : ByteArray) :
    Explained (ofBytes root file bytes) := by
  unfold ofBytes
  split
  · exact explained_error.mpr (by simp [Failure.kind])
  · extract_lets text
    split
    · exact explained_ok _
    · split
      · exact explained_ofDocument root _
      · exact explained_error.mpr (by simp [Failure.kind])
      · exact explained_configValue _

theorem explained_fileFor (fs : FileSystem) (path : PathText) : Explained (fileFor fs path) := by
  unfold fileFor
  refine explained_bind (Failure.explained_ofPath _) fun path =>
    explained_bind (Failure.explained_ofFile path _) fun found => ?_
  split
  · exact Failure.explained_ofPath _
  · split <;> exact Failure.explained_ofPath _

theorem explained_load (fs : FileSystem) (path : PathText) : Explained (load fs path) := by
  unfold load
  refine explained_bind (explained_fileFor fs path) fun real =>
    explained_bind (Failure.explained_ofPath _) fun root =>
      explained_bind (Failure.explained_ofFile _ _) fun found => ?_
  split
  · exact explained_ok _
  · exact explained_ofBytes _ _ _
  · exact explained_error.mpr (by simp [Failure.kind])

end Config

namespace Analysis

theorem explained_rootAt (fs : FileSystem) (text : String) : Explained (fs.rootAt text) := by
  unfold FileSystem.rootAt
  refine explained_bind (Failure.explained_ofPath _) fun path => ?_
  split
  · exact explained_ok _
  all_goals exact explained_error.mpr (by simp [Failure.kind])

theorem explained_prepare (fs : FileSystem) (request : AnalysisRequest) (path : String) :
    Explained (prepare fs request path) := by
  unfold prepare
  refine explained_bind (explained_rootAt fs path) fun root => ?_
  split
  · exact explained_ok _
  · have loaded := Config.explained_load fs (.absolute root)
    split
    · exact explained_error.mpr (by simp [Failure.kind])
    · rename_i failure _ failed
      rw [failed] at loaded
      exact explained_error.mpr (explained_error.mp loaded)
    · exact explained_ok _

theorem explained_selector (plugins : List Plugin) (config : Config) (choice : SelectorChoice) :
    Explained (selector plugins config choice) := by
  have get (name : String) : Explained (selector.get plugins config name) := by
    unfold selector.get
    generalize Registry.get plugins name (some config.selection.topN) = found
    cases found with
    | ok chosen => exact explained_ok chosen
    | error problem => exact explained_error.mpr (Failure.registry_kind_ne problem).2.2
  unfold selector
  split
  · exact explained_ok _
  · exact get _
  · exact get _

theorem explained_ofScan (plugins : List Plugin) (config : Config) (request : AnalysisRequest)
    (before : List Note) (scan : ScanResult) :
    Explained (ofScan plugins config request before scan).result := by
  unfold ofScan
  split
  · rename_i failure required
    rw [ScanResult.require] at required
    split at required
    · obtain rfl := Except.error.inj required
      exact explained_error.mpr (by simp [Failure.kind])
    · simp at required
  · have chosen := explained_selector plugins config request.selector
    split
    · rename_i failure refused
      rw [refused] at chosen
      exact explained_error.mpr (explained_error.mp chosen)
    · exact explained_ok _

theorem explained_ofPath (plugins : List Plugin) (fs : FileSystem) (request : AnalysisRequest)
    (path : String) : Explained (ofPath plugins fs request path).result := by
  have prepared := explained_prepare fs request path
  unfold ofPath
  split
  · rename_i failure failed
    rw [failed] at prepared
    exact explained_error.mpr (explained_error.mp prepared)
  · exact explained_ofScan _ _ _ _ _

end Analysis

end Downstream
