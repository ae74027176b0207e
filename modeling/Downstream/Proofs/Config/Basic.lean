import Downstream.Config.Load
import Downstream.Proofs.Except
import Downstream.Proofs.Text.Bytes

/-!
A configuration file that can be read. What comes of it depends on its bytes alone: on the text in
them, on the document in that, and on the settings at its root.
-/
namespace Downstream.Config

open Setting
open Yaml (Document Value)

structure Reads (fs : FileSystem) (path : PathText) (root file : String) (bytes : ByteArray) :
    Prop where
  found : ∃ real directory place, fileFor fs path = .ok real ∧
    fs.resolve (PathText.absolute real).parent = .ok directory ∧
    fs.exists? (.absolute real) = .ok (some (place, .file bytes)) ∧
    root = (PathText.absolute directory).toString ∧ file = (PathText.absolute real).name

theorem Reads.load_eq {fs : FileSystem} {path : PathText} {root file : String} {bytes : ByteArray}
    (reads : Reads fs path root file bytes) : load fs path = ofBytes root file bytes := by
  obtain ⟨real, directory, place, file_eq, directory_eq, found, rfl, rfl⟩ := reads.found
  simp only [load, file_eq, directory_eq, found, bind, Except.bind, Failure.ofPath, Failure.ofFile]

structure HoldsText (bytes : ByteArray) (text : List Char) : Prop where
  decoded : ∃ written, Text.decode bytes = .ok written ∧ text = unifyBreaks written.toList
  visible : ∃ c ∈ text, Text.isBlank c = false

structure HoldsSettings (bytes : ByteArray) (d : Document) (settings : List (Nat × Nat)) :
    Prop where
  parsed : ∃ text, HoldsText bytes text ∧ Document.parse (String.ofList text) = .ok (some d)
  mapping : d.value d.root = .mapping settings

variable {root file : String} {bytes : ByteArray}

theorem HoldsText.ofBytes_eq {text : List Char} (holds : HoldsText bytes text) :
    ofBytes root file bytes =
      match Document.parse (String.ofList text) with
      | .ok document => ofDocument root document
      | .error (.malformed complaint) => .error (.config (.unparsable file (complaint.text text)))
      | .error failure => .error (.configValue failure) := by
  obtain ⟨written, decoded, rfl⟩ := holds.decoded
  obtain ⟨c, member, visible⟩ := holds.visible
  have notBlank : ¬ (unifyBreaks written.toList).all Text.isBlank = true := by
    rw [List.all_eq_true]
    intro blanks
    rw [blanks c member] at visible
    exact Bool.noConfusion visible
  rw [ofBytes, decoded]
  refine (if_neg notBlank).trans ?_
  generalize Document.parse (String.ofList (unifyBreaks written.toList)) = parsed
  rfl

theorem HoldsSettings.ofBytes_eq {d : Document} {settings : List (Nat × Nat)}
    (holds : HoldsSettings bytes d settings) : ofBytes root file bytes = ofDocument root (some d) := by
  obtain ⟨text, holdsText, parsed⟩ := holds.parsed
  rw [holdsText.ofBytes_eq, parsed]

def folderWith (text : String) : FileSystem :=
  ⟨.file configFileName text.toUTF8 .empty, [], "/", fun _ => 4096⟩

theorem reads_folderWith (text : String) :
    Reads (folderWith text) (.absolute []) "/" configFileName text.toUTF8 :=
  ⟨⟨[configFileName], [], [configFileName], rfl, rfl, rfl, rfl, rfl⟩⟩

theorem holdsText_toUTF8 {text : String}
    (visible : ∃ c ∈ unifyBreaks text.toList, Text.isBlank c = false) :
    HoldsText text.toUTF8 (unifyBreaks text.toList) :=
  ⟨⟨text, Text.decode_toUTF8 text, rfl⟩, visible⟩

/-! ### The settings of a document -/

variable (d : Document) (settings : List (Nat × Nat))

def textAt (own : List (Nat × Nat)) (key : String) : Except Failure (Option String) :=
  match d.lookup? own key with
  | some value => text? value
  | none => pure none

def textsAt (own : List (Nat × Nat)) (key : String) : Except Failure (List String) :=
  match d.lookup? own key with
  | some value => texts d value
  | none => pure []

def selectorNamed : Option String → String
  | some text =>
    if text.isEmpty then ({} : SelectionConfig).selector else Text.lowered (Text.trimmed text)
  | none => ({} : SelectionConfig).selector

def scanWithout (excludePaths : List String) : ScanConfig :=
  let own := entries d settings "scan"
  { excludePaths
    includeConfigFiles := ((d.lookup? own "include_config_files").bind bool?).getD false
    maxFileSize := positive d own "max_file_size" ({} : ScanConfig).maxFileSize }

def selectionBy (named : Option String) : SelectionConfig where
  selector := selectorNamed named
  topN := positive d (entries d settings "selection") "top_n" Selection.defaultTopN

theorem scanOf_eq : scanOf d settings =
    textsAt d (entries d settings "scan") "exclude_paths" >>= fun excludePaths =>
      .ok (scanWithout d settings excludePaths) := by
  simp only [scanOf, textsAt]
  cases d.lookup? (entries d settings "scan") "exclude_paths" <;> rfl

theorem selectionOf_eq : selectionOf d settings =
    textAt d (entries d settings "selection") "selector" >>= fun named =>
      .ok (selectionBy d settings named) := by
  simp only [selectionOf, textAt]
  cases d.lookup? (entries d settings "selection") "selector" <;> rfl

theorem ofDocument_eq {d : Document} {settings : List (Nat × Nat)}
    (mapping : d.value d.root = .mapping settings) : ofDocument root (some d) =
      textsAt d (entries d settings "scan") "exclude_paths" >>= fun excludePaths =>
      textAt d (entries d settings "selection") "selector" >>= fun selector =>
      textAt d settings "service_name" >>= fun name =>
        .ok ⟨root, (name.map Text.trimmed).filter (!·.isEmpty),
          scanWithout d settings excludePaths, selectionBy d settings selector,
          extractionOf d settings⟩ := by
  simp only [ofDocument, mapping, scanOf_eq, selectionOf_eq, bind_assoc]
  unfold textAt
  cases d.lookup? settings "service_name" <;> rfl

end Downstream.Config
