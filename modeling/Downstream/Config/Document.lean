import Downstream.Config.Basic
import Downstream.Failure
import Downstream.Number.Shortest
import Downstream.Yaml.Value

/-!
Settings from a document. A setting that is missing, or has a value of another type, or one out of
range, keeps its default.
-/
namespace Downstream

namespace Setting

open Yaml (Document Value)

def text? : Value → Except Failure (Option String)
  | .str text => .ok (some text)
  | .int n =>
    match Number.writeInteger n with
    | .ok text => .ok (some text)
    | .error e => .error (.configValue (.integer e))
  | .float bits => .ok (some (Number.doubleText bits))
  | _ => .ok none

def integer? : Value → Option Int
  | .int n => some n
  | .str text => (Number.readInteger 10 text).toOption
  | _ => none

def bool? : Value → Option Bool
  | .bool b => some b
  | .str text =>
    let word := Text.lowered (Text.trimmed text)
    if ["true", "yes", "1"].contains word then some true
    else if ["false", "no", "0"].contains word then some false
    else none
  | _ => none

/-- The text of a member of a list: truth values are written out, collections have no text. -/
def itemText? : Value → Except Failure (Option String)
  | .bool b => .ok (some (if b then "True" else "False"))
  | value => text? value

/-- The texts in a list of texts and numbers; a single text is a list by itself, and so are
bytes. -/
def texts (d : Document) : Value → Except Failure (List String)
  | .str text => .ok [text]
  | .sequence items => do
    let found ← items.mapM fun item => itemText? (d.value item)
    return found.filterMap id
  | .bytes values => .ok (values.map toString)
  | _ => .ok []

def positive (d : Document) (own : List (Nat × Nat)) (key : String) (fallback : Int) : Int :=
  match (d.lookup? own key).bind integer? with
  | some n => if 0 < n then n else fallback
  | none => fallback

def entries (d : Document) (settings : List (Nat × Nat)) (key : String) : List (Nat × Nat) :=
  match d.lookup? settings key with
  | some (.mapping entries) => entries
  | _ => []

end Setting

namespace Config

open Setting

def scanOf (d : Yaml.Document) (settings : List (Nat × Nat)) : Except Failure ScanConfig := do
  let own := entries d settings "scan"
  let excludePaths ←
    match d.lookup? own "exclude_paths" with
    | some value => texts d value
    | none => pure []
  let includeConfigFiles := ((d.lookup? own "include_config_files").bind bool?).getD false
  return { excludePaths, includeConfigFiles,
           maxFileSize := positive d own "max_file_size" ({} : ScanConfig).maxFileSize }

def selectionOf (d : Yaml.Document) (settings : List (Nat × Nat)) :
    Except Failure SelectionConfig := do
  let own := entries d settings "selection"
  let named ←
    match d.lookup? own "selector" with
    | some value => text? value
    | none => pure none
  let selector :=
    match named with
    | some text =>
      if text.isEmpty then ({} : SelectionConfig).selector else Text.lowered (Text.trimmed text)
    | none => ({} : SelectionConfig).selector
  return { selector, topN := positive d own "top_n" Selection.defaultTopN }

def extractionOf (d : Yaml.Document) (settings : List (Nat × Nat)) : ExtractionConfig :=
  let own := entries d settings "extraction"
  { workers := positive d own "max_workers" ({} : ExtractionConfig).workers }

/-- The settings that a document gives; one without a value gives the defaults. -/
def ofDocument (root : String) (document : Option Yaml.Document) : Except Failure Config := do
  match document with
  | none => return { root }
  | some d =>
    match d.value d.root with
    | .null => return { root }
    | .mapping settings =>
      let scan ← scanOf d settings
      let selection ← selectionOf d settings
      let extraction := extractionOf d settings
      let named ←
        match d.lookup? settings "service_name" with
        | some value => text? value
        | none => pure none
      let serviceName := (named.map Text.trimmed).filter (!·.isEmpty)
      return { root, serviceName, scan, selection, extraction }
    | _ => throw (.config .notAMapping)

def unifyBreaks : List Char → List Char
  | '\r' :: '\n' :: rest => '\n' :: unifyBreaks rest
  | c :: rest => (if c = '\r' then '\n' else c) :: unifyBreaks rest
  | [] => []

def ofBytes (root file : String) (bytes : ByteArray) : Except Failure Config :=
  match Text.decode bytes with
  | .error defect => .error (.config (.unreadable file defect.message))
  | .ok text =>
    let text := unifyBreaks text.toList
    if text.all Text.isBlank then .ok { root }
    else
      match Yaml.Document.parse (String.ofList text) with
      | .ok document => ofDocument root document
      | .error (.malformed complaint) => .error (.config (.unparsable file (complaint.text text)))
      | .error failure => .error (.configValue failure)

end Config

end Downstream
