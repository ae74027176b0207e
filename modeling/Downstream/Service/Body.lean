import Downstream.Json.Encoding
import Downstream.Json.Parser

/-!
Bodies of requests. A body has to be a JSON text with the members that the request needs; every
member that is missing or of another type is reported with its place.
-/
namespace Downstream.Service

inductive Place where
  | member (key : String)
  | item (index : Nat)
  | offset (characters : Nat)
  deriving DecidableEq, Repr

inductive BodyDefect where
  | missing
  | notAText
  | notAList
  | notAnObject
  | notJson
  deriving DecidableEq, Repr

def BodyDefect.label : BodyDefect → String
  | .missing => "missing"
  | .notAText => "string_type"
  | .notAList => "list_type"
  | .notAnObject => "model_attributes_type"
  | .notJson => "json_invalid"

def BodyDefect.message : BodyDefect → String
  | .missing => "Field required"
  | .notAText => "Input should be a valid string"
  | .notAList => "Input should be a valid list"
  | .notAnObject => "Input should be a valid dictionary or object to extract fields from"
  | .notJson => "JSON decode error"

/-- A defect at a place of a body, with the value that has it; what is missing is missing in that
value. -/
structure BodyError where
  defect : BodyDefect
  place : List Place
  found : Json
  deriving Repr

abbrev Checked (α : Type) := Except (List BodyError) α

def Checked.both {α β : Type} : Checked α → Checked β → Checked (α × β)
  | .ok a, .ok b => .ok (a, b)
  | .ok _, .error es => .error es
  | .error es, .ok _ => .error es
  | .error es, .error fs => .error (es ++ fs)

def errorAt {α : Type} (defect : BodyDefect) (place : List Place) (found : Json) : Checked α :=
  .error [⟨defect, place, found⟩]

def bodyPlace : List Place := [.member "body"]

def requiredText (place : List Place) (key : String) (object : Json) : Checked String :=
  match object.get? key with
  | none => errorAt .missing (place ++ [.member key]) object
  | some (.str text) => .ok text
  | some value => errorAt .notAText (place ++ [.member key]) value

/-- A text that may be missing or null; the first of the keys that is there counts. -/
def optionalText (place : List Place) (keys : List String) (object : Json) :
    Checked (Option String) :=
  match keys.findSome? fun key => (object.get? key).map fun value => (key, value) with
  | none | some (_, .null) => .ok none
  | some (_, .str text) => .ok (some text)
  | some (key, value) => errorAt .notAText (place ++ [.member key]) value

def serviceNameKeys : List String := ["serviceName", "service_name"]

structure PathBody where
  path : String
  serviceName : Option String
  deriving DecidableEq, Repr

structure FilesBody where
  files : List (String × String)
  serviceName : Option String
  deriving DecidableEq, Repr

def readFile (place : List Place) : Json → Checked (String × String)
  | .obj members =>
    .both (requiredText place "path" (.obj members)) (requiredText place "content" (.obj members))
  | value => errorAt .notAnObject place value

def readFiles (place : List Place) (index : Nat) : List Json → Checked (List (String × String))
  | [] => .ok []
  | file :: files =>
    match (readFile (place ++ [.item index]) file).both (readFiles place (index + 1) files) with
    | .ok (file, files) => .ok (file :: files)
    | .error errors => .error errors

def requiredFiles (place : List Place) (key : String) (object : Json) :
    Checked (List (String × String)) :=
  let place := place ++ [.member key]
  match object.get? key with
  | none => errorAt .missing place object
  | some (.arr files) => readFiles place 0 files
  | some value => errorAt .notAList place value

def PathBody.read : Json → Checked PathBody
  | .obj members => do
    let (path, serviceName) ←
      Checked.both (requiredText bodyPlace "path" (.obj members))
        (optionalText bodyPlace serviceNameKeys (.obj members))
    return ⟨path, serviceName⟩
  | value => errorAt .notAnObject bodyPlace value

def FilesBody.read : Json → Checked FilesBody
  | .obj members => do
    let (files, serviceName) ←
      Checked.both (requiredFiles bodyPlace "files" (.obj members))
        (optionalText bodyPlace serviceNameKeys (.obj members))
    return ⟨files, serviceName⟩
  | value => errorAt .notAnObject bodyPlace value

inductive BodyFailure where
  | errors (errors : List BodyError)
  | unreadable
  deriving Repr

def readBody (text : String) : Except BodyFailure (Option Json) :=
  if text.isEmpty then .ok none
  else
    match Json.textOfBytes? text.toUTF8 with
    | none => .error .unreadable
    | some text =>
      match Json.parse text with
      | .ok value => .ok (some value)
      | .error ⟨.tooManyDigits, _⟩ | .error ⟨.tooDeep, _⟩ => .error .unreadable
      | .error ⟨_, offset⟩ => .error (.errors [⟨.notJson, bodyPlace ++ [.offset offset], .obj []⟩])

def readBodyAs {α : Type} (read : Json → Checked α) (text : String) : Except BodyFailure α :=
  match readBody text with
  | .error failure => .error failure
  | .ok value =>
    match (value.map read).getD (errorAt .missing bodyPlace .null) with
    | .error errors => .error (.errors errors)
    | .ok found => .ok found

end Downstream.Service
