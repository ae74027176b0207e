import Downstream.FileSystem.Basic
import Downstream.Selection.Registry
import Downstream.Yaml.Failure

/-!
Everything that can end an analysis, with the text that the user is told. Both front ends decide by
the kind of a failure how they report it.
-/
namespace Downstream

inductive RootError where
  | notFound (root : String)
  | notADirectory (root : String)
  | unreadable (root : String) (problem : FileProblem)
  deriving DecidableEq, Repr

def RootError.message : RootError → String
  | .notFound root => "Path not found: " ++ root
  | .notADirectory root => "Path is not a directory: " ++ root
  | .unreadable root problem => "Cannot read directory " ++ root ++ ": " ++ problem.text

inductive ConfigError where
  | unreadable (file reason : String)
  | unparsable (file reason : String)
  | notAMapping
  deriving DecidableEq, Repr

def configFileName : String := ".depinfer.yml"

def ConfigError.message : ConfigError → String
  | .unreadable file reason => "Failed to read " ++ file ++ ": " ++ reason
  | .unparsable file reason => "Failed to parse " ++ file ++ ": " ++ reason
  | .notAMapping => configFileName ++ " must contain a mapping at the root"

inductive Failure where
  | root (error : RootError)
  | noCodeFiles (skipped : Nat)
  | config (error : ConfigError)
  /-- A scalar of the configuration file has no value. -/
  | configValue (failure : Yaml.Failure)
  | registry (error : RegistryError)
  | mixedUpload
  | unusablePath (error : FileSystem.PathError)
  | unencodable (halves : Text.Unencodable)
  | file (problem : FileProblem) (path : String)
  | analysis (text : String)
  deriving DecidableEq, Repr

inductive FailureKind where
  | invalidRoot
  | noCodeFiles
  | invalidConfig
  | invalidValue
  | analysis
  | other
  deriving DecidableEq, Repr

namespace Failure

def ofPath {α : Type} : Except FileSystem.PathError α → Except Failure α
  | .ok found => .ok found
  | .error e => .error (.unusablePath e)

def ofFile {α : Type} (path : PathText) : Except FileProblem α → Except Failure α
  | .ok found => .ok found
  | .error problem => .error (.file problem path.toString)

def message : Failure → String
  | .root error => error.message
  | .noCodeFiles 0 =>
    "No code files found. "
      ++ "Check file permissions and that the path contains recognised source files."
  | .noCodeFiles skipped =>
    "No code files found: " ++ toString skipped ++ " candidate file(s) were skipped "
      ++ "(empty, too large, unreadable or binary). Check file permissions."
  | .config error => error.message
  | .configValue failure => failure.message
  | .registry error => error.message
  | .mixedUpload =>
    "analyze_files expects either SourceFile records or (path, content) pairs, not both"
  | .unusablePath (.linkLoop path) => "Symlink loop from " ++ Text.quoted path
  | .unusablePath .nullCharacter => "embedded null byte"
  | .unusablePath .unknownHome => "Could not determine home directory."
  | .unusablePath (.unencodableUser halves) => halves.message
  | .unencodable halves => halves.message
  | .file problem path => problem.message path
  | .analysis text => text

def configValueKind : Yaml.Failure → FailureKind
  | .malformed _ => .invalidConfig
  | .noSuchCharacter | .integer _ | .notAFloat _ | .calendar _ => .invalidValue
  | .characterOverflow | .emptyNumber | .floatOverflow | .notABool _ | .notADate
  | .dateFromCollection | .tooDeep => .other

def kind : Failure → FailureKind
  | .root _ => .invalidRoot
  | .noCodeFiles _ => .noCodeFiles
  | .config _ => .invalidConfig
  | .configValue failure => configValueKind failure
  | .registry (.unknownNames _) => .invalidValue
  | .registry _ => .other
  | .mixedUpload => .invalidValue
  | .unusablePath .nullCharacter | .unusablePath (.unencodableUser _) => .invalidValue
  | .unusablePath _ => .other
  | .unencodable _ => .invalidValue
  | .file _ _ => .other
  | .analysis _ => .analysis

end Failure

end Downstream
