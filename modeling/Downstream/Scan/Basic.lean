import Downstream.Exclusion
import Downstream.FileSystem.Problem
import Downstream.SourceFile

/-!
What a scan is asked for and what it gives: the files it keeps, and those it skips with the reason.
-/
namespace Downstream

structure ScanConfig where
  excludePaths : List String := []
  includeConfigFiles : Bool := false
  maxFileSize : Int := 5242880
  deriving DecidableEq, Repr

namespace ScanConfig

def ignoredDirectories : List String :=
  ["node_modules", ".git", ".venv", "venv", "__pycache__", ".pytest_cache", "dist", "build",
    "target", ".idea", ".vscode", "bin", "obj", ".gradle", "out"]

def codeEndings : List String :=
  [".java", ".py", ".ts", ".js", ".jsx", ".tsx", ".go", ".cpp", ".c", ".h", ".cs", ".rb", ".php",
    ".swift", ".kt", ".rs", ".scala"]

def configEndings : List String :=
  [".sh", ".yml", ".yaml", ".json", ".xml", ".sql", ".proto", ".gradle"]

def rules (config : ScanConfig) : List ExcludeRule :=
  ExcludeRule.ofTexts config.excludePaths

def smallEnding (name : String) : String :=
  Text.lowered (Language.endingOf name)

def allows (config : ScanConfig) (name : String) : Bool :=
  let ending := smallEnding name
  codeEndings.contains ending || (config.includeConfigFiles && configEndings.contains ending)

def prunes (config : ScanConfig) (name path : String) : Bool :=
  ignoredDirectories.contains name || excluded config.rules path true

def admits (config : ScanConfig) (name path : String) : Bool :=
  config.allows name && !excluded config.rules path false

end ScanConfig

inductive SkipReason where
  | emptyFile
  | tooLarge (limit : Int)
  | notText
  | unreadable (problem : FileProblem)
  deriving DecidableEq, Repr

def SkipReason.message : SkipReason → String
  | .emptyFile => "empty file"
  | .tooLarge limit => "exceeds " ++ toString limit ++ " bytes"
  | .notText => "not valid UTF-8 text"
  | .unreadable problem => "unreadable (" ++ problem.text ++ ")"

structure SkippedFile where
  path : String
  reason : SkipReason
  deriving DecidableEq, Repr

structure ScanResult where
  root : Option String
  files : List SourceFile
  skipped : List SkippedFile
  deriving DecidableEq, Repr

inductive Verdict where
  | kept (file : SourceFile)
  | skipped (file : SkippedFile)
  deriving DecidableEq, Repr

namespace Verdict

def file? : Verdict → Option SourceFile
  | .kept file => some file
  | .skipped _ => none

def skipped? : Verdict → Option SkippedFile
  | .kept _ => none
  | .skipped file => some file

def path : Verdict → String
  | .kept file => file.path
  | .skipped file => file.path

end Verdict

def ScanResult.ofVerdicts (root : Option String) (verdicts : List Verdict) : ScanResult :=
  ⟨root, verdicts.filterMap (·.file?), verdicts.filterMap (·.skipped?)⟩

/-- The verdict on a candidate by its size and by the text that it holds, if it holds text. -/
def ScanConfig.judge (config : ScanConfig) (name path : String) (size : Nat)
    (content? : Option String) : Verdict :=
  if size = 0 then .skipped ⟨path, .emptyFile⟩
  else if config.maxFileSize < size then .skipped ⟨path, .tooLarge config.maxFileSize⟩
  else
    match content? with
    | some content => .kept ⟨name, path, content, Language.ofEnding (smallEnding name), size⟩
    | none => .skipped ⟨path, .notText⟩

end Downstream
