import Downstream.CommandLine.Command
import Downstream.Report
import Downstream.Workspace

/-!
Running the program: what it writes to its two outputs, the status it ends with, and the workspace
that it leaves. A failure that no command expects is passed on.
-/
namespace Downstream.CommandLine

structure Completion where
  status : Nat
  output : String := ""
  errors : String := ""
  deriving DecidableEq, Repr

/-- The status that the program ends with; a failure that is passed on counts as an error of its
own. -/
def exitStatus : Except Failure Completion → Nat
  | .ok completion => completion.status
  | .error _ => 1

namespace Completion

def usageStatus : Nat := 2

def failureStatus : FailureKind → Nat
  | .invalidRoot => 2
  | .noCodeFiles => 3
  | .invalidConfig | .invalidValue | .analysis | .other => 1

def failureText (failure : Failure) : String :=
  match failure.kind with
  | .invalidRoot => "❌ Path problem: " ++ failure.message ++ "\n"
  | .noCodeFiles => "❌ " ++ failure.message ++ "\n"
  | .invalidConfig | .invalidValue => "❌ Analysis failed: " ++ failure.message ++ "\n"
  | .analysis | .other =>
    "❌ Internal error: " ++ failure.message ++ "\nRun with --verbose for more details.\n"

def ofHalt : Halt → Completion
  | .help text => { status := 0, output := text }
  | .refused program usage error =>
    { status := usageStatus, errors := usage ++ program ++ ": error: " ++ error.message ++ "\n" }

end Completion

def unlines (lines : List String) : String :=
  String.join (lines.map (· ++ "\n"))

def openingText (path : String) : String :=
  unlines ["🔍 Scanning codebase...", "📁 Directory: " ++ path]

def dependencyLines (verbose : Bool) (d : Dependency) (number : Nat) : List String :=
  ("   " ++ toString number ++ ". " ++ d.name ++ " (" ++ d.confidence.label ++ ")")
    :: if verbose then
        ["      Source: " ++ d.source.label, "      Evidence: " ++ d.evidence]
      else []

def dependencyListing (verbose : Bool) (dependencies : List Dependency) : List String :=
  if dependencies.isEmpty then ["   ⚠️  No dependencies found (may need more config files)"]
  else
    ["", "📦 Dependencies list:"]
      ++ (dependencies.zipIdx 1).flatMap fun (d, number) => dependencyLines verbose d number

def summaryLines (verbose : Bool) (o : Outcome) : List String :=
  ["✅ Found " ++ toString o.filesScanned ++ " code files"]
    ++ (if o.skipped.isEmpty then []
        else ["⚠️  Skipped " ++ toString o.skipped.length ++ " file(s)"])
    ++ ["", "📊 Analysis results:",
      "   Service name: " ++ o.analysis.serviceName,
      "   Dependencies count: " ++ toString o.analysis.dependencies.length]
    ++ (if verbose then
          ["   Primary language: " ++ o.language,
            "   Key files: " ++
              if o.keyFiles.isEmpty then "(none)" else Text.join ", " o.keyFiles]
        else [])
    ++ dependencyListing verbose o.analysis.dependencies

def rule : String :=
  String.ofList (List.replicate 40 '━')

def reportText (analysis : ServiceAnalysis) (diagram : Bool) : String :=
  unlines ["", "📝 Use the following prompt to generate the diagram:", rule]
    ++ analysis.report diagram ++ unlines [rule]

/-- A path as it is shown: from the working directory on where it lies below it. -/
def shownPath (fs : FileSystem) (path : PathText) : String :=
  let real := fs.realPath path
  if fs.workingDirectory.isPrefixOf real then
    (PathText.mk 0 (real.drop fs.workingDirectory.length)).toString
  else path.toString

/-- Writes an analysis to a file: the line that is shown, or the error that is told. A text that
cannot be written in bytes leaves the file empty. -/
def saveAnalysis (ws : Workspace) (analysis : ServiceAnalysis) (file : String) :
    Except Failure (Except String String) × Workspace :=
  let path := PathText.ofString file
  let text := analysis.jsonText ++ "\n"
  let halves := Text.halves? text
  if path.holdsNull then (.error (.unusablePath .nullCharacter), ws)
  else
    match ws.fs.write path (if halves.isSome then .empty else text.toUTF8), halves with
    | .error problem, _ =>
      (.ok (.error ("❌ Cannot write " ++ path.toString ++ ": "
        ++ (Failure.file problem path.toString).message ++ "\n")), ws)
    | .ok fs, some halves => (.error (.unencodable halves), { ws with fs })
    | .ok fs, none =>
      (.ok (.ok (unlines ["", "✅ Analysis results saved to: " ++ shownPath fs path])),
        { ws with fs })

def nonempty (option : Option String) : Option String :=
  option.filter (!·.isEmpty)

def conclude (verbose : Bool) (options : AnalyzeOptions) (o : Outcome) (ws : Workspace) :
    Except Failure Completion × Workspace :=
  let summary := unlines (summaryLines verbose o)
  let report := reportText o.analysis options.diagram
  match nonempty options.output with
  | none => (.ok { status := 0, output := summary ++ report }, ws)
  | some file =>
    match saveAnalysis ws o.analysis file with
    | (.error failure, ws) => (.error failure, ws)
    | (.ok (.error text), ws) => (.ok { status := 1, output := summary, errors := text }, ws)
    | (.ok (.ok saved), ws) => (.ok { status := 0, output := summary ++ saved ++ report }, ws)

def requestOf (options : AnalyzeOptions) : AnalysisRequest where
  selector :=
    match options.selector with
    | some name => .named name
    | none => .configured
  serviceName := options.serviceName

def pathMissing : Failure :=
  .analysis "expected str, bytes or os.PathLike object, not list"

def analyze (verbose : Bool) (options : AnalyzeOptions) (ws : Workspace) :
    Except Failure Completion × Workspace :=
  let opening := openingText (options.path.getD "[]")
  let analysis :=
    match options.path with
    | some path => ws.analyze (requestOf options) path
    | none => (.error pathMissing, ws)
  match analysis with
  | (.error failure, ws) =>
    (.ok { status := Completion.failureStatus failure.kind, output := opening,
           errors := Completion.failureText failure }, ws)
  | (.ok o, ws) =>
    match conclude verbose options o ws with
    | (.error failure, ws) => (.error failure, ws)
    | (.ok completion, ws) => (.ok { completion with output := opening ++ completion.output }, ws)

def logFile? : Command → Option PathText
  | .analyze options => (nonempty options.logFile).map .ofString
  | .serve _ => none

/-- Carries out a command once the log is configured. No network is at hand to serve. -/
def carryOut (verbose : Bool) (command : Command) (ws : Workspace) :
    Except Failure Completion × Workspace :=
  match command with
  | .analyze options => analyze verbose options ws
  | .serve options =>
    let address := options.host ++ ":" ++ toString options.port
    (.ok { status := 1, errors := "❌ Cannot listen on " ++ address ++ "\n" }, ws)

/-- Runs the program. What the log shows on the console comes before what the program itself says on
its error output. -/
def run (arguments : List String) (ws : Workspace) : Except Failure Completion × Workspace :=
  match Invocation.read arguments with
  | .error halt => (.ok (.ofHalt halt), ws)
  | .ok invocation =>
    match ws.configureLog invocation.verbose (logFile? invocation.command) with
    | (.error failure, ws) => (.error failure, ws)
    | (.ok (), ws) =>
      let (result, ws) := carryOut invocation.verbose invocation.command { ws with console := "" }
      let (shown, ws) := ws.takeConsole
      (result.map fun completion => { completion with errors := shown ++ completion.errors }, ws)

end Downstream.CommandLine
