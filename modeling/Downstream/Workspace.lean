import Downstream.Analysis.Run

/-!
What commands and requests work on: the file system, the plugins, the log, and what the log has shown
on the console. A record reaches the log file before the next step begins, so a scan sees the log file as
long as the records before it have made it.
-/
namespace Downstream

structure Workspace where
  fs : FileSystem
  plugins : List Plugin := []
  log : Log := {}
  time : String
  console : String := ""

namespace Workspace

/-- Lets one handler write a record. A file takes no line that holds a half. -/
def handle (r : LogRecord) (ws : Workspace) (handler : LogHandler) : Workspace :=
  match handler.sink with
  | .nowhere => ws
  | .console => { ws with console := ws.console ++ r.consoleLine }
  | .file path =>
    let line := r.fileLine ws.time
    if (Text.halves? line).isSome then ws else { ws with fs := ws.fs.append path line.toUTF8 }

def takeConsole (ws : Workspace) : String × Workspace :=
  (ws.console, { ws with console := "" })

def emit (ws : Workspace) (r : LogRecord) : Workspace :=
  (ws.log.takers r).foldl (handle r) ws

def emitNotes (ws : Workspace) (notes : List Note) : Workspace :=
  (notes.filterMap (·.record?)).foldl emit ws

def absolutePath (ws : Workspace) (path : PathText) : PathText :=
  ⟨max 1 path.slashes, path.collapse ws.fs.workingDirectory⟩

def openLog (ws : Workspace) (path : PathText) : Except Failure (List String × FileSystem) := do
  if path.holdsNull then throw (.unusablePath .nullCharacter)
  let path := ws.absolutePath path
  let (directory, name, bytes) ← Failure.ofFile path (ws.fs.writable path)
  return (directory ++ [name], ws.fs.setFile directory name bytes)

/-- Configures the log for the console and perhaps a file. The old handlers are gone even if the
file cannot be opened. -/
def configureLog (ws : Workspace) (verbose : Bool) (file : Option PathText) :
    Except Failure Unit × Workspace :=
  let ws := { ws with log := ws.log.dropOwn }
  match file with
  | none => (.ok (), { ws with log := ws.log.install verbose none })
  | some path =>
    match ws.openLog path with
    | .error failure => (.error failure, ws)
    | .ok (real, fs) => (.ok (), { ws with fs, log := ws.log.install verbose (some real) })

/-- Removes what is at a path. A removed log file is written to no longer. -/
def remove? (ws : Workspace) (path : List String) : Option Workspace :=
  (ws.fs.remove? path).map fun fs =>
    let isThere (path : List String) : Bool :=
      match fs.root.at? path with
      | some (.file _) => true
      | _ => false
    { ws with fs, log := ws.log.keepFiles isThere }

def scan (ws : Workspace) (config : ScanConfig) (path : String) :
    Except Failure ScanResult × Workspace :=
  match ws.fs.rootAt path with
  | .error failure => (.error failure, ws)
  | .ok root =>
    let result := ws.fs.scan config root
    (.ok result, ws.emitNotes (Analysis.scanNotes root result))

def finish {α : Type} (ws : Workspace) (noted : Noted α) : Except Failure α × Workspace :=
  (noted.result, ws.emitNotes noted.notes)

def analyze (ws : Workspace) (request : AnalysisRequest) (path : String) :
    Except Failure Outcome × Workspace :=
  match Analysis.prepare ws.fs request path with
  | .error failure => (.error failure, ws)
  | .ok (root, config) =>
    let begun := ws.emitNotes [Analysis.scanStart root]
    let noted := Analysis.ofRoot ws.plugins begun.fs config request root
    (noted.result, begun.emitNotes (noted.notes.drop 1))

def analyzeUploads (ws : Workspace) (request : AnalysisRequest) (uploads : List Analysis.Upload) :
    Except Failure Outcome × Workspace :=
  let directory := (PathText.absolute ws.fs.workingDirectory).toString
  ws.finish (Analysis.ofUploads ws.plugins directory request uploads)

end Workspace

end Downstream
