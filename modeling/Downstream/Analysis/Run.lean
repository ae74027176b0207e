import Downstream.Analysis.Basic
import Downstream.Config.Load
import Downstream.Extraction
import Downstream.Resolution
import Downstream.Root
import Downstream.Scan.Upload
import Downstream.Scan.Walk
import Downstream.ServiceName

/-!
Running an analysis: a scan or an upload gives the files, a selector chooses the key files among
them, and the candidates found in those are resolved to dependencies. The notes say what happened;
they never change the outcome.
-/
namespace Downstream

def ScanResult.require (scan : ScanResult) : Except Failure Unit :=
  if scan.files.isEmpty then .error (.noCodeFiles scan.skipped.length) else .ok ()

namespace Analysis

def firstGiven (names : List (Option String)) : Option String :=
  names.findSome? fun name => name.filter (!·.isEmpty)

/-- The name of the analysed service: as requested, as configured, or guessed. -/
def serviceName (config : Config) (request : AnalysisRequest) (files : List SourceFile) : String :=
  (firstGiven [request.serviceName, config.serviceName]).getD (ServiceName.infer files)

def selector (plugins : List Plugin) (config : Config) : SelectorChoice → Except Failure Selector
  | .given selector => .ok selector
  | .named name => get (if name.isEmpty then config.selection.selector else name)
  | .configured => get config.selection.selector
where
  get (name : String) : Except Failure Selector :=
    match Registry.get plugins name (some config.selection.topN) with
    | .ok selector => .ok selector
    | .error e => .error (.registry e)

structure Findings where
  keyFiles : List SourceFile
  found : List (List (Idiom × List Candidate))
  dependencies : List Dependency

namespace Findings

def candidates (f : Findings) : List Candidate :=
  f.found.flatten.flatMap (·.2)

def of (config : Config) (selector : Selector) (files : List SourceFile) : Findings :=
  let keyFiles := selector.select files
  let extractor : Extractor := { workers := config.extraction.workers }
  let found := extractor.findingsInAll keyFiles
  ⟨keyFiles, found, resolve (found.flatten.flatMap (·.2))⟩

def step (severity : Severity) (message : String) : Note :=
  .step ⟨severity, message⟩

def matchNotes (f : Findings) : List Note :=
  (f.keyFiles.zip f.found).flatMap fun (file, found) =>
    found.filterMap fun (idiom, candidates) =>
      if candidates.isEmpty then none
      else
        some (.logged "extraction" .debug
          (idiom.name ++ " matched " ++ toString candidates.length ++ " time(s) in " ++ file.path))

def discardNotes (f : Findings) : List Note :=
  (discarded f.candidates).map fun c =>
    .logged "resolver" .debug ("Discarding candidate " ++ c.rawName ++ " (" ++ c.evidence ++ ")")

def notes (f : Findings) : List Note :=
  step .info ("Selected " ++ toString f.keyFiles.length ++ " key file(s) for extraction")
    :: f.matchNotes
    ++ step .debug ("Extracted " ++ toString f.candidates.length ++ " candidate(s)")
    :: f.discardNotes
    ++ [step .info ("Resolved " ++ toString f.dependencies.length ++ " unique dependencies")]

end Findings

def skipEvents (scan : ScanResult) : List Note :=
  scan.skipped.map fun file =>
    .recorded ⟨.warning, "Skipped " ++ file.path ++ ": " ++ file.reason.message⟩

def skipRecords (scan : ScanResult) : List Note :=
  scan.skipped.map fun file =>
    .logged "scanner" .warning ("Skipping file " ++ file.path ++ ": " ++ file.reason.message)

def openingNotes (name : String) (files : List SourceFile) : List Note :=
  [Findings.step .info ("Found " ++ toString files.length ++ " code file(s)"),
    Findings.step .debug
      ("Service name: " ++ name ++ "; primary language: "
        ++ Language.primary (files.map (·.language)))]

def outcome (name : String) (scan : ScanResult) (f : Findings) (notes : List Note) : Outcome where
  analysis := ⟨name, f.dependencies⟩
  filesScanned := scan.files.length
  keyFiles := f.keyFiles.map (·.path)
  language := Language.primary (scan.files.map (·.language))
  skipped := scan.skipped
  events := notes.filterMap (·.event?)

/-- The analysis of a scan; `before` holds the notes taken before. -/
def ofScan (plugins : List Plugin) (config : Config) (request : AnalysisRequest)
    (before : List Note) (scan : ScanResult) : Noted Outcome :=
  let before := before ++ skipEvents scan
  match scan.require with
  | .error failure => ⟨before, .error failure⟩
  | .ok () =>
    let name := serviceName config request scan.files
    let before := before ++ openingNotes name scan.files
    match selector plugins config request.selector with
    | .error failure => ⟨before, .error failure⟩
    | .ok selector =>
      let findings := Findings.of config selector scan.files
      let notes := before ++ findings.notes
      ⟨notes, .ok (outcome name scan findings notes)⟩

def scanNotes (root : List String) (scan : ScanResult) : List Note :=
  skipRecords scan ++
    [.logged "scanner" .debug
      ("Scanned " ++ (PathText.absolute root).toString ++ ": " ++ toString scan.files.length
        ++ " files kept, " ++ toString scan.skipped.length ++ " skipped")]

def scanStart (root : List String) : Note :=
  Findings.step .info ("Scanning " ++ (PathText.absolute root).toString)

/-- The real root of the directory at a path, and the settings: those of the request, or else those
of the configuration file in the root. -/
def prepare (fs : FileSystem) (request : AnalysisRequest) (path : String) :
    Except Failure (List String × Config) := do
  let root ← fs.rootAt path
  match request.config with
  | some config => return (root, config)
  | none =>
    match Config.load fs (.absolute root) with
    | .error (.file problem _) =>
      throw (.root (.unreadable (PathText.absolute root).toString problem))
    | .error failure => throw failure
    | .ok config => return (root, config)

def ofRoot (plugins : List Plugin) (fs : FileSystem) (config : Config) (request : AnalysisRequest)
    (root : List String) : Noted Outcome :=
  let scan := fs.scan config.scan root
  ofScan plugins config request (scanStart root :: scanNotes root scan) scan

def ofPath (plugins : List Plugin) (fs : FileSystem) (request : AnalysisRequest) (path : String) :
    Noted Outcome :=
  match prepare fs request path with
  | .error failure => ⟨[], .error failure⟩
  | .ok (root, config) => ofRoot plugins fs config request root

/-- An uploaded file: a pair of a path and a text that is still to be judged, or a source file. -/
inductive Upload where
  | text (path : String) (content : Text.Points)
  | source (file : SourceFile)
  deriving DecidableEq, Repr

def Upload.record? : Upload → Option (String × Text.Points)
  | .text path content => some (path, content)
  | .source _ => none

def Upload.source? : Upload → Option SourceFile
  | .text _ _ => none
  | .source file => some file

/-- The scan that uploaded files amount to: pairs are filtered, source files are taken as they are,
and the two do not mix. The notes tell of the files skipped before the scan ends. -/
def scanOfUploads (config : ScanConfig) (uploads : List Upload) : Noted ScanResult :=
  let sources := uploads.filterMap (·.source?)
  let records := uploads.filterMap (·.record?)
  if records.isEmpty then ⟨[], .ok ⟨none, sources, []⟩⟩
  else if sources.isEmpty then
    let measured := Downstream.Upload.measured config records
    ⟨skipRecords (Downstream.Upload.scan config (Downstream.Upload.texts measured)),
      (materialize config records).mapError .unencodable⟩
  else ⟨[], .error .mixedUpload⟩

/-- The analysis of uploaded files; `directory` is where the settings count as found. -/
def ofUploads (plugins : List Plugin) (directory : String) (request : AnalysisRequest)
    (uploads : List Upload) : Noted Outcome :=
  let config := request.config.getD { root := directory }
  let scan := scanOfUploads config.scan uploads
  match scan.result with
  | .error failure => ⟨scan.notes, .error failure⟩
  | .ok found =>
    ofScan plugins config request
      (scan.notes ++
        [Findings.step .info ("Received " ++ toString uploads.length ++ " uploaded file(s)")])
      found

end Analysis

end Downstream
