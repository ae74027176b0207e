import Downstream.Report
import Downstream.Service.Body
import Downstream.Workspace

/-!
Answering requests: the routes of the service, and what the outcome or the failure of an analysis
becomes.
-/
namespace Downstream.Service

structure Request where
  method : String
  path : String
  body : String := ""
  deriving DecidableEq, Repr

inductive Response where
  | healthy
  | outcome (outcome : Outcome)
  | refused (status : Nat) (detail : String)
  | invalidBody (errors : List BodyError)
  /-- A failure that the service does not expect. -/
  | crashed
  /-- An answer without a body. -/
  | bare (status : Nat)
  deriving Repr

namespace Response

def status : Response → Nat
  | .healthy | .outcome _ => 200
  | .refused status _ | .bare status => status
  | .invalidBody _ => 422
  | .crashed => 500

def placeJson : Place → Json
  | .member key => .str key
  | .item index => .int index
  | .offset characters => .int characters

def outcomeJson (o : Outcome) : Json :=
  .obj [("success", .bool true), ("serviceName", .str o.analysis.serviceName),
    ("dependencies", .arr (o.analysis.dependencies.map (·.toJson))),
    ("context", .str (o.analysis.report true)), ("fileCount", .int o.filesScanned)]

def errorJson (e : BodyError) : Json :=
  .obj [("type", .str e.defect.label), ("loc", .arr (e.place.map placeJson)),
    ("msg", .str e.defect.message), ("input", e.found.withoutRepeats)]

def json? : Response → Option Json
  | .healthy => some (.obj [("status", .str "ok")])
  | .outcome o => some (outcomeJson o)
  | .refused _ detail => some (.obj [("detail", .str detail)])
  | .invalidBody errors => some (.obj [("detail", .arr (errors.map errorJson))])
  | .crashed | .bare _ => none

def text (r : Response) : String :=
  match r with
  | .crashed => "Internal Server Error"
  | .bare _ => ""
  | r => (r.json?.map Json.compact).getD ""

def ofFailure (failure : Failure) : Response :=
  match failure.kind with
  | .invalidRoot | .invalidConfig | .invalidValue => .refused 400 failure.message
  | .noCodeFiles => .refused 404 failure.message
  | .analysis => .refused 500 ("Analysis failed: " ++ failure.message)
  | .other => .crashed

def ofBodyFailure : BodyFailure → Response
  | .errors errors => .invalidBody errors
  | .unreadable => .refused 400 "There was an error parsing the body"

/-- The answer that takes the place of one that cannot be written: a number in it has no text, or a
text in it has no bytes. -/
def written (r : Response) : Response :=
  match r with
  | .outcome o =>
    match (outcomeJson o).halves? with
    | some halves =>
      .refused 400 ("Error serializing to JSON: UnicodeEncodeError: " ++ halves.message)
    | none => r
  | r =>
    if !r.json?.all Json.isFinite then
      .refused 400 "Out of range float values are not JSON compliant"
    else
      match Text.halves? r.text with
      | some halves => .refused 400 halves.message
      | none => r

end Response

inductive Route where
  | health
  | analyze
  | analyzeFiles
  | manual
  deriving DecidableEq, Repr

namespace Route

def all : List (String × List String × Route) :=
  [("/openapi.json", ["GET", "HEAD"], .manual), ("/docs", ["GET", "HEAD"], .manual),
    ("/docs/oauth2-redirect", ["GET", "HEAD"], .manual), ("/redoc", ["GET", "HEAD"], .manual),
    ("/health", ["GET"], .health), ("/analyze", ["POST"], .analyze),
    ("/analyze/files", ["POST"], .analyzeFiles)]

/-- The route of a path with its methods. A line break at the end does not count. -/
def find? (path : String) : Option (List String × Route) :=
  (all.lookup path).or
    (if path.endsWith "\n" then all.lookup (path.dropEnd 1).toString else none)

def isMoved (path : String) : Bool :=
  let rest := (path.toList.reverse.dropWhile (· == '/')).reverse
  path != "/" && path.endsWith "/" && (find? (String.ofList rest)).isSome

end Route

abbrev Analyzer := AnalysisRequest → String → Workspace → Except Failure Outcome × Workspace

def analyzer : Analyzer := fun request path ws => ws.analyze request path

def record (severity : Severity) (message : String) : LogRecord :=
  ⟨"service", severity.level, message⟩

def answer (result : Except Failure Outcome) (ws : Workspace) : Response × Workspace :=
  match result with
  | .ok outcome => (.outcome outcome, ws)
  | .error failure =>
    let ws :=
      if failure.kind = .analysis then
        ws.emit (record .error ("Analysis failed: " ++ failure.message))
      else ws
    (.ofFailure failure, ws)

def answerPath (analyzer : Analyzer) (body : PathBody) (ws : Workspace) : Response × Workspace :=
  if (Text.trim body.path.toList).isEmpty then
    (.refused 400 "Please provide a valid directory path", ws)
  else
    let ws := ws.emit (record .info ("Analyzing directory " ++ body.path))
    let (result, ws) := analyzer { serviceName := body.serviceName } body.path ws
    answer result ws

def answerFiles (body : FilesBody) (ws : Workspace) : Response × Workspace :=
  let uploads := body.files.map fun (path, content) =>
    Analysis.Upload.text path (.ofMarked content)
  let (result, ws) := ws.analyzeUploads { serviceName := body.serviceName } uploads
  answer result ws

def answerRoute (analyzer : Analyzer) (request : Request) (ws : Workspace) :
    Route → Response × Workspace
  | .health => (.healthy, ws)
  | .manual => (.bare 200, ws)
  | .analyze =>
    match readBodyAs PathBody.read request.body with
    | .error failure => (.ofBodyFailure failure, ws)
    | .ok body => answerPath analyzer body ws
  | .analyzeFiles =>
    match readBodyAs FilesBody.read request.body with
    | .error failure => (.ofBodyFailure failure, ws)
    | .ok body => answerFiles body ws

/-- The answer that refuses a request. One that asks for the head only has no body. -/
def refuse (request : Request) (status : Nat) (detail : String) : Response :=
  if request.method = "HEAD" then .bare status else .refused status detail

def respond (analyzer : Analyzer) (request : Request) (ws : Workspace) : Response × Workspace :=
  match Route.find? request.path with
  | none => (if Route.isMoved request.path then .bare 307 else refuse request 404 "Not Found", ws)
  | some (methods, route) =>
    if !methods.contains request.method then (refuse request 405 "Method Not Allowed", ws)
    else
      let (response, ws) := answerRoute analyzer request ws route
      (response.written, ws)

end Downstream.Service
