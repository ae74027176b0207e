import Downstream.Json.Printer

/-!
Dependencies of a service: the candidates that single matches suggest, the dependencies they resolve
to, and the analysis that lists them.
-/
namespace Downstream

inductive Confidence where
  | low
  | medium
  | high
  deriving DecidableEq, Repr

namespace Confidence

def rank : Confidence → Nat
  | .low => 1
  | .medium => 2
  | .high => 3

def label : Confidence → String
  | .low => "low"
  | .medium => "medium"
  | .high => "high"

end Confidence

inductive SourceKind where
  | clientClass
  | config
  | importStatement
  | injection
  deriving DecidableEq, Repr

def SourceKind.label : SourceKind → String
  | .clientClass => "client_class"
  | .config => "config"
  | .importStatement => "import"
  | .injection => "di"

structure Candidate where
  rawName : String
  source : SourceKind
  confidence : Confidence
  evidence : String
  stripSuffixes : List String := []
  deriving DecidableEq, Repr

structure Dependency where
  name : String
  source : SourceKind
  confidence : Confidence
  evidence : String
  deriving DecidableEq, Repr

def Dependency.toJson (d : Dependency) : Json :=
  .obj [("serviceName", .str d.name), ("source", .str d.source.label),
    ("confidence", .str d.confidence.label), ("evidence", .str d.evidence)]

structure ServiceAnalysis where
  serviceName : String
  dependencies : List Dependency
  deriving DecidableEq, Repr

namespace ServiceAnalysis

def toJson (a : ServiceAnalysis) : Json :=
  .obj [("serviceName", .str a.serviceName), ("dependencies", .arr (a.dependencies.map (·.toJson)))]

def jsonText (a : ServiceAnalysis) : String :=
  a.toJson.indented

end ServiceAnalysis

end Downstream
