import Downstream.Config.Basic
import Downstream.Dependency
import Downstream.Failure
import Downstream.Log

/-!
What an analysis is asked for, what it tells on its way, and what it gives in the end.
-/
namespace Downstream

inductive Severity where
  | debug
  | info
  | warning
  | error
  deriving DecidableEq, Repr

namespace Severity

def label : Severity → String
  | .debug => "debug"
  | .info => "info"
  | .warning => "warning"
  | .error => "error"

def level : Severity → Int
  | .debug => LogLevel.debug
  | .info => LogLevel.info
  | .warning => LogLevel.warning
  | .error => LogLevel.error

end Severity

structure Event where
  severity : Severity
  message : String
  deriving DecidableEq, Repr

/-- A message on the way of an analysis: recorded and logged, only recorded, or only logged by the
part of the program that is named. -/
inductive Note where
  | step (event : Event)
  | recorded (event : Event)
  | logged (source : String) (severity : Severity) (message : String)
  deriving DecidableEq, Repr

namespace Note

def event? : Note → Option Event
  | .step event => some event
  | .recorded event => some event
  | .logged _ _ _ => none

def record? : Note → Option LogRecord
  | .step event => some ⟨"engine", event.severity.level, event.message⟩
  | .recorded _ => none
  | .logged source severity message => some ⟨source, severity.level, message⟩

end Note

/-- How the key files of one analysis are chosen: as configured, by the selector of a name, or by a
given selector. An empty name counts as none. -/
inductive SelectorChoice where
  | configured
  | named (name : String)
  | given (selector : Selector)

structure AnalysisRequest where
  config : Option Config := none
  selector : SelectorChoice := .configured
  serviceName : Option String := none

structure Outcome where
  analysis : ServiceAnalysis
  filesScanned : Nat
  keyFiles : List String
  language : Language
  skipped : List SkippedFile
  events : List Event
  deriving DecidableEq, Repr

structure Noted (α : Type) where
  notes : List Note
  result : Except Failure α

end Downstream
