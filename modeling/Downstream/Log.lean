/-!
The log: records with a level, and the handlers that write those of a sufficient level to the
console or to a file. Handlers of other owners stay in place when the log is configured again.
-/
namespace Downstream

def logName : String := "depinfer"

namespace LogLevel

def debug : Int := 10
def info : Int := 20
def warning : Int := 30
def error : Int := 40
def critical : Int := 50

/-- The name of a level; levels between the named ones are shown by their number. -/
def label (level : Int) : String :=
  if level = debug then "DEBUG"
  else if level = info then "INFO"
  else if level = warning then "WARNING"
  else if level = error then "ERROR"
  else if level = critical then "CRITICAL"
  else "Level " ++ toString level

def ofConsole (verbose : Bool) : Int :=
  if verbose then debug else warning

end LogLevel

structure LogRecord where
  source : String
  level : Int
  message : String
  deriving DecidableEq, Repr

namespace LogRecord

def fullName (source : String) : String :=
  if source.isEmpty then logName else logName ++ "." ++ source

def consoleLine (r : LogRecord) : String :=
  "[" ++ logName ++ "] " ++ LogLevel.label r.level ++ " " ++ r.message ++ "\n"

def fileLine (time : String) (r : LogRecord) : String :=
  time ++ " " ++ LogLevel.label r.level ++ " " ++ fullName r.source ++ ": " ++ r.message ++ "\n"

end LogRecord

/-- Where a handler writes; the path of a file is its real path. -/
inductive LogSink where
  | nowhere
  | console
  | file (path : List String)
  deriving DecidableEq, Repr

structure LogHandler where
  name : String
  level : Int
  sink : LogSink
  deriving DecidableEq, Repr

/-- The handlers in the order in which they were added, the level from which on records are handled,
and whether records are passed on to an enclosing log. Level zero means the level of that log. -/
structure Log where
  handlers : List LogHandler := []
  level : Int := 0
  propagates : Bool := true
  deriving DecidableEq, Repr

namespace Log

def consoleName : String := logName ++ ".console"

def fileName : String := logName ++ ".file"

def enclosingLevel : Int := LogLevel.warning

def effectiveLevel (log : Log) : Int :=
  if log.level = 0 then enclosingLevel else log.level

def takers (log : Log) (r : LogRecord) : List LogHandler :=
  if 0 < r.level ∧ log.effectiveLevel ≤ r.level then log.handlers.filter (·.level ≤ r.level) else []

def add (log : Log) (handler : LogHandler) : Log :=
  { log with handlers := log.handlers ++ [handler] }

def addForeign (log : Log) (name : String) : Log :=
  log.add ⟨name, 0, .nowhere⟩

def dropOwn (log : Log) : Log :=
  { log with handlers := log.handlers.filter fun h => h.name != consoleName && h.name != fileName }

/-- Adds the console handler, and the file handler if a file is given. The log takes records from
the lowest of their levels on and passes none on. -/
def install (log : Log) (verbose : Bool) (file : Option (List String)) : Log :=
  let console : LogHandler := ⟨consoleName, LogLevel.ofConsole verbose, .console⟩
  match file with
  | none => ⟨log.handlers ++ [console], console.level, false⟩
  | some path =>
    let file : LogHandler := ⟨fileName, LogLevel.debug, .file path⟩
    ⟨log.handlers ++ [console, file], min console.level file.level, false⟩

def keepFiles (isThere : List String → Bool) (log : Log) : Log :=
  let cut (h : LogHandler) : LogHandler :=
    match h.sink with
    | .file path => if isThere path then h else { h with sink := .nowhere }
    | _ => h
  { log with handlers := log.handlers.map cut }

end Log

end Downstream
