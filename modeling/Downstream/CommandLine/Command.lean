import Downstream.CommandLine.Arguments

/-!
The commands of the program with their options.
-/
namespace Downstream.CommandLine

/-- The options of an analysis. The path is missing where the option for it got no text. -/
structure AnalyzeOptions where
  path : Option String := some "."
  output : Option String := none
  serviceName : Option String := none
  selector : Option String := none
  diagram : Bool := true
  logFile : Option String := none
  deriving DecidableEq, Repr

structure ServeOptions where
  host : String := "127.0.0.1"
  port : Int := 8000
  deriving DecidableEq, Repr

inductive Command where
  | analyze (options : AnalyzeOptions)
  | serve (options : ServeOptions)
  deriving DecidableEq, Repr

structure Invocation where
  verbose : Bool
  command : Command
  deriving DecidableEq, Repr

def verboseOption {σ : Type} (set : σ → σ) : OptionRule σ :=
  ⟨["-v", "--verbose"], .flag set, "Show dependency sources and evidence, and debug logging."⟩

def programGrammar : Grammar Bool where
  program := "depinfer"
  description := some "Infer downstream service dependencies from a local codebase."
  options := [.showHelp, verboseOption fun _ => true]
  commands :=
    [("analyze", "Scan a codebase and list the services it depends on."),
      ("serve", "Run the HTTP analysis service.")]

def analyzeGrammar : Grammar (Bool × AnalyzeOptions) where
  program := "depinfer analyze"
  options :=
    [.showHelp,
      verboseOption fun (_, o) => (true, o),
      ⟨["-p", "--path"], .text "PATH" fun path (v, o) => (v, { o with path }),
        "Path to the codebase root (defaults to current directory)."⟩,
      ⟨["-o", "--output"], .text "OUTPUT" fun output (v, o) => (v, { o with output }),
        "Write the analysis as JSON to this file."⟩,
      ⟨["--service-name"],
        .text "SERVICE_NAME" fun serviceName (v, o) => (v, { o with serviceName }),
        "Use this service name instead of inferring it from the file layout."⟩,
      ⟨["--selector"], .text "SELECTOR" fun selector (v, o) => (v, { o with selector }),
        "Key-file selector to use (heuristic, module-fallback or a plugin name)."⟩,
      ⟨["--no-diagram"], .flag fun (v, o) => (v, { o with diagram := false }),
        "Omit the diagram requirements section from the printed context."⟩,
      ⟨["--log-file"], .text "LOG_FILE" fun logFile (v, o) => (v, { o with logFile }),
        "Also write debug logs to this file."⟩]

def serveGrammar : Grammar (Bool × ServeOptions) where
  program := "depinfer serve"
  options :=
    [.showHelp,
      verboseOption fun (_, o) => (true, o),
      ⟨["--host"], .text "HOST" fun host (v, o) => (v, { o with host := host.getD o.host }),
        "Interface to bind."⟩,
      ⟨["--port"], .integer "PORT" fun port (v, o) => (v, { o with port }), "Port to listen on."⟩]

def readCommand (name : String) (words : List String) :
    Except Halt (Bool × Command × List String) :=
  if name = "analyze" then do
    let reading ← analyzeGrammar.read (false, {}) words
    return (reading.settings.1, .analyze reading.settings.2, reading.leftOver)
  else if name = "serve" then do
    let reading ← serveGrammar.read (false, {}) words
    return (reading.settings.1, .serve reading.settings.2, reading.leftOver)
  else throw (programGrammar.refuse (.unknownCommand name (programGrammar.commands.map (·.1))))

def Invocation.read (arguments : List String) : Except Halt Invocation := do
  let reading ← programGrammar.read false arguments
  match reading.command with
  | [] => throw (programGrammar.refuse .missingCommand)
  | name :: words =>
    let (verbose, command, leftOver) ← readCommand name words
    let leftOver := reading.leftOver ++ leftOver
    if !leftOver.isEmpty then throw (programGrammar.refuse (.unknownWords leftOver))
    return ⟨reading.settings || verbose, command⟩

end Downstream.CommandLine
