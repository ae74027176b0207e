import Downstream.Proofs.Analysis.Run

/-!
The log over any run of configurations, additions of handlers and records. A configuration puts the
own handlers anew behind the foreign ones; the steps that follow only add handlers and write. So the
console shows a record exactly if the last configuration asked for its level, with a log file or
without one.
-/
namespace Downstream

def LogHandler.isForeign (handler : LogHandler) : Bool :=
  handler.name != Log.consoleName && handler.name != Log.fileName

inductive LogStep where
  | configure (verbose : Bool) (file : Option PathText)
  | add (handler : { handler : LogHandler // handler.isForeign = true })
  | write (record : LogRecord)

namespace LogStep

def added : LogStep → List LogHandler
  | .add handler => [handler.1]
  | _ => []

def isConfigure : LogStep → Bool
  | .configure _ _ => true
  | _ => false

end LogStep

namespace Workspace

def perform (ws : Workspace) : LogStep → Except Failure Workspace
  | .configure verbose file =>
    match ws.configureLog verbose file with
    | (.ok (), after) => .ok after
    | (.error failure, _) => .error failure
  | .add handler => .ok { ws with log := ws.log.add handler.1 }
  | .write record => .ok (ws.emit record)

def performAll (ws : Workspace) (steps : List LogStep) : Except Failure Workspace :=
  steps.foldlM perform ws

end Workspace

namespace Log

def consoleHandler (verbose : Bool) : LogHandler :=
  ⟨consoleName, LogLevel.ofConsole verbose, .console⟩

def fileHandler (path : List String) : LogHandler :=
  ⟨fileName, LogLevel.debug, .file path⟩

/-- The own handlers that a configuration installs: the console handler, and the file handler behind
it exactly if there is a file. -/
def ownHandlers (verbose : Bool) (file : Option (List String)) : List LogHandler :=
  consoleHandler verbose :: file.toList.map fileHandler

def own (log : Log) : List LogHandler :=
  log.handlers.filter fun handler => !handler.isForeign

def foreign (log : Log) : List LogHandler :=
  log.handlers.filter (·.isForeign)

/-- What a configuration and any additions since have left: the own handlers, nothing passed on to
an enclosing log, and a level that holds back nothing that the console is to show. -/
structure SetUp (log : Log) (verbose : Bool) (file : Option (List String)) : Prop where
  own_eq : log.own = ownHandlers verbose file
  propagates_eq : log.propagates = false
  level_pos : 0 < log.level
  level_le : log.level ≤ LogLevel.ofConsole verbose

variable {log : Log} {verbose : Bool} {file : Option (List String)}

theorem ofConsole_pos (verbose : Bool) : 0 < LogLevel.ofConsole verbose := by
  cases verbose <;> decide

theorem isForeign_eq_false_of_mem_ownHandlers {handler : LogHandler}
    (isOwn : handler ∈ ownHandlers verbose file) : handler.isForeign = false := by
  simp only [ownHandlers, List.mem_cons, List.mem_map] at isOwn
  obtain rfl | ⟨path, -, rfl⟩ := isOwn
  · rfl
  · rfl

theorem install_handlers (log : Log) (verbose : Bool) (file : Option (List String)) :
    (log.install verbose file).handlers = log.handlers ++ ownHandlers verbose file := by
  cases file <;> rfl

theorem install_level (log : Log) (verbose : Bool) (file : Option (List String)) :
    (log.install verbose file).level =
      if file.isSome then min (LogLevel.ofConsole verbose) LogLevel.debug
      else LogLevel.ofConsole verbose := by
  cases file <;> rfl

theorem dropOwn_handlers (log : Log) : log.dropOwn.handlers = log.foreign := rfl

/-! ### The foreign handlers and the own ones -/

theorem foreign_add {handler : LogHandler} (isForeign : handler.isForeign = true) :
    (log.add handler).foreign = log.foreign ++ [handler] := by
  simp [foreign, add, isForeign]

theorem own_add {handler : LogHandler} (isForeign : handler.isForeign = true) :
    (log.add handler).own = log.own := by
  simp [own, add, isForeign]

theorem foreign_install_dropOwn (log : Log) (verbose : Bool) (file : Option (List String)) :
    (log.dropOwn.install verbose file).foreign = log.foreign := by
  have noneOwn : (ownHandlers verbose file).filter (·.isForeign) = [] := by
    refine List.filter_eq_nil_iff.mpr fun handler isOwn => ?_
    rw [isForeign_eq_false_of_mem_ownHandlers isOwn]
    decide
  rw [foreign, install_handlers, dropOwn_handlers, List.filter_append, noneOwn, List.append_nil,
    foreign, List.filter_filter]
  simp

theorem setUp_install_dropOwn (log : Log) (verbose : Bool) (file : Option (List String)) :
    (log.dropOwn.install verbose file).SetUp verbose file where
  own_eq := by
    have noneForeign : log.foreign.filter (fun handler => !handler.isForeign) = [] := by
      simp [foreign, List.filter_filter]
    have allOwn : (ownHandlers verbose file).filter (fun handler => !handler.isForeign) =
        ownHandlers verbose file := by
      refine List.filter_eq_self.mpr fun handler isOwn => ?_
      rw [isForeign_eq_false_of_mem_ownHandlers isOwn]
      rfl
    rw [own, install_handlers, dropOwn_handlers, List.filter_append, noneForeign, allOwn,
      List.nil_append]
  propagates_eq := by cases file <;> rfl
  level_pos := by
    rw [install_level]
    split
    · cases verbose <;> decide
    · exact ofConsole_pos verbose
  level_le := by
    rw [install_level]
    split
    · exact Int.min_le_left _ _
    · exact Int.le_refl _

theorem SetUp.add {handler : LogHandler} (setUp : log.SetUp verbose file)
    (isForeign : handler.isForeign = true) : (log.add handler).SetUp verbose file where
  own_eq := (own_add isForeign).trans setUp.own_eq
  propagates_eq := setUp.propagates_eq
  level_pos := setUp.level_pos
  level_le := setUp.level_le

/-! ### Who takes a record -/

theorem filter_takers (log : Log) (r : LogRecord) (p : LogHandler → Bool) :
    (log.takers r).filter p =
      if 0 < r.level ∧ log.effectiveLevel ≤ r.level then
        (log.handlers.filter p).filter (·.level ≤ r.level)
      else [] := by
  rw [takers]
  split
  · rw [List.filter_filter, List.filter_filter]
    exact List.filter_congr fun handler _ => Bool.and_comm _ _
  · rfl

theorem SetUp.filter_handlers (setUp : log.SetUp verbose file) {p : LogHandler → Bool}
    (ofForeign : ∀ handler ∈ log.foreign, p handler = false) :
    log.handlers.filter p = (ownHandlers verbose file).filter p := by
  rw [← setUp.own_eq, own, List.filter_filter]
  refine List.filter_congr fun handler isThere => ?_
  cases isForeign : handler.isForeign with
  | false => simp
  | true => simp [ofForeign handler (List.mem_filter.mpr ⟨isThere, isForeign⟩)]

/-- The console handler takes what the last configuration asked for: where the level of the log is
lowered for a file, the level of the handler still holds. -/
theorem SetUp.filter_takers (setUp : log.SetUp verbose file) (r : LogRecord)
    {p : LogHandler → Bool} (ofForeign : ∀ handler ∈ log.foreign, p handler = false)
    (ofOwn : (ownHandlers verbose file).filter p = [consoleHandler verbose]) :
    (log.takers r).filter p =
      if LogLevel.ofConsole verbose ≤ r.level then [consoleHandler verbose] else [] := by
  have effective : log.effectiveLevel = log.level := if_neg (Int.ne_of_gt setUp.level_pos)
  have level_pos := setUp.level_pos
  have level_le := setUp.level_le
  rw [Log.filter_takers, setUp.filter_handlers ofForeign, ofOwn, effective]
  by_cases asked : LogLevel.ofConsole verbose ≤ r.level
  · -- The log's own level is at most that of the console handler, so it holds nothing back here.
    have handled : 0 < r.level ∧ log.level ≤ r.level := by omega
    rw [if_pos handled, if_pos asked]
    exact List.filter_cons_of_pos (decide_eq_true asked)
  · rw [if_neg asked]
    split
    · exact List.filter_cons_of_neg fun low => asked (of_decide_eq_true low)
    · rfl

theorem name_ne_consoleName_of_mem_foreign {handler : LogHandler}
    (member : handler ∈ log.foreign) : (handler.name == consoleName) = false := by
  have isForeign := (List.mem_filter.mp member).2
  rw [LogHandler.isForeign, Bool.and_eq_true] at isForeign
  simpa using isForeign.1

theorem filter_name_ownHandlers (verbose : Bool) (file : Option (List String)) :
    (ownHandlers verbose file).filter (·.name == consoleName) = [consoleHandler verbose] := by
  cases file <;> rfl

theorem filter_sink_ownHandlers (verbose : Bool) (file : Option (List String)) :
    (ownHandlers verbose file).filter (·.sink = .console) = [consoleHandler verbose] := by
  cases file <;> rfl

end Log

namespace Workspace

variable {ws after : Workspace} {verbose : Bool}

/-! ### What a record leaves -/

theorem handle_log (r : LogRecord) (ws : Workspace) (handler : LogHandler) :
    (handle r ws handler).log = ws.log := by
  unfold handle
  split
  · rfl
  · rfl
  · dsimp only
    split <;> rfl

theorem handle_console (r : LogRecord) (ws : Workspace) (handler : LogHandler) :
    (handle r ws handler).console =
      ws.console ++ if handler.sink = .console then r.consoleLine else "" := by
  unfold handle
  split
  · rename_i nowhere
    simp [nowhere]
  · rename_i isConsole
    simp [isConsole]
  · rename_i isFile
    dsimp only
    split <;> simp [isFile]

theorem emit_log (ws : Workspace) (r : LogRecord) : (ws.emit r).log = ws.log := by
  rw [emit]
  generalize ws.log.takers r = handlers
  induction handlers generalizing ws with
  | nil => rfl
  | cons handler rest ih => rw [List.foldl_cons, ih, handle_log]

theorem foldl_handle_console (r : LogRecord) (handlers : List LogHandler) (ws : Workspace) :
    (handlers.foldl (handle r) ws).console =
      (handlers.filter (·.sink = .console)).foldl (fun shown _ => shown ++ r.consoleLine)
        ws.console := by
  induction handlers generalizing ws with
  | nil => rfl
  | cons handler rest ih =>
    rw [List.foldl_cons, ih, handle_console]
    by_cases isConsole : handler.sink = .console
    · simp [isConsole]
    · simp [isConsole]

theorem emit_console {file : Option (List String)} (setUp : ws.log.SetUp verbose file)
    (silent : ∀ handler ∈ ws.log.foreign, handler.sink ≠ .console) (r : LogRecord) :
    (ws.emit r).console =
      ws.console ++ if LogLevel.ofConsole verbose ≤ r.level then r.consoleLine else "" := by
  have takes := setUp.filter_takers r
    (fun handler isForeign => decide_eq_false (silent handler isForeign))
    (Log.filter_sink_ownHandlers verbose file)
  rw [emit, foldl_handle_console, takes]
  split <;> simp

/-! ### What a step leaves -/

inductive Leaves (log : Log) : LogStep → Log → Prop where
  | configured (verbose : Bool) (file : Option PathText) (real : Option (List String))
      (given : real.isSome = file.isSome) :
      Leaves log (.configure verbose file) (log.dropOwn.install verbose real)
  | added (handler : { handler : LogHandler // handler.isForeign = true }) :
      Leaves log (.add handler) (log.add handler.1)
  | wrote (record : LogRecord) : Leaves log (.write record) log

theorem configureLog_ok {file : Option PathText}
    (configured : ws.configureLog verbose file = (.ok (), after)) :
    ∃ real, real.isSome = file.isSome ∧ after.log = ws.log.dropOwn.install verbose real := by
  cases file with
  | none =>
    obtain ⟨-, rfl⟩ := Prod.mk.inj configured
    exact ⟨none, rfl, rfl⟩
  | some path =>
    simp only [configureLog] at configured
    split at configured
    · simp at configured
    · rename_i real fs opened
      obtain ⟨-, rfl⟩ := Prod.mk.inj configured
      exact ⟨some real, rfl, rfl⟩

theorem perform_leaves {step : LogStep} (performed : ws.perform step = .ok after) :
    Leaves ws.log step after.log := by
  cases step with
  | configure verbose file =>
    simp only [perform] at performed
    split at performed
    · rename_i result configured
      obtain rfl := Except.ok.inj performed
      obtain ⟨real, given, left⟩ := configureLog_ok configured
      rw [left]
      exact .configured verbose file real given
    · simp at performed
  | add handler =>
    obtain rfl := Except.ok.inj performed
    exact .added handler
  | write record =>
    obtain rfl := Except.ok.inj performed
    rw [emit_log]
    exact .wrote record

theorem Leaves.foreign {log left : Log} {step : LogStep} (leaves : Leaves log step left) :
    left.foreign = log.foreign ++ step.added := by
  cases leaves with
  | configured verbose file real given =>
    rw [Log.foreign_install_dropOwn]
    exact (List.append_nil _).symm
  | added handler => exact Log.foreign_add handler.2
  | wrote record => exact (List.append_nil _).symm

theorem Leaves.setUp {log left : Log} {step : LogStep} {file : Option (List String)}
    (leaves : Leaves log step left) (stays : step.isConfigure = false)
    (setUp : log.SetUp verbose file) : left.SetUp verbose file := by
  cases leaves with
  | configured => simp [LogStep.isConfigure] at stays
  | added handler => exact setUp.add handler.2
  | wrote record => exact setUp

theorem perform_configure_setUp {file : Option PathText}
    (performed : ws.perform (.configure verbose file) = .ok after) :
    ∃ real, real.isSome = file.isSome ∧ after.log.SetUp verbose real := by
  have leaves := perform_leaves performed
  generalize after.log = left at leaves ⊢
  cases leaves with
  | configured verbose file real given =>
    exact ⟨real, given, Log.setUp_install_dropOwn ws.log verbose real⟩

/-! ### What a run leaves -/

theorem performAll_cons_ok {step : LogStep} {steps : List LogStep}
    (ran : ws.performAll (step :: steps) = .ok after) :
    ∃ next, ws.perform step = .ok next ∧ next.performAll steps = .ok after := by
  rw [performAll, List.foldlM_cons] at ran
  cases performed : ws.perform step with
  | error failure => rw [performed] at ran; simp [bind, Except.bind] at ran
  | ok next => rw [performed] at ran; exact ⟨next, rfl, ran⟩

theorem performAll_append_ok {before later : List LogStep}
    (ran : ws.performAll (before ++ later) = .ok after) :
    ∃ next, ws.performAll before = .ok next ∧ next.performAll later = .ok after := by
  induction before generalizing ws with
  | nil => exact ⟨ws, rfl, ran⟩
  | cons step steps ih =>
    obtain ⟨mid, performed, rest⟩ := performAll_cons_ok ran
    obtain ⟨next, first, second⟩ := ih rest
    refine ⟨next, ?_, second⟩
    rw [performAll, List.foldlM_cons, performed]
    exact first

theorem performAll_foreign {steps : List LogStep} (ran : ws.performAll steps = .ok after) :
    after.log.foreign = ws.log.foreign ++ steps.flatMap (·.added) := by
  induction steps generalizing ws with
  | nil =>
    obtain rfl := Except.ok.inj ran
    exact (List.append_nil _).symm
  | cons step steps ih =>
    obtain ⟨next, performed, rest⟩ := performAll_cons_ok ran
    rw [ih rest, (perform_leaves performed).foreign, List.flatMap_cons, List.append_assoc]

theorem performAll_setUp {steps : List LogStep} {file : Option (List String)}
    (ran : ws.performAll steps = .ok after) (stays : ∀ step ∈ steps, step.isConfigure = false)
    (setUp : ws.log.SetUp verbose file) : after.log.SetUp verbose file := by
  induction steps generalizing ws with
  | nil =>
    obtain rfl := Except.ok.inj ran
    exact setUp
  | cons step steps ih =>
    obtain ⟨next, performed, rest⟩ := performAll_cons_ok ran
    obtain ⟨here, there⟩ := List.forall_mem_cons.mp stays
    exact ih rest there ((perform_leaves performed).setUp here setUp)

end Workspace

/-- After any run, from any log, the own handlers are those of the last configuration, the foreign
ones are all that were ever added, in order, and the console handler takes exactly the records of
the level that the last configuration asked for. If no foreign handler writes on the console as
well, the console gains just the lines of these records. -/
theorem console_follows_last_configuration {ws after : Workspace} {before later : List LogStep}
    {verbose : Bool} {file : Option PathText}
    (ran : ws.performAll (before ++ .configure verbose file :: later) = .ok after)
    (last : ∀ step ∈ later, step.isConfigure = false) :
    (∃ real, real.isSome = file.isSome ∧ after.log.own = Log.ownHandlers verbose real) ∧
    after.log.foreign = ws.log.foreign ++ (before ++ later).flatMap (·.added) ∧
    after.log.propagates = false ∧
    ∀ r,
      (after.log.takers r).filter (·.name == Log.consoleName) =
        (if LogLevel.ofConsole verbose ≤ r.level then [Log.consoleHandler verbose] else []) ∧
      ((∀ handler ∈ after.log.foreign, handler.sink ≠ .console) →
        (after.emit r).console =
          after.console ++ if LogLevel.ofConsole verbose ≤ r.level then r.consoleLine else "") := by
  obtain ⟨mid, first, second⟩ := Workspace.performAll_append_ok ran
  obtain ⟨next, configured, rest⟩ := Workspace.performAll_cons_ok second
  obtain ⟨real, given, fresh⟩ := Workspace.perform_configure_setUp configured
  have setUp := Workspace.performAll_setUp rest last fresh
  refine ⟨⟨real, given, setUp.own_eq⟩, ?_, setUp.propagates_eq, fun r => ⟨?_, fun silent => ?_⟩⟩
  · calc after.log.foreign
        = ws.log.foreign ++ (before ++ .configure verbose file :: later).flatMap (·.added) :=
          Workspace.performAll_foreign ran
      _ = ws.log.foreign ++ (before ++ later).flatMap (·.added) := by
          simp [LogStep.added]
  · exact setUp.filter_takers r (fun _ => Log.name_ne_consoleName_of_mem_foreign)
      (Log.filter_name_ownHandlers verbose real)
  · exact Workspace.emit_console setUp silent r

def hostWorkspace : Workspace where
  fs := ⟨.empty, [], "/", fun _ => 4096⟩
  time := ""

/-- Between two configurations a host adds a handler and a record is shown. The second one lowers
the level of the log for its file, and the console still shows no more than problems. -/
theorem console_stays_quiet_beside_file :
    let host : LogHandler := ⟨"host", 0, .nowhere⟩
    let guest : LogHandler := ⟨"guest", LogLevel.error, .nowhere⟩
    let found : LogRecord := ⟨"scan", LogLevel.info, "found"⟩
    let before : List LogStep := [.configure true none, .add ⟨host, by decide⟩, .write found]
    let later : List LogStep := [.add ⟨guest, by decide⟩]
    ∃ after, hostWorkspace.performAll
        (before ++ .configure false (some ⟨1, ["run.log"]⟩) :: later) = .ok after ∧
      (∀ step ∈ later, step.isConfigure = false) ∧
      (∃ real, real.isSome = true ∧ after.log.own = Log.ownHandlers false real) ∧
      after.log.foreign = [host, guest] ∧ after.log.level = LogLevel.debug ∧
      after.console = "[depinfer] INFO found\n" ∧ (after.emit found).console = after.console ∧
      (after.emit { found with level := LogLevel.warning }).console =
        after.console ++ "[depinfer] WARNING found\n" := by
  intro host guest found before later
  have last : ∀ step ∈ later, step.isConfigure = false := by
    simp [later, LogStep.isConfigure]
  have shown : ((hostWorkspace.performAll (before ++ .configure false (some ⟨1, ["run.log"]⟩) ::
      later)).toOption.map fun after => (after.log.level, after.console)) =
      some (LogLevel.debug, "[depinfer] INFO found\n") := by decide +kernel
  obtain ⟨after, ended, facts⟩ := Option.map_eq_some_iff.mp shown
  obtain ⟨level, console⟩ := Prod.mk.inj facts
  have ran := eq_ok_of_toOption ended
  obtain ⟨own, foreign, _, takes⟩ := console_follows_last_configuration ran last
  have silent : ∀ handler ∈ after.log.foreign, handler.sink ≠ .console := by
    rw [foreign]
    decide +kernel
  have quiet := (takes found).2 silent
  have heard := (takes { found with level := LogLevel.warning }).2 silent
  rw [if_neg (by decide), String.append_empty] at quiet
  rw [if_pos (by decide)] at heard
  exact ⟨after, ran, last, own, foreign, level, console, quiet, heard⟩

end Downstream
