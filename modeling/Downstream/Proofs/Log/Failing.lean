import Downstream.Proofs.Log
import Mathlib.Data.List.Induction

/-!
Configurations of the log that fail. One fails only if its log file cannot be opened, and then the
own handlers of the log are gone already, while all else is as before. So a log comes through such a
configuration unchanged exactly if it has no own handlers: if no configuration was made before, or
the last one failed too.
-/
namespace Downstream

namespace Log

theorem own_dropOwn (log : Log) : log.dropOwn.own = [] := by
  rw [own, dropOwn_handlers, foreign, List.filter_filter]
  simp

theorem foreign_eq_handlers_iff (log : Log) : log.foreign = log.handlers ↔ log.own = [] := by
  rw [foreign, own, List.filter_eq_self, List.filter_eq_nil_iff]
  simp

theorem dropOwn_eq_self_iff (log : Log) : log.dropOwn = log ↔ log.own = [] := by
  rw [← foreign_eq_handlers_iff]
  constructor
  · intro same
    rw [← dropOwn_handlers, same]
  · intro same
    exact congrArg (fun handlers => ({ log with handlers } : Log)) same

theorem takers_dropOwn (log : Log) (r : LogRecord) :
    log.dropOwn.takers r = (log.takers r).filter (·.isForeign) := by
  rw [filter_takers]
  rfl

end Log

namespace Workspace

variable {ws after : Workspace} {verbose : Bool} {file : Option PathText}

def attempt (ws : Workspace) : LogStep → Workspace
  | .configure verbose file => (ws.configureLog verbose file).2
  | .add handler => { ws with log := ws.log.add handler.1 }
  | .write record => ws.emit record

def attemptAll (ws : Workspace) (steps : List LogStep) : Workspace :=
  steps.foldl attempt ws

theorem attemptAll_concat (ws : Workspace) (steps : List LogStep) (step : LogStep) :
    ws.attemptAll (steps ++ [step]) = (ws.attemptAll steps).attempt step := by
  rw [attemptAll, List.foldl_append]
  rfl

theorem configureLog_error_iff {failure : Failure} :
    ws.configureLog verbose file = (.error failure, after) ↔
      (∃ path, file = some path ∧ ws.openLog path = .error failure) ∧
        after = { ws with log := ws.log.dropOwn } := by
  cases file with
  | none => simp [configureLog]
  | some path =>
    -- Whether the file can be opened has nothing to do with the log.
    have same : ({ ws with log := ws.log.dropOwn } : Workspace).openLog path = ws.openLog path := rfl
    simp only [configureLog, same]
    cases opened : ws.openLog path with
    | error reason => simp [opened, eq_comm]
    | ok opened => simp [opened]

def IsConfigured (ws : Workspace) (steps : List LogStep) : Prop :=
  ∃ before verbose file later, steps = before ++ .configure verbose file :: later ∧
    (∀ step ∈ later, step.isConfigure = false) ∧
    ((ws.attemptAll before).configureLog verbose file).1 = .ok ()

theorem eq_concat_cases {before later steps : List LogStep} {inside last : LogStep}
    (split : steps ++ [last] = before ++ inside :: later) :
    (steps = before ∧ last = inside ∧ later = []) ∨
      ∃ front, steps = before ++ inside :: front ∧ later = front ++ [last] := by
  rcases List.eq_nil_or_concat later with rfl | ⟨front, final, rfl⟩
  · obtain ⟨rfl, same⟩ := List.append_inj' split rfl
    exact Or.inl ⟨rfl, (List.cons.inj same).1, rfl⟩
  · rw [List.concat_eq_append, ← List.cons_append, ← List.append_assoc] at split
    obtain ⟨rfl, same⟩ := List.append_inj' split rfl
    exact Or.inr ⟨front, rfl, by rw [List.concat_eq_append, (List.cons.inj same).1]⟩

theorem isConfigured_concat_iff {steps : List LogStep} {step : LogStep}
    (stays : step.isConfigure = false) :
    ws.IsConfigured (steps ++ [step]) ↔ ws.IsConfigured steps := by
  constructor
  · rintro ⟨before, verbose, file, later, split, last, ended⟩
    rcases eq_concat_cases split with ⟨-, rfl, -⟩ | ⟨front, rfl, rfl⟩
    · simp [LogStep.isConfigure] at stays
    · exact ⟨before, verbose, file, front, rfl,
        fun other member => last other (List.mem_append_left _ member), ended⟩
  · rintro ⟨before, verbose, file, later, rfl, last, ended⟩
    refine ⟨before, verbose, file, later ++ [step], by simp, fun other member => ?_, ended⟩
    rcases List.mem_append.mp member with inLater | isStep
    · exact last other inLater
    · rwa [List.mem_singleton.mp isStep]

theorem isConfigured_concat_configure_iff {steps : List LogStep} :
    ws.IsConfigured (steps ++ [.configure verbose file]) ↔
      ((ws.attemptAll steps).configureLog verbose file).1 = .ok () := by
  constructor
  · rintro ⟨before, verbose', file', later, split, last, ended⟩
    rcases eq_concat_cases split with ⟨rfl, same, -⟩ | ⟨front, -, rfl⟩
    · obtain ⟨rfl, rfl⟩ := LogStep.configure.inj same
      exact ended
    · have stays := last (.configure verbose file) (by simp)
      simp [LogStep.isConfigure] at stays
  · intro ended
    exact ⟨steps, verbose, file, [], rfl, by simp, ended⟩

theorem own_configureLog_eq_nil_iff :
    (ws.configureLog verbose file).2.log.own = [] ↔
      (ws.configureLog verbose file).1 ≠ .ok () := by
  rcases configured : ws.configureLog verbose file with ⟨result, after⟩
  cases result with
  | ok done =>
    obtain ⟨real, -, left⟩ := configureLog_ok configured
    simp [left, (Log.setUp_install_dropOwn ws.log verbose real).own_eq, Log.ownHandlers]
  | error failure =>
    obtain ⟨-, rfl⟩ := configureLog_error_iff.mp configured
    simp [Log.own_dropOwn]

theorem own_attemptAll_eq_nil_iff (fresh : ws.log.own = []) (steps : List LogStep) :
    (ws.attemptAll steps).log.own = [] ↔ ¬ ws.IsConfigured steps := by
  induction steps using List.reverseRecOn with
  | nil =>
    refine ⟨fun _ => ?_, fun _ => fresh⟩
    rintro ⟨before, verbose, file, later, split, -⟩
    simp at split
  | append_singleton steps step ih =>
    rw [attemptAll_concat]
    cases step with
    | configure verbose file =>
      rw [isConfigured_concat_configure_iff]
      exact own_configureLog_eq_nil_iff
    | add handler =>
      rw [isConfigured_concat_iff rfl, ← ih]
      exact (Log.own_add handler.2).congr_left
    | write record =>
      rw [isConfigured_concat_iff rfl, ← ih, attempt, emit_log]

/-- All that is gone are the own handlers of the log; records go to the foreign ones as before. -/
structure LosesOwn (before after : Workspace) : Prop where
  handlers : after.log.handlers = before.log.foreign
  level : after.log.level = before.log.level
  propagates : after.log.propagates = before.log.propagates
  takers : ∀ r, after.log.takers r = (before.log.takers r).filter (·.isForeign)
  files : after.fs = before.fs
  console : after.console = before.console

end Workspace

/-- A configuration that fails, after any steps from a log without own handlers, does so for its log
file. It takes the own handlers away and nothing else, so the log is unchanged exactly if no
configuration was made or the last one failed. -/
theorem failed_configuration_loses_own {ws after : Workspace} {steps : List LogStep}
    {verbose : Bool} {file : Option PathText} {failure : Failure} (fresh : ws.log.own = [])
    (failed : (ws.attemptAll steps).configureLog verbose file = (.error failure, after)) :
    (∃ path, file = some path ∧ (ws.attemptAll steps).openLog path = .error failure) ∧
      (ws.attemptAll steps).LosesOwn after ∧
      (after.log = (ws.attemptAll steps).log ↔ ¬ ws.IsConfigured steps) := by
  obtain ⟨unopened, rfl⟩ := Workspace.configureLog_error_iff.mp failed
  refine ⟨unopened, ⟨rfl, rfl, rfl, Log.takers_dropOwn _, rfl, rfl⟩, ?_⟩
  rw [← Workspace.own_attemptAll_eq_nil_iff fresh]
  exact Log.dropOwn_eq_self_iff _

def missingFolder : PathText := ⟨0, ["missing", "run.log"]⟩

theorem failed_configuration_loses_console :
    let host : LogHandler := ⟨"host", 0, .nowhere⟩
    let steps : List LogStep := [.configure true none, .add ⟨host, by decide⟩]
    hostWorkspace.log.own = [] ∧ hostWorkspace.IsConfigured steps ∧
      ∃ failure after, (hostWorkspace.attemptAll steps).configureLog false (some missingFolder) =
          (.error failure, after) ∧
        (hostWorkspace.attemptAll steps).log.handlers = [Log.consoleHandler true, host] ∧
        (hostWorkspace.attemptAll steps).LosesOwn after ∧ after.log.handlers = [host] ∧
        after.log ≠ (hostWorkspace.attemptAll steps).log := by
  intro host steps
  have configured : hostWorkspace.IsConfigured steps :=
    ⟨[], true, none, [.add ⟨host, by decide⟩], rfl, by simp [LogStep.isConfigure], rfl⟩
  have refused : ((hostWorkspace.attemptAll steps).configureLog false
      (some missingFolder)).1.toOption = none := by decide +kernel
  rcases failed : (hostWorkspace.attemptAll steps).configureLog false (some missingFolder) with
    ⟨result, after⟩
  rw [failed] at refused
  cases result with
  | ok done => simp [Except.toOption] at refused
  | error failure =>
    obtain ⟨-, loses, unchanged⟩ := failed_configuration_loses_own rfl failed
    refine ⟨rfl, configured, failure, after, rfl, by decide +kernel, loses, ?_, ?_⟩
    · rw [loses.handlers]
      decide +kernel
    · exact fun same => unchanged.mp same configured

/-- A problem that the console shows before such a configuration is not shown after it. -/
theorem failed_configuration_silences_console :
    let before := hostWorkspace.attempt (.configure false none)
    let result := before.configureLog false (some missingFolder)
    let problem : LogRecord := ⟨"", LogLevel.warning, "still here"⟩
    result.1.toOption = none ∧ before.log.handlers = [Log.consoleHandler false] ∧
      result.2.log.handlers = [] ∧
      (before.emit problem).console = "[depinfer] WARNING still here\n" ∧
      (result.2.emit problem).console = "" := by
  decide +kernel

end Downstream
