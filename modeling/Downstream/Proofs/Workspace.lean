import Downstream.Workspace

/-!
Workspaces whose log writes to no file. Whatever they log, their files stay as they are, so an
analysis sees the files that it was started on.
-/
namespace Downstream

namespace Log

def Fileless (log : Log) : Prop :=
  ∀ handler ∈ log.handlers, ∀ path, handler.sink ≠ .file path

variable {log : Log}

theorem Fileless.dropOwn (fileless : log.Fileless) : log.dropOwn.Fileless :=
  fun handler member => fileless handler (List.mem_filter.mp member).1

theorem Fileless.install (fileless : log.Fileless) (verbose : Bool) :
    (log.install verbose none).Fileless := by
  intro handler member path
  rcases List.mem_append.mp member with old | new
  · exact fileless handler old path
  · obtain rfl := List.mem_singleton.mp new
    simp

theorem Fileless.takers (fileless : log.Fileless) (r : LogRecord) :
    ∀ handler ∈ log.takers r, ∀ path, handler.sink ≠ .file path := by
  intro handler member
  unfold Log.takers at member
  split at member
  · exact fileless handler (List.mem_filter.mp member).1
  · simp at member

end Log

namespace Workspace

structure SameFiles (before after : Workspace) : Prop where
  fs : after.fs = before.fs
  plugins : after.plugins = before.plugins
  log : after.log = before.log

theorem SameFiles.refl (ws : Workspace) : ws.SameFiles ws :=
  ⟨rfl, rfl, rfl⟩

theorem SameFiles.trans {first second third : Workspace} (one : first.SameFiles second)
    (two : second.SameFiles third) : first.SameFiles third :=
  ⟨two.fs.trans one.fs, two.plugins.trans one.plugins, two.log.trans one.log⟩

theorem handle_sameFiles (ws : Workspace) (r : LogRecord) {handler : LogHandler}
    (noFile : ∀ path, handler.sink ≠ .file path) : ws.SameFiles (ws.handle r handler) := by
  unfold handle
  split
  · exact .refl ws
  · exact ⟨rfl, rfl, rfl⟩
  · rename_i path sink
    exact absurd sink (noFile path)

theorem emit_sameFiles {ws : Workspace} (fileless : ws.log.Fileless) (r : LogRecord) :
    ws.SameFiles (ws.emit r) := by
  suffices all : ∀ handlers : List LogHandler,
      (∀ handler ∈ handlers, ∀ path, handler.sink ≠ .file path) →
        ws.SameFiles (handlers.foldl (handle r) ws) from
    all _ (fileless.takers r)
  intro handlers noFile
  induction handlers generalizing ws with
  | nil => exact .refl ws
  | cons handler handlers ih =>
    have first := handle_sameFiles ws r (noFile handler List.mem_cons_self)
    have fileless : (ws.handle r handler).log.Fileless := first.log ▸ fileless
    exact first.trans (ih fileless fun other member => noFile other (List.mem_cons_of_mem _ member))

theorem emitNotes_sameFiles {ws : Workspace} (fileless : ws.log.Fileless) (notes : List Note) :
    ws.SameFiles (ws.emitNotes notes) := by
  unfold emitNotes
  induction notes.filterMap (·.record?) generalizing ws with
  | nil => exact .refl ws
  | cons r records ih =>
    have first := emit_sameFiles fileless r
    exact first.trans (ih (first.log ▸ fileless))

theorem analyze_fileless {ws : Workspace} (fileless : ws.log.Fileless) (request : AnalysisRequest)
    (path : String) :
    ∃ after, ws.SameFiles after ∧ ws.analyze request path =
      ((Analysis.ofPath ws.plugins ws.fs request path).result, after) := by
  unfold analyze Analysis.ofPath
  cases Analysis.prepare ws.fs request path with
  | error failure => exact ⟨ws, .refl ws, rfl⟩
  | ok prepared =>
    obtain ⟨root, config⟩ := prepared
    have begun := emitNotes_sameFiles fileless [Analysis.scanStart root]
    refine ⟨_, begun.trans (emitNotes_sameFiles (begun.log ▸ fileless)
      ((Analysis.ofRoot ws.plugins ws.fs config request root).notes.drop 1)), ?_⟩
    simp only [begun.fs]

theorem configureLog_fileless {ws : Workspace} (fileless : ws.log.Fileless) (verbose : Bool) :
    ∃ log, log.Fileless ∧ ws.configureLog verbose none = (.ok (), { ws with log }) :=
  ⟨_, fileless.dropOwn.install verbose, rfl⟩

end Workspace

end Downstream
