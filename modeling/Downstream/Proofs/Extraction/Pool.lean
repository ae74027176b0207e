import Downstream.Proofs.Extraction
import Mathlib.Logic.Relation

/-!
A pool of workers that share tasks. A free worker takes the task that has waited longest, and any
task that runs may be the next to end; its result is kept with its number. The tasks that wait, run
and have ended are at every moment all tasks, each once, so when none waits or runs any more the
results can be put back into the order of submission. As a step is always possible before, and there
are two steps for a task, every pool gets there.

Extraction from several files is such a pool of one task per file. Whatever its course, it gives the
candidates of the files one after the other, each in the order of the table.
-/
namespace Downstream

/-- A pool of tasks, by their numbers: those that wait, those that run, and those that have ended,
with their results, in the order in which they ended. -/
structure Pool (α : Type) where
  waiting : List Nat
  running : List Nat
  finished : List (Nat × α)

open scoped List

namespace Pool

variable {α : Type} {workers : Int} {tasks : Nat} {work : Nat → α} {pool next : Pool α}

def submitted (tasks : Nat) : Pool α :=
  ⟨List.range tasks, [], []⟩

inductive Step (workers : Int) (work : Nat → α) : Pool α → Pool α → Prop
  | take {task : Nat} {waiting running : List Nat} {finished : List (Nat × α)}
      (free : running.length < workers) :
      Step workers work ⟨task :: waiting, running, finished⟩
        ⟨waiting, task :: running, finished⟩
  | finish {task : Nat} {waiting running : List Nat} {finished : List (Nat × α)}
      (runs : task ∈ running) :
      Step workers work ⟨waiting, running, finished⟩
        ⟨waiting, running.erase task, finished ++ [(task, work task)]⟩

abbrev Run (workers : Int) (work : Nat → α) : Pool α → Pool α → Prop :=
  Relation.ReflTransGen (Step workers work)

structure Done (pool : Pool α) : Prop where
  noneWaits : pool.waiting = []
  noneRuns : pool.running = []

structure Accounts (tasks : Nat) (work : Nat → α) (pool : Pool α) : Prop where
  every : (pool.waiting ++ (pool.running ++ pool.finished.map Prod.fst)).Perm (List.range tasks)
  results : ∀ entry ∈ pool.finished, entry.2 = work entry.1

theorem accounts_submitted : Accounts tasks work (submitted tasks) :=
  ⟨by simp [submitted], by simp [submitted]⟩

theorem Step.accounts (step : Step workers work pool next) (accounts : Accounts tasks work pool) :
    Accounts tasks work next := by
  cases step with
  | take free =>
    refine ⟨List.Perm.trans ?_ accounts.every, accounts.results⟩
    exact List.perm_middle
  | @finish task waiting running finished runs =>
    refine ⟨List.Perm.trans (List.Perm.append_left _ ?_) accounts.every, ?_⟩
    · -- The task moves from those that run to the end of those that have ended.
      calc running.erase task ++ (finished ++ [(task, work task)]).map Prod.fst
          = (running.erase task ++ finished.map Prod.fst) ++ [task] := by simp
        _ ~ task :: (running.erase task ++ finished.map Prod.fst) := List.perm_append_singleton _ _
        _ ~ running ++ finished.map Prod.fst :=
          (List.perm_cons_erase runs).symm.append_right _
    · intro entry member
      rcases List.mem_append.mp member with earlier | now
      · exact accounts.results entry earlier
      · rw [List.mem_singleton.mp now]

theorem Run.accounts (run : Run workers work (submitted tasks) pool) :
    Accounts tasks work pool := by
  induction run with
  | refl => exact accounts_submitted
  | tail _ step ih => exact step.accounts ih

/-- How many steps are left: two for a task that waits, and one for a task that runs. -/
def stepsLeft (pool : Pool α) : Nat :=
  2 * pool.waiting.length + pool.running.length

theorem Step.stepsLeft (step : Step workers work pool next) :
    next.stepsLeft + 1 = pool.stepsLeft := by
  cases step with
  | take free =>
    simp only [Pool.stepsLeft, List.length_cons]
    omega
  | finish runs =>
    have positive := List.length_pos_of_mem runs
    simp only [Pool.stepsLeft, List.length_erase_of_mem runs]
    omega

theorem done_or_step (someWorker : 0 < workers) (work : Nat → α) (pool : Pool α) :
    pool.Done ∨ ∃ next, Step workers work pool next := by
  obtain ⟨waiting, running, finished⟩ := pool
  cases running with
  | cons task running => exact Or.inr ⟨_, .finish List.mem_cons_self⟩
  | nil =>
    cases waiting with
    | cons task waiting => exact Or.inr ⟨_, .take (by simpa using someWorker)⟩
    | nil => exact Or.inl ⟨rfl, rfl⟩

theorem exists_run_done (someWorker : 0 < workers) (work : Nat → α) (pool : Pool α) :
    ∃ last, Run workers work pool last ∧ last.Done := by
  induction left : pool.stepsLeft using Nat.strongRecOn generalizing pool with
  | ind left ih =>
    rcases done_or_step someWorker work pool with done | ⟨next, step⟩
    · exact ⟨pool, .refl, done⟩
    · have fewer := step.stepsLeft
      obtain ⟨last, run, done⟩ := ih next.stepsLeft (by omega) next rfl
      exact ⟨last, run.head step, done⟩

theorem Accounts.task_mem (accounts : Accounts tasks work pool) (done : pool.Done) {task : Nat}
    (submitted : task < tasks) : task ∈ pool.finished.map Prod.fst := by
  have member := accounts.every.mem_iff.mpr (List.mem_range.mpr submitted)
  rwa [done.noneWaits, done.noneRuns, List.nil_append, List.nil_append] at member

end Pool

namespace Extractor

/-- The candidates that extraction may give: file after file with one worker or one file, and
otherwise from the results of a pool that is done, put back into the order of submission. -/
inductive Gives (e : Extractor) (files : List SourceFile) : List Candidate → Prop
  | alone (single : ¬(1 < e.effectiveWorkers ∧ 1 < files.length)) :
      Gives e files ((files.map e.findings).flatten.flatMap (·.2))
  | shared {pool : Pool (List (Idiom × List Candidate))}
      (several : 1 < e.effectiveWorkers ∧ 1 < files.length)
      (run : Pool.Run e.effectiveWorkers (e.task files) (Pool.submitted files.length) pool)
      (done : pool.Done) :
      Gives e files ((inSubmissionOrder pool.finished files.length).flatten.flatMap (·.2))

theorem inSubmissionOrder_of_run {e : Extractor} {files : List SourceFile}
    {pool : Pool (List (Idiom × List Candidate))} {workers : Int}
    (run : Pool.Run workers (e.task files) (Pool.submitted files.length) pool)
    (done : pool.Done) : inSubmissionOrder pool.finished files.length = files.map e.findings := by
  have accounts := run.accounts
  rw [inSubmissionOrder_eq accounts.results fun _ submitted => accounts.task_mem done submitted,
    map_task]

/-- The candidates of the files one after the other, each in the order of the idioms of the table
that belong to its language. -/
def inOrder (e : Extractor) (files : List SourceFile) : List Candidate :=
  files.flatMap fun file =>
    (e.table.filter fun idiom => idiom.languages.contains file.language).flatMap
      fun idiom => idiom.apply file

theorem flatMap_findings (e : Extractor) (files : List SourceFile) :
    (files.map e.findings).flatten.flatMap (·.2) = e.inOrder files := by
  simp only [inOrder, findings, idiomsFor_eq, List.flatten_eq_flatMap, List.flatMap_map,
    List.flatMap_assoc, id_eq]

theorem extract_eq_inOrder (e : Extractor) (files : List SourceFile) :
    e.extract files = e.inOrder files := by
  rw [extract, findingsInAll_eq, flatMap_findings]

theorem gives_iff {e : Extractor} {files : List SourceFile} {found : List Candidate} :
    e.Gives files found ↔ found = e.inOrder files := by
  constructor
  · intro gives
    cases gives with
    | alone single => exact flatMap_findings e files
    | shared several run done => rw [inSubmissionOrder_of_run run done, flatMap_findings]
  · rintro rfl
    rw [← flatMap_findings]
    by_cases several : 1 < e.effectiveWorkers ∧ 1 < files.length
    · have someWorker : 0 < e.effectiveWorkers := Int.lt_trans Int.zero_lt_one several.1
      obtain ⟨pool, run, done⟩ :=
        Pool.exists_run_done someWorker (e.task files) (Pool.submitted files.length)
      rw [← inSubmissionOrder_of_run run done]
      exact .shared several run done
    · exact .alone several

/-- Whatever the number of workers and the order in which their tasks end, extraction gives the
candidates in order, as one worker does, and those of further files behind them. -/
theorem extract_keeps_order (e : Extractor) (files further : List SourceFile) :
    (∀ found, e.Gives files found ↔ found = e.inOrder files) ∧
      e.extract files = e.inOrder files ∧
      e.extract files = { e with workers := 1 }.extract files ∧
      e.extract (files ++ further) = e.extract files ++ e.extract further := by
  refine ⟨fun _ => gives_iff, extract_eq_inOrder e files, ?_, extract_append e files further⟩
  rw [extract_eq_inOrder, extract_eq_inOrder]
  rfl

end Extractor

end Downstream
