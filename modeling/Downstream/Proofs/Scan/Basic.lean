import Downstream.Scan.Basic
import Downstream.Text.Search

/-!
The verdicts of a scan and its two lists. Every verdict speaks of one path, and the lists of files
kept and skipped divide these paths without changing their order.
-/
namespace Downstream

theorem Verdict.eq_kept_of_file? {verdict : Verdict} {file : SourceFile}
    (isFile : verdict.file? = some file) : verdict = .kept file := by
  cases verdict <;> simp_all [Verdict.file?]

namespace ScanConfig

theorem judge_path (config : ScanConfig) (name path : String) (size : Nat)
    (content? : Option String) : (config.judge name path size content?).path = path := by
  unfold judge
  split
  · rfl
  · split
    · rfl
    · cases content? <;> rfl

variable {config : ScanConfig} {name path : String} {size : Nat} {content? : Option String}

theorem judge_file? {file : SourceFile} :
    (config.judge name path size content?).file? = some file ↔
      size ≠ 0 ∧ (size : Int) ≤ config.maxFileSize ∧ ∃ content, content? = some content ∧
        file = ⟨name, path, content, Language.ofEnding (smallEnding name), size⟩ := by
  unfold judge
  split
  · rename_i empty
    simp [Verdict.file?, empty]
  · rename_i nonempty
    split
    · rename_i large
      simp [Verdict.file?, Int.not_le.mpr large]
    · rename_i withinLimit
      rw [Int.not_lt] at withinLimit
      cases content? with
      | none => simp [Verdict.file?]
      | some content => simp [Verdict.file?, nonempty, withinLimit, eq_comm]

theorem judge_renamed {file : SourceFile}
    (kept : (config.judge name path size content?).file? = some file) (other : String) :
    config.judge name other size content? = .kept { file with path := other } := by
  obtain ⟨nonempty, within, content, text, isThis⟩ := judge_file?.mp kept
  have again : (config.judge name other size content?).file? =
      some ⟨name, other, content, Language.ofEnding (smallEnding name), size⟩ :=
    judge_file?.mpr ⟨nonempty, within, content, text, rfl⟩
  rw [isThis, Verdict.eq_kept_of_file? again]

/-- An ending that is looked at has no capitals left, so lowering it once more changes nothing. -/
theorem ofEnding_smallEnding (allowed : config.allows name = true) :
    Language.ofEnding (smallEnding name) = Language.ofFileName name := by
  have settled : ∀ ending ∈ codeEndings ++ configEndings, Text.lowered ending = ending := by
    decide +kernel
  have listed : smallEnding name ∈ codeEndings ++ configEndings := by
    simp only [allows, Bool.or_eq_true, Bool.and_eq_true, List.contains_iff_mem] at allowed
    exact List.mem_append.mpr (allowed.imp_right And.right)
  rw [Language.ofFileName, Language.ofEnding, settled _ listed]
  rfl

end ScanConfig

def ScanResult.reported (scan : ScanResult) : List String :=
  scan.files.map (·.path) ++ scan.skipped.map (·.path)

def ComponentsIncrease (paths : List String) : Prop :=
  paths.Pairwise fun path next => Text.splitAt '/' path < Text.splitAt '/' next

namespace ScanResult

variable {root : Option String} {verdicts : List Verdict}

theorem reported_perm : (ofVerdicts root verdicts).reported.Perm (verdicts.map (·.path)) := by
  simp only [reported, ofVerdicts]
  induction verdicts with
  | nil => exact List.Perm.refl _
  | cons verdict verdicts ih =>
    cases verdict with
    | kept file => exact ih.cons _
    | skipped file => exact List.perm_middle.trans (ih.cons _)

theorem filterMap_increase {α : Type} {part? : Verdict → Option α} {pathOf : α → String}
    (samePath : ∀ verdict entry, part? verdict = some entry → pathOf entry = verdict.path)
    (increase : ComponentsIncrease (verdicts.map (·.path))) :
    ComponentsIncrease ((verdicts.filterMap part?).map pathOf) := by
  rw [ComponentsIncrease, List.pairwise_map] at increase ⊢
  refine increase.filterMap part? fun verdict next less entry kept entryNext keptNext => ?_
  rwa [samePath verdict entry kept, samePath next entryNext keptNext]

theorem files_increase (increase : ComponentsIncrease (verdicts.map (·.path))) :
    ComponentsIncrease ((ofVerdicts root verdicts).files.map (·.path)) := by
  refine filterMap_increase (fun verdict file kept => ?_) increase
  cases verdict <;> simp_all [Verdict.file?, Verdict.path]

theorem skipped_increase (increase : ComponentsIncrease (verdicts.map (·.path))) :
    ComponentsIncrease ((ofVerdicts root verdicts).skipped.map (·.path)) := by
  refine filterMap_increase (fun verdict file skipped => ?_) increase
  cases verdict <;> simp_all [Verdict.skipped?, Verdict.path]

end ScanResult

end Downstream
