import Downstream.Proofs.Text.Fields
import Downstream.Proofs.Text.Halves
import Downstream.Proofs.Text.LowerCase
import Downstream.Report

/-!
The lines of a report and its characters. A report begins with a heading and ends in a bracket or
a full stop, so cutting white space off takes nothing but the last line feed, and that one is put
back: a report is its lines. Apart from the names it holds plain text only, so a report on names
without halves holds none.
-/
namespace Downstream

open Text

namespace Report

def EndsVisibly (line : String) : Prop :=
  ∃ c ∈ line.toList.getLast?, isBlank c = false

theorem endsVisibly_numberedLine (d : Dependency) (number : Nat) :
    EndsVisibly (numberedLine d number) := by
  refine ⟨')', ?_, by decide⟩
  rw [numberedLine, String.toList_append, List.getLast?_append]
  rfl

theorem getLast?_standalone :
    standalone.getLast? = some
      "This service appears to be standalone or dependencies could not be automatically detected." :=
  rfl

theorem getLast?_diagramRequirements (serviceName : String) (dependencies : List Dependency) :
    (diagramRequirements serviceName dependencies).getLast? =
      some "Generate a clean dependency diagram showing these relationships." := by
  rw [diagramRequirements, List.getLast?_append]
  rfl

theorem endsVisibly_of_getLast? {a : ServiceAnalysis} {diagram : Bool} {line : String}
    (last : (lines a diagram).getLast? = some line) : EndsVisibly line := by
  rw [lines, List.getLast?_append] at last
  split at last
  · rw [getLast?_standalone, Option.some_or] at last
    obtain rfl := Option.some.inj last
    exact ⟨'.', by decide +kernel, by decide⟩
  · rename_i some_listed
    cases diagram with
    | true =>
      rw [if_pos rfl, List.getLast?_append, getLast?_diagramRequirements, Option.some_or,
        Option.some_or] at last
      obtain rfl := Option.some.inj last
      exact ⟨'.', by decide +kernel, by decide⟩
    | false =>
      have numbered : listing a.dependencies =
          ["**Dependencies Detected** (" ++ toString a.dependencies.length ++ " total):", ""] ++
            (a.dependencies.zipIdx 1).map fun entry => numberedLine entry.1 entry.2 := rfl
      have entries : ((a.dependencies.zipIdx 1).map fun entry => numberedLine entry.1 entry.2) ≠
          [] := by
        simpa using some_listed
      rw [if_neg Bool.false_ne_true, List.append_nil, numbered, List.getLast?_append,
        List.getLast?_eq_some_getLast entries, Option.some_or, Option.some_or] at last
      obtain ⟨entry, _, same⟩ := List.mem_map.mp (List.getLast_mem entries)
      rw [← Option.some.inj last, ← same]
      exact endsVisibly_numberedLine entry.1 entry.2

theorem trim_lines (a : ServiceAnalysis) (diagram : Bool) :
    Trim (join "\n" (lines a diagram)).toList := by
  constructor
  · rw [lines, heading, List.cons_append, join, List.cons_append, String.intercalate_cons_cons]
    simp only [String.toList_append]
    exact stops_cons.mpr (by decide)
  · obtain ⟨last, isLast⟩ : ∃ last, (lines a diagram).getLast? = some last := by
      rw [← Option.isSome_iff_exists, List.getLast?_isSome]
      simp [lines, heading]
    obtain ⟨c, ending, visible⟩ := endsVisibly_of_getLast? isLast
    obtain ⟨front, ending⟩ := List.getLast?_eq_some_iff.mp ending
    obtain ⟨others, split⟩ := List.getLast?_eq_some_iff.mp isLast
    have nonempty : others ≠ [] := by
      rintro rfl
      simp [lines, heading] at split
    rw [split, join_append _ nonempty (by simp), String.toList_append, join_singleton, ending,
      ← List.append_assoc, List.reverse_concat]
    exact stops_cons.mpr visible

/-! ### Characters -/

def isPlain (c : Char) : Bool :=
  (32 ≤ c.toNat && c.toNat < 127) || c == '•'

theorem isPlain_of_isDigit {c : Char} (digit : c.isDigit = true) : isPlain c = true := by
  obtain ⟨low, high⟩ : 48 ≤ c.toNat ∧ c.toNat ≤ 57 := Char.isDigit_iff_toNat.mp digit
  simp only [isPlain, Bool.or_eq_true, Bool.and_eq_true, decide_eq_true_eq]
  exact Or.inl ⟨by omega, by omega⟩

section Characters

variable {holds : Char → Prop} (plain : ∀ c, isPlain c = true → holds c)
  {serviceName : String} {dependencies : List Dependency}

include plain

theorem forall_mem_text {text : String} (isText : text.toList.all isPlain = true) :
    ∀ c ∈ text.toList, holds c :=
  fun c member => plain c (List.all_eq_true.mp isText c member)

theorem forall_mem_number (n : Nat) : ∀ c ∈ (toString n).toList, holds c :=
  fun c member => plain c (isPlain_of_isDigit ((run_toString_nat n).2 c member))

theorem forall_mem_heading (name : ∀ c ∈ serviceName.toList, holds c) :
    ∀ line ∈ heading serviceName, ∀ c ∈ line.toList, holds c := by
  have text {s : String} (isText : s.toList.all isPlain = true) := forall_mem_text plain isText
  simp only [heading, List.forall_mem_cons, String.toList_append, List.forall_mem_append]
  exact ⟨text (by decide), text (by decide), ⟨text (by decide), name⟩, text (by decide), by simp⟩

theorem forall_mem_standalone : ∀ line ∈ standalone, ∀ c ∈ line.toList, holds c := by
  have text {s : String} (isText : s.toList.all isPlain = true) := forall_mem_text plain isText
  simp only [standalone, List.forall_mem_cons]
  exact ⟨text (by decide), text (by decide), text (by decide +kernel), by simp⟩

theorem forall_mem_numberedLine (d : Dependency) (number : Nat)
    (name : ∀ c ∈ d.name.toList, holds c) :
    ∀ c ∈ (numberedLine d number).toList, holds c := by
  have text {s : String} (isText : s.toList.all isPlain = true) := forall_mem_text plain isText
  have label : ∀ c ∈ d.confidence.label.toList, holds c := by
    cases d.confidence <;> exact text (by decide)
  simp only [numberedLine, String.toList_append, List.forall_mem_append]
  exact ⟨⟨⟨⟨⟨forall_mem_number plain number, text (by decide)⟩, name⟩, text (by decide)⟩, label⟩,
    text (by decide)⟩

theorem forall_mem_listing (names : ∀ d ∈ dependencies, ∀ c ∈ d.name.toList, holds c) :
    ∀ line ∈ listing dependencies, ∀ c ∈ line.toList, holds c := by
  have text {s : String} (isText : s.toList.all isPlain = true) := forall_mem_text plain isText
  intro line inside
  simp only [listing, List.mem_append, List.mem_cons, List.not_mem_nil, or_false,
    List.mem_map] at inside
  rcases inside with (rfl | rfl) | ⟨⟨d, number⟩, numbered, rfl⟩
  · simp only [String.toList_append, List.forall_mem_append]
    exact ⟨⟨text (by decide), forall_mem_number plain _⟩, text (by decide)⟩
  · exact text (by decide)
  · exact forall_mem_numberedLine plain d number (names d (List.fst_mem_of_mem_zipIdx numbered))

theorem forall_mem_diagramRequirements (name : ∀ c ∈ serviceName.toList, holds c)
    (names : ∀ d ∈ dependencies, ∀ c ∈ d.name.toList, holds c) :
    ∀ line ∈ diagramRequirements serviceName dependencies, ∀ c ∈ line.toList, holds c := by
  have text {s : String} (isText : s.toList.all isPlain = true) := forall_mem_text plain isText
  intro line inside
  simp only [diagramRequirements, List.mem_append, List.mem_cons, List.not_mem_nil, or_false,
    List.mem_map] at inside
  rcases inside with ((rfl | rfl | rfl | rfl | rfl) | ⟨d, listed, rfl⟩) | rfl | rfl
  case inl.inl.inr.inr.inr.inl =>
    simp only [String.toList_append, List.forall_mem_append]
    exact ⟨⟨text (by decide), name⟩, text (by decide)⟩
  case inl.inr =>
    simp only [String.toList_append, List.forall_mem_append]
    exact ⟨text (by decide), names d listed⟩
  all_goals exact text (by decide +kernel)

theorem forall_mem_lines {a : ServiceAnalysis} (diagram : Bool)
    (name : ∀ c ∈ a.serviceName.toList, holds c)
    (names : ∀ d ∈ a.dependencies, ∀ c ∈ d.name.toList, holds c) :
    ∀ line ∈ lines a diagram, ∀ c ∈ line.toList, holds c := by
  intro line inside
  simp only [lines, List.mem_append] at inside
  rcases inside with heading | body
  · exact forall_mem_heading plain name line heading
  · split at body
    · exact forall_mem_standalone plain line body
    · rcases List.mem_append.mp body with listed | drawn
      · exact forall_mem_listing plain names line listed
      · split at drawn
        · exact forall_mem_diagramRequirements plain name names line drawn
        · simp at drawn

end Characters

end Report

theorem ServiceAnalysis.report_eq (a : ServiceAnalysis) (diagram : Bool) :
    a.report diagram = join "\n" (Report.lines a diagram) ++ "\n" := by
  have lineFeed : "\n".toList.all isBlank = true := by decide
  rw [report, trimmed, String.toList_append,
    trim_append_blanks (Report.trim_lines a diagram) (List.all_eq_true.mp lineFeed),
    String.ofList_toList]

theorem ServiceAnalysis.noHalf_report (a : ServiceAnalysis) (diagram : Bool)
    (name : NoHalf a.serviceName.toList) (names : ∀ d ∈ a.dependencies, NoHalf d.name.toList) :
    NoHalf (a.report diagram).toList := by
  have lineFeed : NoHalf "\n".toList := by decide
  have plain : ∀ c, Report.isPlain c = true → isHalf c = false := by
    intro c isPlain
    rcases Bool.or_eq_true_iff.mp isPlain with ascii | bullet
    · have bound := of_decide_eq_true (Bool.and_eq_true_iff.mp ascii).2
      exact isHalf_eq_false (Nat.lt_trans bound (by decide))
    · rw [beq_iff_eq.mp bullet]
      decide
  rw [report_eq, String.toList_append, noHalf_append]
  exact ⟨noHalf_join lineFeed (Report.forall_mem_lines plain diagram name names), lineFeed⟩

end Downstream
