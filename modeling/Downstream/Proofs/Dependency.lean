import Downstream.Dependency
import Downstream.Proofs.Json.Halves
import Downstream.Proofs.Json.ReadBack

/-!
The JSON text of an analysis. It says what the analysis says, and it has bytes unless one of its
strings holds a half.
-/
namespace Downstream

open Json Text

theorem Dependency.readsBack (d : Dependency) : ReadsBack d.toJson 1 := by
  refine readsBack_obj fun member inside => ?_
  simp only [List.mem_cons, List.not_mem_nil, or_false] at inside
  rcases inside with rfl | rfl | rfl | rfl <;> exact readsBack_str _ 0

theorem Dependency.showsHalves (d : Dependency) : ShowsHalves d.toJson := by
  have keys : NoHalf "serviceName".toList ∧ NoHalf "source".toList ∧ NoHalf "confidence".toList ∧
      NoHalf "evidence".toList := by
    decide
  refine showsHalves_obj fun member inside => ?_
  simp only [List.mem_cons, List.not_mem_nil, or_false] at inside
  obtain ⟨name, source, confidence, evidence⟩ := keys
  rcases inside with rfl | rfl | rfl | rfl
  · exact ⟨name, showsHalves_str _⟩
  · exact ⟨source, showsHalves_str _⟩
  · exact ⟨confidence, showsHalves_str _⟩
  · exact ⟨evidence, showsHalves_str _⟩

namespace ServiceAnalysis

variable (a : ServiceAnalysis)

theorem readsBack : ReadsBack a.toJson 3 := by
  refine readsBack_obj fun member inside => ?_
  simp only [List.mem_cons, List.not_mem_nil, or_false] at inside
  rcases inside with rfl | rfl
  · exact readsBack_str _ 2
  · refine readsBack_arr fun item inItems => ?_
    obtain ⟨d, _, rfl⟩ := List.mem_map.mp inItems
    exact d.readsBack

theorem showsHalves : ShowsHalves a.toJson := by
  have keys : NoHalf "serviceName".toList ∧ NoHalf "dependencies".toList := by
    decide
  refine showsHalves_obj fun member inside => ?_
  simp only [List.mem_cons, List.not_mem_nil, or_false] at inside
  rcases inside with rfl | rfl
  · exact ⟨keys.1, showsHalves_str _⟩
  · refine ⟨keys.2, showsHalves_arr fun item inItems => ?_⟩
    obtain ⟨d, _, rfl⟩ := List.mem_map.mp inItems
    exact d.showsHalves

theorem parse_jsonText {behind : String} (blank : ∀ c ∈ behind.toList, isSpace c = true) :
    Json.parse (a.jsonText ++ behind) = .ok a.toJson :=
  parse_indented a.readsBack (by decide) blank

theorem halves?_jsonText : Text.halves? (a.jsonText ++ "\n") = none ↔ a.toJson.halves? = none := by
  rw [halves?_eq_none_iff, ← a.showsHalves 0]
  have lineFeed : isHalf '\n' = false := by decide
  simp [jsonText, indented, lineFeed]

theorem noHalf_of_toJson (plain : a.toJson.halves? = none) :
    NoHalf a.serviceName.toList ∧ ∀ d ∈ a.dependencies, NoHalf d.name.toList := by
  simp only [toJson, Json.halves?, memberHalves?_eq_none_iff, List.forall_mem_cons,
    itemHalves?_eq_none_iff, List.forall_mem_map, halves?_eq_none_iff] at plain
  refine ⟨plain.1, fun d inside => ?_⟩
  have parts := plain.2.1 d inside
  simp only [Dependency.toJson, Json.halves?, memberHalves?_eq_none_iff, List.forall_mem_cons,
    halves?_eq_none_iff] at parts
  exact parts.1

end ServiceAnalysis

end Downstream
