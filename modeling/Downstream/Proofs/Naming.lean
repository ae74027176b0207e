import Downstream.Idiom.Basic
import Downstream.Naming
import Mathlib.Data.List.Basic

/-!
The names that idioms read out of a type. All idioms strip "Client", some of them "ServiceClient"
after it, and one "Resource" in the end. A later suffix is looked for in what the earlier ones left,
so two idioms read different names just where the type ends in certain suffixes in a row.
-/
namespace Downstream

namespace Naming

variable {name suffix ending : List Char}

theorem stripSuffix_append (nonempty : suffix ≠ []) (front : List Char) :
    stripSuffix (front ++ suffix) suffix = front := by
  simp [stripSuffix, nonempty, Text.endsIn, Text.dropLast]

theorem stripSuffix_of_not (other : ¬ suffix <:+ name) : stripSuffix name suffix = name := by
  simp [stripSuffix, Text.endsIn, other]

theorem stripSuffix_prefix (name suffix : List Char) : stripSuffix name suffix <+: name := by
  unfold stripSuffix
  split
  · exact List.take_prefix _ _
  · exact List.prefix_rfl

theorem stripSuffix_eq_self_iff (nonempty : suffix ≠ []) :
    stripSuffix name suffix = name ↔ ¬ suffix <:+ name := by
  constructor
  · rintro unchanged ⟨front, rfl⟩
    rw [stripSuffix_append nonempty] at unchanged
    exact nonempty (List.self_eq_append_right.mp unchanged)
  · exact stripSuffix_of_not

theorem suffix_stripSuffix_iff (nonempty : suffix ≠ []) :
    ending <:+ stripSuffix name suffix ↔
      ending ++ suffix <:+ name ∨ ending <:+ name ∧ ¬ suffix <:+ name := by
  by_cases there : suffix <:+ name
  · obtain ⟨front, rfl⟩ := there
    rw [stripSuffix_append nonempty]
    constructor
    · rintro ⟨rest, rfl⟩
      exact Or.inl ⟨rest, by simp⟩
    · rintro (⟨rest, whole⟩ | ⟨_, absent⟩)
      · rw [← List.append_assoc] at whole
        exact ⟨rest, List.append_cancel_right whole⟩
      · exact absurd (List.suffix_append front suffix) absent
  · rw [stripSuffix_of_not there]
    constructor
    · exact fun ends => Or.inr ⟨ends, there⟩
    · rintro (ends | ⟨ends, _⟩)
      · exact absurd ((List.suffix_append ending suffix).trans ends) there
      · exact ends

theorem suffix_stripSuffix_of_inner (nonempty : suffix ≠ []) (inner : suffix <:+ ending) :
    ending <:+ stripSuffix name suffix ↔ ending ++ suffix <:+ name := by
  rw [suffix_stripSuffix_iff nonempty]
  exact or_iff_left fun ⟨ends, absent⟩ => absent (inner.trans ends)

/-- An ending that cannot stand where the suffix stands is left by what had it before, too. -/
theorem suffix_stripSuffix_of_clash (nonempty : suffix ≠ []) (clash : ¬ ending <:+ suffix)
    (clash_back : ¬ suffix <:+ ending) :
    ending <:+ stripSuffix name suffix ↔ ending ++ suffix <:+ name ∨ ending <:+ name := by
  rw [suffix_stripSuffix_iff nonempty]
  refine or_congr_right (and_iff_left_of_imp fun ends there => ?_)
  rcases List.suffix_or_suffix_of_suffix ends there with within | outside
  · exact clash within
  · exact clash_back outside

end Naming

namespace Idiom

def strips (idiom : Idiom) (suffix : String) : Bool :=
  idiom.stripSuffixes.contains suffix

def endingsApart (idiom other : Idiom) : List String :=
  (if idiom.strips "ServiceClient" = other.strips "ServiceClient" then []
    else ["ServiceClientClient"]) ++
  (if idiom.strips "Resource" = other.strips "Resource" then []
    else ["Resource", "ResourceClient", "ResourceServiceClientClient"])

def service? (idiom : Idiom) (typeName : String) : Option String :=
  Naming.canonical? typeName idiom.stripSuffixes

end Idiom

namespace Naming

theorem stripServiceClient_eq_iff (name : List Char) :
    stripSuffix (stripSuffix name "Client".toList) "ServiceClient".toList =
        stripSuffix name "Client".toList ↔
      ¬ "ServiceClientClient".toList <:+ name := by
  rw [stripSuffix_eq_self_iff (by decide),
    suffix_stripSuffix_of_inner (by decide) (by decide)]
  rfl

/-- "Resource" is stripped last where it stands at the end, or in front of suffixes that are
stripped before. -/
theorem stripResource_eq_iff (name : List Char) :
    stripSuffix (stripSuffix (stripSuffix name "Client".toList) "ServiceClient".toList)
          "Resource".toList =
        stripSuffix (stripSuffix name "Client".toList) "ServiceClient".toList ↔
      ¬ "Resource".toList <:+ name ∧ ¬ "ResourceClient".toList <:+ name ∧
        ¬ "ResourceServiceClientClient".toList <:+ name := by
  rw [stripSuffix_eq_self_iff (by decide),
    suffix_stripSuffix_of_clash (by decide) (by decide) (by decide),
    suffix_stripSuffix_of_inner (by decide) (by decide),
    suffix_stripSuffix_of_clash (by decide) (by decide) (by decide)]
  have whole : ("Resource".toList ++ "ServiceClient".toList) ++ "Client".toList =
      "ResourceServiceClientClient".toList := by decide
  have short : "Resource".toList ++ "Client".toList = "ResourceClient".toList := by decide
  rw [whole, short, not_or, not_or]
  constructor
  · rintro ⟨twice, once, bare⟩
    exact ⟨bare, once, twice⟩
  · rintro ⟨bare, once, twice⟩
    exact ⟨twice, once, bare⟩

theorem normalize_eq_iff_of_strips (raw : String) :
    (normalize raw ["Client", "ServiceClient"] = normalize raw ["Client"] ↔
      ¬ "ServiceClientClient".toList <:+ raw.toList) ∧
    (normalize raw ["Client", "ServiceClient", "Resource"] =
        normalize raw ["Client", "ServiceClient"] ↔
      ¬ "Resource".toList <:+ raw.toList ∧ ¬ "ResourceClient".toList <:+ raw.toList ∧
        ¬ "ResourceServiceClientClient".toList <:+ raw.toList) := by
  simp only [normalize, List.foldl_cons, List.foldl_nil, String.ofList_inj]
  exact ⟨stripServiceClient_eq_iff raw.toList, stripResource_eq_iff raw.toList⟩

theorem normalize_eq_iff_of_strips_both (raw : String) :
    normalize raw ["Client", "ServiceClient", "Resource"] = normalize raw ["Client"] ↔
      normalize raw ["Client", "ServiceClient", "Resource"] =
        normalize raw ["Client", "ServiceClient"] ∧
      normalize raw ["Client", "ServiceClient"] = normalize raw ["Client"] := by
  simp only [normalize, List.foldl_cons, List.foldl_nil, String.ofList_inj]
  constructor
  · intro same
    have inner := stripSuffix_prefix
      (stripSuffix (stripSuffix raw.toList "Client".toList) "ServiceClient".toList)
      "Resource".toList
    have outer := stripSuffix_prefix (stripSuffix raw.toList "Client".toList)
      "ServiceClient".toList
    rw [same] at inner ⊢
    have equal := inner.eq_of_length_le outer.length_le
    exact ⟨equal, equal.symm⟩
  · rintro ⟨last, middle⟩
    exact last.trans middle

theorem canonical?_eq_some_iff {raw name : String} {suffixes : List String} :
    canonical? raw suffixes = some name ↔
      normalize raw suffixes = name ∧ isServiceName name = true := by
  simp only [canonical?]
  split
  · rename_i valid
    constructor
    · intro same
      obtain rfl := Option.some.inj same
      exact ⟨rfl, valid⟩
    · rintro ⟨rfl, _⟩
      rfl
  · rename_i invalid
    constructor
    · intro refused
      simp at refused
    · rintro ⟨rfl, valid⟩
      exact absurd valid invalid

end Naming

namespace Idiom

theorem stripSuffixes_cases (idiom : Idiom) :
    (idiom.stripSuffixes = ["Client"] ∧ idiom.strips "ServiceClient" = false ∧
      idiom.strips "Resource" = false) ∨
    (idiom.stripSuffixes = ["Client", "ServiceClient"] ∧ idiom.strips "ServiceClient" = true ∧
      idiom.strips "Resource" = false) ∨
    (idiom.stripSuffixes = ["Client", "ServiceClient", "Resource"] ∧
      idiom.strips "ServiceClient" = true ∧ idiom.strips "Resource" = true) := by
  cases idiom <;> decide

theorem forall_endingsApart_iff (idiom other : Idiom) (holds : String → Prop) :
    (∀ ending ∈ idiom.endingsApart other, holds ending) ↔
      (idiom.strips "ServiceClient" ≠ other.strips "ServiceClient" →
        holds "ServiceClientClient") ∧
      (idiom.strips "Resource" ≠ other.strips "Resource" →
        holds "Resource" ∧ holds "ResourceClient" ∧ holds "ResourceServiceClientClient") := by
  unfold endingsApart
  split <;> split <;> simp_all

/-- Two idioms read the same name out of a type, before it is judged, unless the type has one of the
endings on which they are apart. -/
theorem normalize_eq_iff (idiom other : Idiom) (typeName : String) :
    Naming.normalize typeName idiom.stripSuffixes =
        Naming.normalize typeName other.stripSuffixes ↔
      ∀ ending ∈ idiom.endingsApart other, ¬ ending.toList <:+ typeName.toList := by
  obtain ⟨serviceClient, resource⟩ := Naming.normalize_eq_iff_of_strips typeName
  have both := Naming.normalize_eq_iff_of_strips_both typeName
  rw [resource, serviceClient] at both
  rw [forall_endingsApart_iff]
  have serviceClient_back := eq_comm.trans serviceClient
  have resource_back := eq_comm.trans resource
  have both_back := eq_comm.trans both
  rcases stripSuffixes_cases idiom with ⟨mine, served, sourced⟩ | ⟨mine, served, sourced⟩ |
      ⟨mine, served, sourced⟩ <;>
    rcases stripSuffixes_cases other with ⟨theirs, servedToo, sourcedToo⟩ |
      ⟨theirs, servedToo, sourcedToo⟩ | ⟨theirs, servedToo, sourcedToo⟩ <;>
    simp only [mine, theirs, served, servedToo, sourced, sourcedToo, serviceClient,
      serviceClient_back, resource, resource_back, both, both_back, ne_eq, not_true_eq_false,
      not_false_eq_true, Bool.true_eq_false, Bool.false_eq_true, false_implies, true_implies,
      true_and, and_true, and_comm]

/-- Two idioms read the same service out of a type unless it has one of the endings on which they
are apart, and then at most if neither of them reads a service out of it. -/
theorem service?_eq_iff (idiom other : Idiom) (typeName : String) :
    idiom.service? typeName = other.service? typeName ↔
      (∀ ending ∈ idiom.endingsApart other, ¬ ending.toList <:+ typeName.toList) ∨
      idiom.service? typeName = none ∧ other.service? typeName = none := by
  rw [← normalize_eq_iff]
  constructor
  · intro same
    cases read : other.service? typeName with
    | none => exact Or.inr ⟨same.trans read, rfl⟩
    | some name =>
      obtain ⟨mine, _⟩ := Naming.canonical?_eq_some_iff.mp (same.trans read)
      obtain ⟨theirs, _⟩ := Naming.canonical?_eq_some_iff.mp read
      exact Or.inl (mine.trans theirs.symm)
  · rintro (same | ⟨mine, theirs⟩)
    · rw [service?, service?, Naming.canonical?, Naming.canonical?, same]
    · rw [mine, theirs]

end Idiom

end Downstream
