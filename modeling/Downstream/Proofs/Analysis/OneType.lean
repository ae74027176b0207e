import Downstream.Proofs.Analysis.Provenance
import Downstream.Proofs.Naming

/-!
One type captured by several idioms. Every idiom strips the suffixes of its own list, so a type may
stand for more than one service; it does just where it ends in suffixes that one idiom strips and
another does not. Where no two capturing idioms are apart like this, the type has one dependency at
most, and that one is as certain as the most certain match that names its service.
-/
namespace Downstream

def Idiom.CapturesIn (idiom : Idiom) (keys : List SourceFile) (typeName : String) : Prop :=
  ∃ file ∈ keys, file.language ∈ idiom.languages ∧
    ∃ capture, idiom.MatchesIn file.content.toList capture ∧
      String.ofList capture.typeName = typeName

def AgreeOn (keys : List SourceFile) (typeName : String) : Prop :=
  ∀ idiom other : Idiom, idiom.CapturesIn keys typeName → other.CapturesIn keys typeName →
    ∀ ending ∈ idiom.endingsApart other, ¬ ending.toList <:+ typeName.toList

namespace Dependency

def StandsFor (d : Dependency) (keys : List SourceFile) (typeName : String) : Prop :=
  ∃ idiom : Idiom, idiom.CapturesIn keys typeName ∧ idiom.service? typeName = some d.name

structure CarriesHighest (d : Dependency) (keys : List SourceFile) : Prop where
  reached : ∃ (idiom : Idiom) (typeName : String), idiom.CapturesIn keys typeName ∧
    idiom.service? typeName = some d.name ∧ idiom.confidence = d.confidence
  highest : ∀ (idiom : Idiom) (typeName : String), idiom.CapturesIn keys typeName →
    idiom.service? typeName = some d.name → idiom.confidence.rank ≤ d.confidence.rank

end Dependency

namespace Analysis

variable {config : Config} {keys : List SourceFile}

theorem dependenciesOf_covers_captures (config : Config) {idiom : Idiom} {typeName name : String}
    (captured : idiom.CapturesIn keys typeName) (named : idiom.service? typeName = some name) :
    Dependencies.Covers (dependenciesOf config keys) name idiom.confidence := by
  obtain ⟨file, isKey, speaks, capture, matched, rfl⟩ := captured
  exact dependenciesOf_covers isKey speaks matched named

theorem carriesHighest_of_mem {d : Dependency} (member : d ∈ dependenciesOf config keys) :
    d.CarriesHighest keys := by
  constructor
  · obtain ⟨file, isKey, idiom, _, speaks, capture, repeated⟩ :=
      exists_match_of_mem_dependenciesOf member
    exact ⟨idiom, String.ofList capture.typeName,
      ⟨file, isKey, speaks, capture, repeated.matched, rfl⟩, repeated.name,
      repeated.confidence.symm⟩
  · intro idiom typeName captured named
    obtain ⟨e, listed, same, enough⟩ :=
      dependenciesOf_covers_captures config captured named
    have equal := Dependencies.eq_of_name_eq (resolve_increasing _) listed member same
    rwa [equal] at enough

theorem standsFor_unique {typeName : String} {d e : Dependency} (agree : AgreeOn keys typeName)
    (member : d ∈ dependenciesOf config keys) (other : e ∈ dependenciesOf config keys)
    (stands : d.StandsFor keys typeName) (standsToo : e.StandsFor keys typeName) : d = e := by
  obtain ⟨idiom, captured, named⟩ := stands
  obtain ⟨idiomOther, capturedToo, namedToo⟩ := standsToo
  have same : idiom.service? typeName = idiomOther.service? typeName :=
    (Idiom.service?_eq_iff idiom idiomOther typeName).mpr
      (Or.inl (agree idiom idiomOther captured capturedToo))
  have names : d.name = e.name := Option.some.inj (named.symm.trans (same.trans namedToo))
  exact Dependencies.eq_of_name_eq (resolve_increasing _) member other names

end Analysis

/-- Two idioms read the same service out of a type unless it ends in suffixes on which they are
apart, and where all that capture a type agree, it has one dependency at most, as certain as the
most certain match that names its service. -/
theorem agreeing_idioms_share_dependency (config : Config) (keys : List SourceFile)
    (typeName : String) :
    (∀ idiom other : Idiom, idiom.service? typeName = other.service? typeName ↔
      (∀ ending ∈ idiom.endingsApart other, ¬ ending.toList <:+ typeName.toList) ∨
      idiom.service? typeName = none ∧ other.service? typeName = none) ∧
    (∀ idiom : Idiom, idiom.CapturesIn keys typeName → ∀ name,
      idiom.service? typeName = some name →
        ∃ d ∈ Analysis.dependenciesOf config keys, d.name = name ∧ d.CarriesHighest keys) ∧
    (AgreeOn keys typeName → ∀ d ∈ Analysis.dependenciesOf config keys,
      ∀ e ∈ Analysis.dependenciesOf config keys,
        d.StandsFor keys typeName → e.StandsFor keys typeName → d = e) := by
  refine ⟨fun idiom other => Idiom.service?_eq_iff idiom other typeName, ?_, ?_⟩
  · intro idiom captured name named
    obtain ⟨d, member, same, _⟩ := Analysis.dependenciesOf_covers_captures config captured named
    exact ⟨d, member, same, Analysis.carriesHighest_of_mem member⟩
  · intro agree d member e other stands standsToo
    exact Analysis.standsFor_unique agree member other stands standsToo

def bookingModule : SourceFile where
  name := "ClientModule.java"
  path := "module/ClientModule.java"
  content := "import com.xbt.ior.XbtIORServiceClient;\n@Provides\npublic XbtIORServiceClient ior()"
  language := "java"
  size := 87

theorem capturesIn_singleton_iff {idiom : Idiom} {file : SourceFile} {typeName : String} :
    idiom.CapturesIn [file] typeName ↔
      file.language ∈ idiom.languages ∧ typeName.toList ∈ idiom.captures file.content.toList := by
  simp only [Idiom.CapturesIn, List.mem_singleton, exists_eq_left, Idiom.mem_captures_iff]
  refine and_congr_right fun _ => exists_congr fun capture => and_congr_right fun _ => ?_
  rw [← String.toList_inj, String.toList_ofList]

/-- Both idioms capture the client, they agree on it, and it has one dependency, as certain as the
provider makes it. -/
theorem booking_shares_dependency :
    let typeName := "XbtIORServiceClient"
    let keys := [bookingModule]
    Idiom.qualifiedImport.CapturesIn keys typeName ∧ Idiom.providerMethod.CapturesIn keys typeName ∧
    AgreeOn keys typeName ∧
    Analysis.dependenciesOf { root := "/" } keys = [⟨"XbtIORService", .clientClass, .high,
      "Found in ClientModule.java: @Provides XbtIORServiceClient"⟩] ∧
    ∀ d ∈ Analysis.dependenciesOf { root := "/" } keys,
      ∀ e ∈ Analysis.dependenciesOf { root := "/" } keys,
        d.StandsFor keys typeName → e.StandsFor keys typeName → d = e := by
  intro typeName keys
  have imported : Idiom.qualifiedImport.CapturesIn keys typeName :=
    capturesIn_singleton_iff.mpr (by decide +kernel)
  have provided : Idiom.providerMethod.CapturesIn keys typeName :=
    capturesIn_singleton_iff.mpr (by decide +kernel)
  have agree : AgreeOn keys typeName := by
    intro idiom other _ _
    rw [Idiom.forall_endingsApart_iff idiom other fun ending => ¬ ending.toList <:+ typeName.toList]
    exact ⟨fun _ => by decide +kernel, fun _ => by decide +kernel⟩
  exact ⟨imported, provided, agree, by decide +kernel,
    (agreeing_idioms_share_dependency { root := "/" } keys typeName).2.2 agree⟩

def catalogModule : SourceFile where
  name := "CatalogModule.java"
  path := "module/CatalogModule.java"
  content := "import a.b.CatalogResourceClient;\n@Provides\npublic CatalogResourceClient make()"
  language := "java"
  size := 79

def billingModule : SourceFile where
  name := "BillingModule.java"
  path := "module/BillingModule.java"
  content := "import a.b.BillingResource;\n@Provides\npublic BillingClient make()"
  language := "java"
  size := 66

/-- The import strips one suffix more than the provider, so the one type has two dependencies; and a
type that is only imported has the certainty of another type that is provided. -/
theorem one_type_two_dependencies :
    (Idiom.qualifiedImport.CapturesIn [catalogModule] "CatalogResourceClient" ∧
      Idiom.providerMethod.CapturesIn [catalogModule] "CatalogResourceClient" ∧
      Idiom.qualifiedImport.service? "CatalogResourceClient" = some "Catalog" ∧
      Idiom.providerMethod.service? "CatalogResourceClient" = some "CatalogResource" ∧
      (Analysis.dependenciesOf { root := "/" } [catalogModule]).map (fun d =>
        (d.name, d.confidence)) = [("Catalog", .medium), ("CatalogResource", .high)]) ∧
    (∀ idiom : Idiom, idiom.CapturesIn [billingModule] "BillingResource" →
      idiom.confidence = .medium ∧ idiom.service? "BillingResource" = some "Billing") ∧
    (Analysis.dependenciesOf { root := "/" } [billingModule]).map (fun d =>
      (d.name, d.confidence)) = [("Billing", .high)] := by
  simp only [capturesIn_singleton_iff]
  refine ⟨by decide +kernel, fun idiom => ?_, by decide +kernel⟩
  cases idiom <;> decide +kernel

end Downstream
