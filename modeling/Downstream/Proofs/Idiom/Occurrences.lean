import Downstream.Proofs.Idiom.Apart
import Downstream.Proofs.Idiom.Located

/-!
Where the statements of a form stand in a text. A match is a statement that stands where the match
begins, and the next statement begins behind it; so a search that passes every match as a whole
captures each statement once, in the order of their positions.
-/
namespace Downstream

open Text

namespace Statement

/-- A statement stands in a text from one position up to another one, and no word goes on where it
begins. -/
structure Form.StandsAt (form : Form) (text : List Char) (start stop : Nat)
    (typeName : List Char) : Prop where
  beginsWord : ∀ c ∈ (text.take start).getLast?, isWord c = false
  reads : ∃ covered rest, text.drop start = covered ++ rest ∧ stop = start + covered.length ∧
    form.Reads typeName covered rest

structure Form.Describes (form : Form) (idiom : Idiom) : Prop where
  readBy : ∃ statement, form.ReadBy statement ∧ ∀ before cs,
    idiom.matchAt before cs = if before.any isWord then none else statement cs
  keyword : form.keyword.toList ≠ []
  apart : form.Apart

variable {form : Form} {idiom : Idiom} {text typeName other : List Char} {p q stop next : Nat}

theorem standsAt_iff (describes : form.Describes idiom) :
    form.StandsAt text p stop typeName ↔
      ∃ capture, idiom.matchAt (text.take p).getLast? (text.drop p) = some capture ∧
        capture.typeName = typeName ∧ stop = p + capture.length := by
  obtain ⟨statement, readBy, matched⟩ := describes.readBy
  simp only [matched, Option.ite_none_left_eq_some, Bool.not_eq_true]
  constructor
  · rintro ⟨beginsWord, covered, rest, here, rfl, reads⟩
    have noWord : (text.take p).getLast?.any isWord = false := by
      cases last : (text.take p).getLast? with
      | none => rfl
      | some c => exact beginsWord c last
    have passes : (Cursor.start (text.drop p)).Passes covered ⟨covered.length, rest⟩ :=
      ⟨here, (Nat.zero_add _).symm⟩
    exact ⟨⟨typeName, covered.length⟩,
      ⟨noWord, (readBy _ _).mpr ⟨typeName, _, ⟨covered, passes, reads⟩, rfl⟩⟩, rfl, rfl⟩
  · rintro ⟨capture, ⟨noWord, found⟩, rfl, rfl⟩
    obtain ⟨typeName, last, ⟨covered, ⟨here, count⟩, reads⟩, rfl⟩ := (readBy _ _).mp found
    refine ⟨fun c last => ?_, covered, last.rest, here, ?_, reads⟩
    · rw [Option.mem_def.mp last] at noWord
      exact noWord
    · rw [Cursor.capture, count, Cursor.start, Nat.zero_add]

theorem Form.Apart.stop_le (apart : form.Apart) (stands : form.StandsAt text p stop typeName)
    (later : form.StandsAt text q next other) (behind : p < q) : stop ≤ q := by
  obtain ⟨covered, rest, here, rfl, reads⟩ := stands.reads
  refine Nat.le_of_not_lt fun inside => ?_
  obtain ⟨k, rfl⟩ := Nat.exists_eq_add_of_lt behind
  have short : k < covered.tail.length := by
    rw [List.length_tail]
    omega
  obtain ⟨covering, beyond, there, _, readsThere⟩ := later.reads
  refine apart typeName covered rest reads k short ⟨other, covering, beyond, ?_, readsThere⟩
  rw [← there, Nat.add_assoc, ← List.drop_drop, here]
  cases covered with
  | nil => simp at short
  | cons c inner => rw [List.cons_append, List.drop_succ_cons, List.tail_cons]

def Form.CapturesFrom (form : Form) (text : List Char) (i p : Nat) (typeName : List Char) : Prop :=
  i ≤ p ∧ ∃ stop, form.StandsAt text p stop typeName

theorem locates (describes : form.Describes idiom) (text : List Char) :
    idiom.Locates text (form.CapturesFrom text) where
  ended := by
    rintro p typeName ⟨beyond, stop, stands⟩
    obtain ⟨covered, rest, here, _, _, _, rfl, _⟩ := stands.reads
    rw [List.drop_eq_nil_of_le beyond] at here
    simp [describes.keyword] at here
  pass := by
    intro i _ missed p typeName
    constructor
    · rintro ⟨from_, stop, stands⟩
      refine ⟨Nat.lt_of_le_of_ne from_ ?_, stop, stands⟩
      rintro rfl
      obtain ⟨capture, found, _⟩ := (standsAt_iff describes).mp stands
      rw [missed] at found
      simp at found
    · rintro ⟨later, stands⟩
      exact ⟨Nat.le_of_succ_le later, stands⟩
  take := by
    intro i _ capture found
    have here := (standsAt_iff describes).mpr ⟨capture, found, rfl, rfl⟩
    have positive : 0 < capture.length := (Idiom.matchAt_endsIn found).2
    refine ⟨i, fun p typeName => ⟨?_, ?_⟩, ?_⟩
    · rintro ⟨from_, stop, stands⟩
      rcases Nat.eq_or_lt_of_le from_ with rfl | behind
      · obtain ⟨same, again, named, _⟩ := (standsAt_iff describes).mp stands
        obtain rfl := Option.some.inj (found.symm.trans again)
        exact .inl ⟨rfl, named.symm⟩
      · exact .inr ⟨describes.apart.stop_le here stands behind, stop, stands⟩
    · rintro (⟨rfl, rfl⟩ | ⟨later, stands⟩)
      · exact ⟨Nat.le_refl p, _, here⟩
      · exact ⟨Nat.le_trans (Nat.le_add_right i _) later, stands⟩
    · rintro p typeName ⟨later, _⟩
      omega

end Statement

namespace Idiom

open Statement

def statementForm? : Idiom → Option Form
  | .qualifiedImport => some qualifiedImportForm
  | .fromImport => some fromImportForm
  | .clientAttribute => some clientAttributeForm
  | .namedImport => some namedImportForm
  | _ => none

theorem statementForm?_describes {idiom : Idiom} {form : Form}
    (isStatement : idiom.statementForm? = some form) : form.Describes idiom := by
  cases idiom with
  | qualifiedImport =>
    obtain rfl := Option.some.inj isStatement
    exact ⟨⟨_, qualifiedImport_readBy, fun _ _ => rfl⟩, by decide, qualifiedImportForm_apart⟩
  | fromImport =>
    obtain rfl := Option.some.inj isStatement
    exact ⟨⟨_, fromImport_readBy, fun _ _ => rfl⟩, by decide, fromImportForm_apart⟩
  | clientAttribute =>
    obtain rfl := Option.some.inj isStatement
    exact ⟨⟨_, clientAttribute_readBy, fun _ _ => rfl⟩, by decide, clientAttributeForm_apart⟩
  | namedImport =>
    obtain rfl := Option.some.inj isStatement
    exact ⟨⟨_, namedImport_readBy, fun _ _ => rfl⟩, by decide, namedImportForm_apart⟩
  | providerMethod => simp [statementForm?] at isStatement
  | builderCall => simp [statementForm?] at isStatement
  | beanMethod => simp [statementForm?] at isStatement
  | injectedField => simp [statementForm?] at isStatement

end Idiom

/-- In any text, an idiom that is one statement finds just the statements of its form, each of them
once and in the order of their positions; and no two of them overlap. -/
theorem statement_idioms_capture_all {idiom : Idiom} {form : Statement.Form}
    (isStatement : idiom.statementForm? = some form) (file : SourceFile) :
    (∃ found : List (Nat × List Char), (found.map (·.1)).Pairwise (· < ·) ∧
      (∀ p typeName, (p, typeName) ∈ found ↔
        ∃ stop, form.StandsAt file.content.toList p stop typeName) ∧
      idiom.apply file = found.map fun entry => idiom.candidate file.name entry.2) ∧
    ∀ p stop typeName q next other, form.StandsAt file.content.toList p stop typeName →
      form.StandsAt file.content.toList q next other → p < q → stop ≤ q := by
  have describes := Idiom.statementForm?_describes isStatement
  constructor
  · obtain ⟨found, sorted, located, names⟩ :=
      (Statement.locates describes file.content.toList).captures
    refine ⟨found, sorted, fun p typeName => ?_, ?_⟩
    · rw [located, Statement.Form.CapturesFrom, and_iff_right (Nat.zero_le p)]
    · rw [Idiom.apply, names, List.map_map]
      rfl
  · intro p stop typeName q next other stands later behind
    exact describes.apart.stop_le stands later behind

/-- Modules with the names of the two keywords, types that begin with them, a name that ends in a
keyword, and a type that goes on behind its suffix. -/
def keywordText : List Char :=
  "from from import import_Client\nfrom import import fromService\n".toList ++
    "xfrom a import TaxClient; from a.b import TaxClients".toList

def keywordFile : SourceFile where
  path := "app/clients.py"
  name := "clients.py"
  language := "python"
  content := String.ofList keywordText
  size := 114

theorem keyword_file_captures :
    ∃ found : List (Nat × List Char), (found.map (·.1)).Pairwise (· < ·) ∧
      (∀ p typeName, (p, typeName) ∈ found ↔
        ∃ stop, Statement.fromImportForm.StandsAt keywordFile.content.toList p stop typeName) ∧
      found.map (fun entry => String.ofList entry.2) = ["import_Client", "fromService"] := by
  obtain ⟨⟨found, sorted, located, applied⟩, _⟩ :=
    statement_idioms_capture_all (show Idiom.fromImport.statementForm? = _ from rfl) keywordFile
  have captured : Idiom.fromImport.captures keywordText =
      ["import_Client".toList, "fromService".toList] := by decide +kernel
  have names : (Idiom.fromImport.apply keywordFile).map (·.rawName) =
      ["import_Client", "fromService"] := by
    rw [Idiom.apply, show keywordFile.content.toList = keywordText from String.toList_ofList,
      captured]
    rfl
  refine ⟨found, sorted, located, ?_⟩
  rw [← names, applied, List.map_map]
  rfl

end Downstream
