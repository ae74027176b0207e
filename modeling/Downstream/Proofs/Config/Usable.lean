import Downstream.Proofs.Config.Basic
import Downstream.Proofs.Text.LowerCase

/-!
The settings that a configuration file gives can be used as they are: sizes and counts are positive,
names are trimmed, and the selector is a word in small letters. One text gets through that no
selector has for a name: of nothing but white space, trimming leaves the empty text.
-/
namespace Downstream

deriving instance DecidableEq for Yaml.Document

namespace Text

theorem toList_trimmed (s : String) : (trimmed s).toList = trim s.toList :=
  String.toList_ofList

theorem toList_lowered (s : String) : (lowered s).toList = lower s.toList :=
  String.toList_ofList

theorem trimmed_trimmed (s : String) : trimmed (trimmed s) = trimmed s := by
  rw [trimmed, toList_trimmed, (trim_ends s.toList).trim_eq, ← toList_trimmed, String.ofList_toList]

theorem lowered_lowered (s : String) : lowered (lowered s) = lowered s := by
  rw [lowered, toList_lowered, lower_lower, ← toList_lowered, String.ofList_toList]

theorem trimmed_lowered_trimmed (s : String) :
    trimmed (lowered (trimmed s)) = lowered (trimmed s) := by
  have ends := (trim_ends s.toList).lower
  rw [trimmed, toList_lowered, toList_trimmed, ends.trim_eq, lowered, toList_trimmed]

theorem lowered_trimmed_eq_empty_iff {s : String} :
    lowered (trimmed s) = "" ↔ ∀ c ∈ s.toList, isBlank c = true := by
  rw [← String.toList_eq_nil_iff, toList_lowered, toList_trimmed, lower_eq_nil_iff, trim_eq_nil_iff]

end Text

namespace Number

def IsVisible (s : String) : Prop :=
  ∃ c ∈ s.toList, Text.isBlank c = false

theorem IsVisible.append (front : String) {s : String} (visible : IsVisible s) :
    IsVisible (front ++ s) := by
  obtain ⟨c, member, seen⟩ := visible
  exact ⟨c, by rw [String.toList_append]; exact List.mem_append_right _ member, seen⟩

theorem isVisible_toString_nat (n : Nat) : IsVisible (toString n) := by
  obtain ⟨c, others, digits⟩ := List.exists_cons_of_ne_nil (Text.run_toString_nat n).1
  have member : c ∈ (toString n).toList := digits ▸ List.mem_cons_self
  obtain ⟨low, high⟩ : 48 ≤ c.toNat ∧ c.toNat ≤ 57 :=
    Char.isDigit_iff_toNat.mp ((Text.run_toString_nat n).2 c member)
  refine ⟨c, member, ?_⟩
  simp only [Text.isBlank]
  rw [if_pos (by omega)]
  simp
  omega

theorem isVisible_writeInteger {n : Int} {text : String} (written : writeInteger n = .ok text) :
    IsVisible text := by
  rw [writeInteger] at written
  split at written
  · simp at written
  · obtain rfl := Except.ok.inj written
    cases n with
    | ofNat n => exact isVisible_toString_nat n
    | negSucc n => exact (isVisible_toString_nat (n + 1)).append "-"

theorem DecimalDigits.isVisible_text (d : DecimalDigits) : IsVisible d.text := by
  have point : Text.isBlank '.' = false := by decide
  have mark : Text.isBlank 'e' = false := by decide
  unfold DecimalDigits.text
  extract_lets digits kept count zeros exponent size fraction
  split
  · split
    · exact ⟨'.', by simp, point⟩
    · split
      · exact ⟨'.', by simp, point⟩
      · exact ⟨'.', by simp, point⟩
  · exact ⟨'e', by simp, mark⟩

theorem isVisible_doubleText (bits : Nat) : IsVisible (doubleText bits) := by
  have letter : Text.isBlank 'n' = false := by decide
  have point : Text.isBlank '.' = false := by decide
  unfold doubleText
  extract_lets magnitude sign
  split
  · exact ⟨'n', by decide, letter⟩
  · split
    · exact .append sign ⟨'n', by decide, letter⟩
    · split
      · exact .append sign ⟨'.', by decide, point⟩
      · exact .append sign (DecimalDigits.isVisible_text _)

end Number

namespace Setting

open Yaml (Document Value)
open Number (IsVisible)

theorem isVisible_text? {value : Value} {text : String} (found : text? value = .ok (some text)) :
    value = .str text ∨ IsVisible text := by
  unfold text? at found
  split at found
  · obtain rfl := Option.some.inj (Except.ok.inj found)
    exact .inl rfl
  · split at found
    · rename_i written
      obtain rfl := Option.some.inj (Except.ok.inj found)
      exact .inr (Number.isVisible_writeInteger written)
    · simp at found
  · obtain rfl := Option.some.inj (Except.ok.inj found)
    exact .inr (Number.isVisible_doubleText _)
  · simp at found

theorem text?_eq_ok_none_iff {value : Value} :
    text? value = .ok none ↔
      (∀ text, value ≠ .str text) ∧ (∀ n, value ≠ .int n) ∧ ∀ bits, value ≠ .float bits := by
  cases value <;> simp [text?]
  split <;> simp

structure PositiveOr (given : Option Value) (fallback n : Int) : Prop where
  positive : 1 ≤ n
  given_or : given.bind integer? = some n ∨
    (∀ m, given.bind integer? = some m → m ≤ 0) ∧ n = fallback

theorem positiveOr_positive (d : Document) (own : List (Nat × Nat)) (key : String) {fallback : Int}
    (usable : 1 ≤ fallback) :
    PositiveOr (d.lookup? own key) fallback (positive d own key fallback) := by
  unfold positive
  cases given : (d.lookup? own key).bind integer? with
  | none => exact ⟨usable, .inr ⟨by simp [given], rfl⟩⟩
  | some n =>
    by_cases isPositive : 0 < n
    · simp only [if_pos isPositive]
      exact ⟨isPositive, .inl given⟩
    · simp only [if_neg isPositive]
      exact ⟨usable, .inr ⟨fun m same => by rw [given] at same; grind, rfl⟩⟩

/-- A selector goes by its small letters, without white space at the ends. It is empty only where a
text of nothing but white space is given, and the default where there is neither a text nor a
number. -/
structure SelectorFor (given : Option Value) (selector : String) : Prop where
  trimmed : Text.trimmed selector = selector
  lowered : Text.lowered selector = selector
  empty_iff : selector = "" ↔
    ∃ text, given = some (.str text) ∧ text ≠ "" ∧ ∀ c ∈ text.toList, Text.isBlank c = true
  fallback : (∀ text, given = some (.str text) → text = "") → (∀ n, given ≠ some (.int n)) →
    (∀ bits, given ≠ some (.float bits)) → selector = "heuristic"

end Setting

namespace Config

open Setting
open Yaml (Document Value)

variable {d : Document} {settings : List (Nat × Nat)}

theorem selectorFor_default {given : Option Value}
    (unnamed : ∀ text, given = some (.str text) → text = "") : SelectorFor given "heuristic" where
  trimmed := by decide +kernel
  lowered := by decide +kernel
  empty_iff := by
    refine ⟨fun empty => absurd empty (by decide), ?_⟩
    rintro ⟨text, isText, nonempty, _⟩
    exact absurd (unnamed text isText) nonempty
  fallback := fun _ _ _ => rfl

theorem selectorFor_word {value : Value} {text : String} (found : text? value = .ok (some text))
    (nonempty : text ≠ "") : SelectorFor (some value) (Text.lowered (Text.trimmed text)) where
  trimmed := Text.trimmed_lowered_trimmed text
  lowered := Text.lowered_lowered _
  empty_iff := by
    rw [Text.lowered_trimmed_eq_empty_iff]
    constructor
    · intro blanks
      obtain rfl | ⟨c, member, visible⟩ := isVisible_text? found
      · exact ⟨text, rfl, nonempty, blanks⟩
      · rw [blanks c member] at visible
        exact Bool.noConfusion visible
    · rintro ⟨other, isText, _, blanks⟩
      obtain rfl := Option.some.inj isText
      obtain rfl := Option.some.inj (Except.ok.inj found)
      exact blanks
  fallback := by
    intro noText noInteger noFloat
    have isText : value ≠ .str text := fun same => nonempty (noText text (congrArg some same))
    cases value with
    | str other =>
      obtain rfl := Option.some.inj (Except.ok.inj found)
      exact absurd rfl isText
    | int n => exact absurd rfl (noInteger n)
    | float bits => exact absurd rfl (noFloat bits)
    | _ => simp [text?] at found

theorem selectorFor_selectorNamed {own : List (Nat × Nat)} {named : Option String}
    (found : textAt d own "selector" = .ok named) :
    SelectorFor (d.lookup? own "selector") (selectorNamed named) := by
  unfold textAt at found
  cases given : d.lookup? own "selector" with
  | none =>
    rw [given] at found
    obtain rfl := Except.ok.inj found
    exact selectorFor_default (by simp)
  | some value =>
    simp only [given] at found
    cases named with
    | none =>
      obtain ⟨noText, _⟩ := text?_eq_ok_none_iff.mp found
      exact selectorFor_default fun text same => absurd (Option.some.inj same) (noText text)
    | some text =>
      by_cases empty : text = ""
      · subst empty
        obtain rfl | ⟨c, member, _⟩ := isVisible_text? found
        · exact selectorFor_default fun text same => by simpa using same.symm
        · simp at member
      · have named : selectorNamed (some text) = Text.lowered (Text.trimmed text) :=
          if_neg (by simpa using empty)
        rw [named]
        exact selectorFor_word found empty

theorem serviceName_trimmed {named : Option String} {name : String}
    (given : (named.map Text.trimmed).filter (!·.isEmpty) = some name) :
    name ≠ "" ∧ Text.trimmed name = name := by
  obtain ⟨trimmed, notEmpty⟩ := Option.filter_eq_some_iff.mp given
  obtain ⟨text, _, rfl⟩ := Option.map_eq_some_iff.mp trimmed
  exact ⟨by simpa using notEmpty, Text.trimmed_trimmed text⟩

structure Usable (d : Document) (settings : List (Nat × Nat)) (config : Config) : Prop where
  maxFileSize : PositiveOr (d.lookup? (entries d settings "scan") "max_file_size") 5242880
    config.scan.maxFileSize
  topN : PositiveOr (d.lookup? (entries d settings "selection") "top_n") 15 config.selection.topN
  workers : PositiveOr (d.lookup? (entries d settings "extraction") "max_workers") 1
    config.extraction.workers
  serviceName : ∀ name, config.serviceName = some name → name ≠ "" ∧ Text.trimmed name = name
  selector : SelectorFor (d.lookup? (entries d settings "selection") "selector")
    config.selection.selector

theorem usable_ofDocument {root : String} {config : Config}
    (mapping : d.value d.root = .mapping settings)
    (given : ofDocument root (some d) = .ok config) : Usable d settings config := by
  simp only [ofDocument_eq mapping, bind_eq_ok_iff] at given
  obtain ⟨excludePaths, _, selector, selectorAt, name, _, given⟩ := given
  obtain rfl := Except.ok.inj given
  exact ⟨positiveOr_positive d _ _ (by decide), positiveOr_positive d _ _ (by decide),
    positiveOr_positive d _ _ (by decide), fun name => serviceName_trimmed,
    selectorFor_selectorNamed selectorAt⟩

/-- The settings in a configuration file make a configuration that can be used, if they make one at
all; only the selector may be empty, and only where it is given as white space. -/
theorem load_usable {fs : FileSystem} {path : PathText} {root file : String} {bytes : ByteArray}
    {config : Config} (reads : Reads fs path root file bytes)
    (holds : HoldsSettings bytes d settings) (loaded : load fs path = .ok config) :
    Usable d settings config := by
  rw [reads.load_eq, holds.ofBytes_eq] at loaded
  exact usable_ofDocument holds.mapping loaded

/-- A selector is trimmed and lowered, and a count that is not positive gives way to the default. -/
theorem padded_selector_usable :
    let text := "selection:\n  selector: ' PageRank '\n  top_n: -3\n"
    let d : Document := ⟨#[some (.mapping [(1, 2)]), some (.str "selection"),
      some (.mapping [(3, 4), (5, 6)]), some (.str "selector"), some (.str " PageRank "),
      some (.str "top_n"), some (.int (-3))], 0⟩
    let config : Config := { root := "/", selection := { selector := "pagerank", topN := 15 } }
    Reads (folderWith text) (.absolute []) "/" configFileName text.toUTF8 ∧
      HoldsSettings text.toUTF8 d [(1, 2)] ∧
      load (folderWith text) (.absolute []) = .ok config ∧ Usable d [(1, 2)] config := by
  intro text d config
  have parsed : Document.parse (String.ofList (unifyBreaks text.toList)) = .ok (some d) := by
    decide +kernel
  have holds : HoldsSettings text.toUTF8 d [(1, 2)] :=
    ⟨⟨_, holdsText_toUTF8 ⟨'s', by decide +kernel, by decide⟩, parsed⟩, rfl⟩
  have loaded : load (folderWith text) (.absolute []) = .ok config := by decide +kernel
  exact ⟨reads_folderWith text, holds, loaded,
    load_usable (reads_folderWith text) holds loaded⟩

/-- White space for a selector gives the empty selector, which is no word. -/
theorem blank_selector_empty :
    load (folderWith "selection:\n  selector: '  '\n") (.absolute []) =
      .ok { root := "/", selection := { selector := "" } } := by
  decide +kernel

end Config

end Downstream
