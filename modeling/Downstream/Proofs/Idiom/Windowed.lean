import Downstream.Extraction
import Downstream.Proofs.Idiom.Nearest
import Downstream.Proofs.Idiom.Parts

/-!
The idioms in two parts: members with an annotation and builder calls. Their declarations begin with
a character that no anchor holds, and no anchor begins inside a declaration: the mark of an
annotation is not part of a member, and a keyword with white space behind it is not part of a call.
-/
namespace Downstream

open Text

namespace Windowed

/-- A member within 200 characters behind an annotation; `behind` says what may follow the
annotation. -/
def memberForm (mark : String) (behind : List Char → Prop) (visibility : String)
    (suffixes : List String) : Form where
  anchor text rest := text = mark.toList ∧ behind rest
  window := 200
  declares := DeclaresMember visibility suffixes

def builderForm : Form where
  anchor text _ := NewBuilder text
  window := 100
  declares := DeclaresRemote

def providerForm : Form :=
  memberForm "@Provides" (fun _ => True) "public" ["Client", "Service", "Lambda", "Authority"]

def beanForm : Form :=
  memberForm "@Bean" (Stops isWord) "public" ["Client", "Service"]

def injectedForm : Form :=
  memberForm "@Autowired" (Stops isWord) "private" ["Client", "Service"]

/-! ### Members -/

variable {visibility : String} {suffixes : List String} {place : Cursor} {capture : Capture}

theorem memberDeclaration_covers {mark : Char} (outside : mark ∉ visibility.toList)
    (notBlank : isBlank mark = false) (notWord : isWord mark = false)
    (found : memberDeclaration visibility suffixes place = some capture) :
    ∃ covered last, place.Passes covered last ∧ capture.length = last.taken ∧ mark ∉ covered := by
  obtain ⟨gap, typeName, space, name, last, passes, isGap, isType, _, isSpace, isName, _, rfl⟩ :=
    memberDeclaration_eq_some_iff.mp found
  refine ⟨_, last, passes, rfl, ?_⟩
  simp only [List.mem_append, not_or]
  exact ⟨⟨⟨⟨outside, isGap.not_mem notBlank⟩, isType.not_mem notWord⟩, isSpace.not_mem notBlank⟩,
    isName.not_mem notWord⟩

theorem not_anchor_of_not_mem {form : Form} {first : Char} {covered rest : List Char}
    (outside : first ∉ covered) (opens : ∀ mark behind, form.anchor mark behind →
      mark.head? = some first) {k : Nat} (inside : k < covered.length) {mark behind : List Char}
    (text : (covered ++ rest).drop k = mark ++ behind) : ¬ form.anchor mark behind := by
  intro isAnchor
  exact drop_ne_of_not_mem outside (opens mark behind isAnchor) inside text

theorem realizes_memberForm {idiom : Windowed} {mark : String} {behind : List Char → Prop}
    (window : idiom.window = 200)
    (anchors : ∀ place next, idiom.anchor place = some next ↔
      place.Passes mark.toList next ∧ behind next.rest)
    (declares : idiom.declaration = memberDeclaration visibility suffixes)
    (marked : mark.toList.head? = some '@') (outside : '@' ∉ visibility.toList) :
    idiom.Realizes (memberForm mark behind visibility suffixes) where
  window_eq := window
  anchor_iff place next := by
    rw [anchors]
    constructor
    · rintro ⟨passes, follows⟩
      exact ⟨_, passes, rfl, follows⟩
    · rintro ⟨_, passes, rfl, follows⟩
      exact ⟨passes, follows⟩
  declares_iff place typeName := by
    rw [declares]
    exact declaresMember_iff
  covers place capture found := by
    rw [declares] at found
    obtain ⟨covered, last, passes, length, free⟩ :=
      memberDeclaration_covers outside (by decide) (by decide) found
    refine ⟨covered, last, passes, length, fun k inside text rest here => ?_⟩
    rw [passes.1] at here
    refine not_anchor_of_not_mem free ?_ inside here
    rintro _ _ ⟨rfl, _⟩
    exact marked

theorem apart_memberForm {mark : String} {behind : List Char → Prop} (front : List Char)
    {z f : Char} (ends : mark.toList = front ++ [z]) (onlyLast : z ∉ front)
    (opens : visibility.toList.head? = some f) (outside : f ∉ mark.toList) :
    (memberForm mark behind visibility suffixes).Apart where
  ends := by
    refine ⟨z, ?_⟩
    rintro _ rest ⟨rfl, _⟩
    exact ⟨front, ends, onlyLast⟩
  opens := by
    refine ⟨f, ?_, ?_⟩
    · rintro typeName _ ⟨gap, space, c, rest, rfl, _⟩
      simp only [List.append_assoc, List.head?_append, opens, Option.some_or]
    · rintro _ rest ⟨rfl, _⟩
      exact outside

theorem realizes_providerForm : providerMethod.Realizes providerForm :=
  realizes_memberForm rfl
    (fun _ _ => Cursor.passText_eq_some_iff.trans (and_iff_left trivial).symm) rfl rfl (by decide)

theorem realizes_beanForm : beanMethod.Realizes beanForm :=
  realizes_memberForm rfl (fun _ _ => wholeAnnotation_eq_some_iff) rfl rfl (by decide)

theorem realizes_injectedForm : injectedField.Realizes injectedForm :=
  realizes_memberForm rfl (fun _ _ => wholeAnnotation_eq_some_iff) rfl rfl (by decide)

theorem apart_providerForm : providerForm.Apart :=
  apart_memberForm "@Provide".toList rfl (by decide) rfl (by decide)

theorem apart_beanForm : beanForm.Apart :=
  apart_memberForm "@Bea".toList rfl (by decide) rfl (by decide)

theorem apart_injectedForm : injectedForm.Apart :=
  apart_memberForm "@Autowire".toList rfl (by decide) rfl (by decide)

/-! ### Builder calls -/

theorem not_builder_in_word {word rest mark behind : List Char} (all : ∀ c ∈ word, isWord c = true)
    (text : word ++ '.' :: rest = mark ++ behind) : ¬ builderForm.anchor mark behind := by
  rintro ⟨gap, rfl, isGap⟩
  have keyword : ∀ c ∈ "new".toList, isWord c = true := List.all_eq_true.mp (by decide)
  have behindWord : (word ++ '.' :: rest).dropWhile isWord = '.' :: rest :=
    dropWhile_append_of_stops all (stops_cons.mpr (by decide))
  have behindKeyword : ("new".toList ++ (gap ++ ("ClientBuilder()".toList ++ behind))).dropWhile
      isWord = gap ++ ("ClientBuilder()".toList ++ behind) :=
    dropWhile_append_of_stops keyword (isGap.stops isWord_eq_false_of_isBlank _)
  obtain ⟨some_gap, blank⟩ := isGap
  obtain ⟨first, others, rfl⟩ := List.exists_cons_of_ne_nil some_gap
  have same : '.' :: rest = first :: others ++ ("ClientBuilder()".toList ++ behind) := by
    rw [← behindWord, ← behindKeyword, text]
    simp only [List.append_assoc]
  obtain ⟨rfl, _⟩ := List.cons.inj same
  exact absurd (blank '.' List.mem_cons_self) (by decide)

theorem not_builder_in_remote {typeName rest mark behind : List Char} {k : Nat}
    (isType : Run isWord typeName)
    (inside : k < (".remoteOf(".toList ++ typeName ++ ".class)".toList).length)
    (text : (".remoteOf(".toList ++ typeName ++ ".class)".toList ++ rest).drop k = mark ++ behind) :
    ¬ builderForm.anchor mark behind := by
  have opens : ∀ mark behind, builderForm.anchor mark behind → mark.head? = some 'n' := by
    rintro _ _ ⟨gap, rfl, _⟩
    rfl
  simp only [List.append_assoc] at text inside
  -- The keyword begins with a letter that only the type can hold.
  rcases Nat.lt_or_ge k ".remoteOf(".toList.length with inOpening | afterOpening
  · exact not_anchor_of_not_mem (by decide) opens inOpening text
  obtain ⟨j, rfl⟩ := Nat.exists_eq_add_of_le afterOpening
  rw [List.drop_length_add_append] at text
  rw [List.length_append, Nat.add_lt_add_iff_left] at inside
  rcases Nat.lt_or_ge j typeName.length with inType | afterType
  · rw [List.drop_append_of_le_length (Nat.le_of_lt inType)] at text
    exact not_builder_in_word (fun c member => isType.2 c (List.mem_of_mem_drop member)) text
  · obtain ⟨l, rfl⟩ := Nat.exists_eq_add_of_le afterType
    rw [List.drop_length_add_append] at text
    rw [List.length_append, Nat.add_lt_add_iff_left] at inside
    exact not_anchor_of_not_mem (by decide) opens inside text

theorem realizes_builderForm : builderCall.Realizes builderForm where
  window_eq := rfl
  anchor_iff place next := newBuilder_eq_some_iff
  declares_iff place typeName := declaresRemote_iff
  covers place capture found := by
    obtain ⟨typeName, last, passes, isType, rfl⟩ := remoteClass_eq_some_iff.mp found
    refine ⟨_, last, passes, rfl, fun k inside mark behind here => ?_⟩
    rw [passes.1] at here
    exact not_builder_in_remote isType inside here

theorem apart_builderForm : builderForm.Apart where
  ends := by
    refine ⟨')', ?_⟩
    rintro _ rest ⟨gap, rfl, isGap⟩
    have notBlank : ')' ∉ gap := isGap.not_mem (by decide)
    refine ⟨"new".toList ++ gap ++ "ClientBuilder(".toList, ?_, ?_⟩
    · simp [List.append_assoc]
    · simp [notBlank]
  opens := by
    refine ⟨'.', ?_, ?_⟩
    · rintro typeName _ ⟨rest, rfl, _⟩
      rfl
    · rintro _ rest ⟨gap, rfl, isGap⟩
      have notBlank : '.' ∉ gap := isGap.not_mem (by decide)
      simp [notBlank]

end Windowed

namespace Idiom

open Windowed

def form? : Idiom → Option Form
  | .providerMethod => some providerForm
  | .beanMethod => some beanForm
  | .injectedField => some injectedForm
  | .builderCall => some builderForm
  | _ => none

theorem form?_locates {idiom : Idiom} {form : Form} (windowed : idiom.form? = some form)
    (text : List Char) : idiom.Locates text (form.CapturesFrom text) := by
  cases idiom with
  | providerMethod =>
    obtain rfl := Option.some.inj windowed
    exact realizes_providerForm.locates apart_providerForm (fun _ _ => rfl) text
  | beanMethod =>
    obtain rfl := Option.some.inj windowed
    exact realizes_beanForm.locates apart_beanForm (fun _ _ => rfl) text
  | injectedField =>
    obtain rfl := Option.some.inj windowed
    exact realizes_injectedForm.locates apart_injectedForm (fun _ _ => rfl) text
  | builderCall =>
    obtain rfl := Option.some.inj windowed
    exact realizes_builderForm.locates apart_builderForm (fun _ _ => rfl) text
  | qualifiedImport => simp [form?] at windowed
  | fromImport => simp [form?] at windowed
  | clientAttribute => simp [form?] at windowed
  | namedImport => simp [form?] at windowed

end Idiom

/-- In any text, an idiom in two parts finds just the declarations that are the nearest ones behind
some anchor and begin within its window, each of them once and in the order of their positions. -/
theorem windowed_idioms_capture_nearest {idiom : Idiom} {form : Windowed.Form}
    (windowed : idiom.form? = some form) (file : SourceFile) :
    ∃ found : List (Nat × List Char), (found.map (·.1)).Pairwise (· < ·) ∧
      (∀ p typeName, (p, typeName) ∈ found ↔ form.Captures file.content.toList p typeName) ∧
      idiom.apply file = found.map fun entry => idiom.candidate file.name entry.2 := by
  obtain ⟨found, sorted, located, names⟩ :=
    (Idiom.form?_locates windowed file.content.toList).captures
  refine ⟨found, sorted, located, ?_⟩
  rw [Idiom.apply, names, List.map_map]
  rfl

/-- Two annotations share the nearest declaration, so that of `SpareService` has none; the next
annotation is part of a longer word; and the last one has a declaration at the very end of its
window. -/
def annotatedText : List Char :=
  "@Bean @Bean\n public PayClient pay; public SpareService spare; @Beans ".toList ++
    "public OtherClient other; @Bean".toList ++ List.replicate 200 ' ' ++
    "public LateService late;".toList

def annotatedFile : SourceFile where
  path := "app/AppConfig.java"
  name := "AppConfig.java"
  language := "java"
  content := String.ofList annotatedText
  size := 324

theorem annotated_file_captures :
    ∃ found : List (Nat × List Char), (found.map (·.1)).Pairwise (· < ·) ∧
      (∀ p typeName, (p, typeName) ∈ found ↔
        Windowed.beanForm.Captures annotatedFile.content.toList p typeName) ∧
      found.map (fun entry => String.ofList entry.2) = ["PayClient", "LateService"] := by
  obtain ⟨found, sorted, located, applied⟩ :=
    windowed_idioms_capture_nearest (show Idiom.beanMethod.form? = _ from rfl) annotatedFile
  have captured : Idiom.beanMethod.captures annotatedText =
      ["PayClient".toList, "LateService".toList] := by decide +kernel
  have names : (Idiom.beanMethod.apply annotatedFile).map (·.rawName) =
      ["PayClient", "LateService"] := by
    rw [Idiom.apply, show annotatedFile.content.toList = annotatedText from String.toList_ofList,
      captured]
    rfl
  refine ⟨found, sorted, located, ?_⟩
  rw [← names, applied, List.map_map]
  rfl

end Downstream
