import Downstream.Idiom.Windowed
import Downstream.Proofs.Idiom.Steps

/-!
The texts of the parts of idioms in two parts: annotations and builder expressions in front, members
and calls behind. Words and white space take turns in them, so each run is the longest one at its
place, and the texts are found wherever they stand.
-/
namespace Downstream.Windowed

open Text

variable {visibility : String} {suffixes : List String} {place next : Cursor} {capture : Capture}

theorem wholeAnnotation_eq_some_iff {mark : String} :
    wholeAnnotation mark place = some next ↔
      place.Passes mark.toList next ∧ Stops isWord next.rest := by
  rw [← Cursor.passText_eq_some_iff, ← Cursor.atWordEnd_iff]
  unfold wholeAnnotation
  simp only [Option.bind_eq_bind, Option.bind_eq_some_iff]
  constructor
  · rintro ⟨behind, passed, whole⟩
    split at whole
    · rename_i stops
      obtain rfl := Option.some.inj whole
      exact ⟨passed, stops⟩
    · simp at whole
  · rintro ⟨passed, stops⟩
    exact ⟨next, passed, if_pos stops⟩

def NewBuilder (text : List Char) : Prop :=
  ∃ gap, text = "new".toList ++ gap ++ "ClientBuilder()".toList ∧ Run isBlank gap

theorem newBuilder_eq_some_iff :
    newBuilder place = some next ↔
      ∃ mark, place.Passes mark next ∧ NewBuilder mark := by
  simp only [newBuilder, Option.bind_eq_bind, Option.bind_eq_some_iff,
    Cursor.passText_eq_some_iff, Cursor.passSomeBlanks_eq_some_iff]
  constructor
  · rintro ⟨word, toWord, call, ⟨gap, toCall, isGap, _⟩, toEnd⟩
    exact ⟨_, (toWord.trans toCall).trans toEnd, gap, rfl, isGap⟩
  · rintro ⟨_, passes, gap, rfl, isGap⟩
    obtain ⟨call, passes, toEnd⟩ := passes.split
    obtain ⟨word, toWord, toCall⟩ := passes.split
    refine ⟨word, toWord, call, ⟨gap, toCall, isGap, ?_⟩, toEnd⟩
    rw [toEnd.1]
    exact stops_cons.mpr (by decide)

/-- The text begins with a visibility, a type with one of the suffixes and a name, white space
between them. -/
def DeclaresMember (visibility : String) (suffixes : List String) (typeName text : List Char) :
    Prop :=
  ∃ gap space c rest, text = visibility.toList ++ gap ++ typeName ++ space ++ c :: rest ∧
    Run isBlank gap ∧ Run isWord typeName ∧ Cursor.Suffixed suffixes typeName ∧
    Run isBlank space ∧ isWord c = true

theorem memberDeclaration_eq_some_iff :
    memberDeclaration visibility suffixes place = some capture ↔
      ∃ gap typeName space name last,
        place.Passes (visibility.toList ++ gap ++ typeName ++ space ++ name) last ∧
        Run isBlank gap ∧ Run isWord typeName ∧ Cursor.Suffixed suffixes typeName ∧
        Run isBlank space ∧ Run isWord name ∧ Stops isWord last.rest ∧
        last.capture typeName = capture := by
  simp only [memberDeclaration, Option.bind_eq_bind, Option.bind_eq_some_iff,
    Cursor.passText_eq_some_iff, Cursor.passSomeBlanks_eq_some_iff, Prod.exists,
    Cursor.readSuffixed_eq_some_iff, Cursor.readWord_eq_some_iff]
  constructor
  · rintro ⟨opened, toGap, typed, ⟨gap, toType, isGap, _⟩, typeName, behind,
      ⟨toSpace, isType, _, ends⟩, named, ⟨space, toName, isSpace, _⟩, name, last,
      ⟨toLast, isName, stops⟩, done⟩
    exact ⟨gap, typeName, space, name, last,
      (((toGap.trans toType).trans toSpace).trans toName).trans toLast, isGap, isType, ends,
      isSpace, isName, stops, Option.some.inj done⟩
  · rintro ⟨gap, typeName, space, name, last, passes, isGap, isType, ends, isSpace, isName, stops,
      done⟩
    obtain ⟨named, passes, toLast⟩ := passes.split
    obtain ⟨typed, passes, toName⟩ := passes.split
    obtain ⟨behind, passes, toSpace⟩ := passes.split
    obtain ⟨opened, toGap, toType⟩ := passes.split
    -- Words and white space take turns, so each of the runs is the longest one at its place.
    have gapStops := toSpace.stops isType isBlank_eq_false_of_isWord
    have typeStops := toName.stops isSpace isWord_eq_false_of_isBlank
    have spaceStops := toLast.stops isName isBlank_eq_false_of_isWord
    exact ⟨opened, toGap, behind, ⟨gap, toType, isGap, gapStops⟩, typeName, typed,
      ⟨toSpace, isType, typeStops, ends⟩, named, ⟨space, toName, isSpace, spaceStops⟩, name, last,
      ⟨toLast, isName, stops⟩, congrArg some done⟩

theorem declaresMember_iff {typeName : List Char} :
    DeclaresMember visibility suffixes typeName place.rest ↔
      ∃ capture, memberDeclaration visibility suffixes place = some capture ∧
        capture.typeName = typeName := by
  constructor
  · rintro ⟨gap, space, c, rest, text, isGap, isType, ends, isSpace, word⟩
    let name := c :: rest.takeWhile isWord
    let last := place.skip (visibility.toList ++ gap ++ typeName ++ space ++ name)
      (rest.dropWhile isWord)
    have isName : Run isWord name := by
      refine ⟨List.cons_ne_nil _ _, fun d member => ?_⟩
      rcases List.mem_cons.mp member with rfl | later
      · exact word
      · exact List.mem_takeWhile_imp later
    have passes : place.Passes (visibility.toList ++ gap ++ typeName ++ space ++ name) last := by
      refine Cursor.passes_skip ?_
      rw [text, List.append_assoc _ name, List.cons_append, List.takeWhile_append_dropWhile]
    exact ⟨last.capture typeName, memberDeclaration_eq_some_iff.mpr ⟨gap, typeName, space, name,
      last, passes, isGap, isType, ends, isSpace, isName, stops_dropWhile isWord rest, rfl⟩, rfl⟩
  · rintro ⟨capture, found, rfl⟩
    obtain ⟨gap, typeName, space, name, last, ⟨text, _⟩, isGap, isType, ends, isSpace,
      ⟨some_name, allWord⟩, _, rfl⟩ := memberDeclaration_eq_some_iff.mp found
    obtain ⟨c, others, rfl⟩ := List.exists_cons_of_ne_nil some_name
    refine ⟨gap, space, c, others ++ last.rest, ?_, isGap, isType, ends, isSpace,
      allWord c List.mem_cons_self⟩
    rw [text, List.append_assoc _ (c :: others), List.cons_append]
    rfl

def DeclaresRemote (typeName text : List Char) : Prop :=
  ∃ rest, text = ".remoteOf(".toList ++ typeName ++ ".class)".toList ++ rest ∧ Run isWord typeName

theorem remoteClass_eq_some_iff :
    remoteClass place = some capture ↔
      ∃ typeName last, place.Passes (".remoteOf(".toList ++ typeName ++ ".class)".toList) last ∧
        Run isWord typeName ∧ last.capture typeName = capture := by
  simp only [remoteClass, Option.bind_eq_bind, Option.bind_eq_some_iff,
    Cursor.passText_eq_some_iff, Prod.exists, Cursor.readWord_eq_some_iff]
  constructor
  · rintro ⟨opened, toOpen, typeName, behind, ⟨toType, isType, _⟩, last, toEnd, done⟩
    exact ⟨typeName, last, (toOpen.trans toType).trans toEnd, isType, Option.some.inj done⟩
  · rintro ⟨typeName, last, passes, isType, done⟩
    obtain ⟨behind, passes, toEnd⟩ := passes.split
    obtain ⟨opened, toOpen, toType⟩ := passes.split
    refine ⟨opened, toOpen, typeName, behind, ⟨toType, isType, ?_⟩, last, toEnd,
      congrArg some done⟩
    rw [toEnd.1]
    exact stops_cons.mpr (by decide)

theorem declaresRemote_iff {typeName : List Char} :
    DeclaresRemote typeName place.rest ↔
      ∃ capture, remoteClass place = some capture ∧ capture.typeName = typeName := by
  constructor
  · rintro ⟨rest, text, isType⟩
    exact ⟨_, remoteClass_eq_some_iff.mpr ⟨typeName, _, Cursor.passes_skip text, isType, rfl⟩, rfl⟩
  · rintro ⟨capture, found, rfl⟩
    obtain ⟨typeName, last, ⟨text, _⟩, isType, rfl⟩ := remoteClass_eq_some_iff.mp found
    exact ⟨last.rest, text, isType⟩

end Downstream.Windowed
