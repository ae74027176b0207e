import Downstream.Idiom.Basic
import Downstream.Proofs.Idiom.Cursor
import Downstream.Proofs.Idiom.Parts

/-!
Every match of an idiom covers at least one character, and no more of them than the text holds.
-/
namespace Downstream

namespace Cursor

def EndsIn (place : Cursor) (capture : Capture) : Prop :=
  ∃ last, place.LeadsTo last ∧ capture.length = last.taken

theorem LeadsTo.capture {place last : Cursor} (on : place.LeadsTo last) (typeName : List Char) :
    place.EndsIn (last.capture typeName) :=
  ⟨last, on, rfl⟩

theorem LeadsTo.endsIn {place next : Cursor} {capture : Capture} (on : place.LeadsTo next)
    (ends : next.EndsIn capture) : place.EndsIn capture := by
  obtain ⟨last, later, count⟩ := ends
  exact ⟨last, on.trans later, count⟩

theorem EndsIn.taken_le {place : Cursor} {capture : Capture} (ends : place.EndsIn capture) :
    place.taken ≤ capture.length := by
  obtain ⟨last, on, count⟩ := ends
  have := on.taken_le
  omega

theorem EndsIn.covered {cs : List Char} {capture : Capture} (ends : (start cs).EndsIn capture) :
    ∃ covered rest, cs = covered ++ rest ∧ covered.length = capture.length := by
  obtain ⟨last, ⟨passed, text, count⟩, length⟩ := ends
  refine ⟨passed, last.rest, text, ?_⟩
  simp only [start] at count
  omega

end Cursor

namespace Windowed

open Cursor

theorem memberDeclaration_endsIn {visibility : String} {suffixes : List String} {place : Cursor}
    {capture : Capture} (found : memberDeclaration visibility suffixes place = some capture) :
    place.EndsIn capture := by
  obtain ⟨gap, typeName, space, name, last, passes, _, _, _, _, _, _, rfl⟩ :=
    memberDeclaration_eq_some_iff.mp found
  exact passes.leadsTo.capture typeName

theorem remoteClass_endsIn {place : Cursor} {capture : Capture}
    (found : remoteClass place = some capture) : place.EndsIn capture := by
  obtain ⟨typeName, last, passes, _, rfl⟩ := remoteClass_eq_some_iff.mp found
  exact passes.leadsTo.capture typeName

theorem firstDeclaration_endsIn {declaration : Cursor → Option Capture}
    (declares : ∀ place capture, declaration place = some capture → place.EndsIn capture)
    {window taken : Nat} {cs : List Char} {capture : Capture}
    (found : firstDeclaration declaration window taken cs = some capture) :
    (Cursor.mk taken cs).EndsIn capture := by
  induction window generalizing taken cs with
  | zero => exact declares _ _ (by simpa only [firstDeclaration] using found)
  | succ window ih =>
    cases cs with
    | nil => exact declares _ _ (by simpa only [firstDeclaration] using found)
    | cons c cs =>
      simp only [firstDeclaration] at found
      split at found
      · rename_i here
        exact declares _ _ (here.trans found)
      · have step : (Cursor.mk taken (c :: cs)).LeadsTo ⟨taken + 1, cs⟩ := ⟨[c], rfl, rfl⟩
        exact step.endsIn (ih found)

theorem matchAt_endsIn {idiom : Windowed}
    (anchors : ∀ place next, idiom.anchor place = some next →
      place.LeadsTo next ∧ place.taken < next.taken)
    (declares : ∀ place capture, idiom.declaration place = some capture → place.EndsIn capture)
    {cs : List Char} {capture : Capture} (found : idiom.matchAt cs = some capture) :
    (Cursor.start cs).EndsIn capture ∧ 0 < capture.length := by
  simp only [Windowed.matchAt, Option.bind_eq_bind, Option.bind_eq_some_iff] at found
  obtain ⟨anchored, atAnchor, declared⟩ := found
  obtain ⟨on, more⟩ := anchors _ _ atAnchor
  have ends := firstDeclaration_endsIn declares declared
  have enough : anchored.taken ≤ capture.length := ends.taken_le
  exact ⟨on.endsIn ends, by omega⟩

theorem passText_anchors {text : String} (some_text : 0 < text.length) (place next : Cursor)
    (passed : place.passText text = some next) : place.LeadsTo next ∧ place.taken < next.taken := by
  obtain ⟨on, count⟩ := passText_leadsTo passed
  exact ⟨on, by omega⟩

theorem wholeAnnotation_anchors {mark : String} (some_mark : 0 < mark.length) (place next : Cursor)
    (passed : wholeAnnotation mark place = some next) :
    place.LeadsTo next ∧ place.taken < next.taken := by
  obtain ⟨passes, _⟩ := wholeAnnotation_eq_some_iff.mp passed
  exact passText_anchors some_mark place next (passText_eq_some_iff.mpr passes)

theorem newBuilder_anchors (place next : Cursor) (passed : newBuilder place = some next) :
    place.LeadsTo next ∧ place.taken < next.taken := by
  obtain ⟨mark, passes, gap, rfl, _⟩ := newBuilder_eq_some_iff.mp passed
  refine ⟨passes.leadsTo, ?_⟩
  rw [passes.2, List.append_assoc, List.length_append]
  have : "new".toList.length = 3 := rfl
  omega

end Windowed

namespace Statement

open Cursor

theorem endsIn_of_opening {text : String} (some_text : 0 < text.length) {cs : List Char}
    {opened : Cursor} {capture : Capture} (opening : (start cs).passText text = some opened)
    (ends : opened.EndsIn capture) : (start cs).EndsIn capture ∧ 0 < capture.length := by
  obtain ⟨on, count⟩ := passText_leadsTo opening
  have := ends.taken_le
  exact ⟨on.endsIn ends, by omega⟩

theorem qualifiedImport_endsIn {cs : List Char} {capture : Capture}
    (found : qualifiedImport cs = some capture) :
    (start cs).EndsIn capture ∧ 0 < capture.length := by
  simp only [qualifiedImport, Option.bind_eq_bind, Option.bind_eq_some_iff] at found
  obtain ⟨opened, opening, gap, atGap, ⟨dotted, named⟩, atName, typeName, _, checked⟩ := found
  split at checked
  · obtain ⟨last, atEnd, done⟩ := Option.bind_eq_some_iff.mp checked
    have toName := (passSomeBlanks_leadsTo atGap).trans (readRun_leadsTo atName)
    have toEnd := (passBlanks_leadsTo named).trans (passText_leadsTo atEnd).1
    rw [← Option.some.inj done]
    exact endsIn_of_opening (by decide) opening ((toName.trans toEnd).capture typeName)
  · simp at checked

theorem fromImport_endsIn {cs : List Char} {capture : Capture}
    (found : fromImport cs = some capture) :
    (start cs).EndsIn capture ∧ 0 < capture.length := by
  simp only [fromImport, Option.bind_eq_bind, Option.bind_eq_some_iff] at found
  obtain ⟨opened, opening, gap, atGap, ⟨_, named⟩, atName, space, atSpace, word, atWord, next,
    atNext, ⟨typeName, last⟩, atType, done⟩ := found
  have toSpace := ((passSomeBlanks_leadsTo atGap).trans (readRun_leadsTo atName)).trans
    (passSomeBlanks_leadsTo atSpace)
  have toType := ((passText_leadsTo atWord).1.trans (passSomeBlanks_leadsTo atNext)).trans
    (readSuffixed_leadsTo atType)
  rw [← Option.some.inj done]
  exact endsIn_of_opening (by decide) opening ((toSpace.trans toType).capture typeName)

theorem clientAttribute_endsIn {cs : List Char} {capture : Capture}
    (found : clientAttribute cs = some capture) :
    (start cs).EndsIn capture ∧ 0 < capture.length := by
  simp only [clientAttribute, Option.bind_eq_bind, Option.bind_eq_some_iff] at found
  obtain ⟨opened, opening, ⟨_, named⟩, atName, sign, atSign, ⟨typeName, typed⟩, atType, last,
    atEnd, done⟩ := found
  have toSign := ((readWord_leadsTo atName).trans (passBlanks_leadsTo named)).trans
    (passText_leadsTo atSign).1
  have toEnd := ((passBlanks_leadsTo sign).trans (readSuffixed_leadsTo atType)).trans
    (passText_leadsTo atEnd).1
  rw [← Option.some.inj done]
  exact endsIn_of_opening (by decide) opening ((toSign.trans toEnd).capture typeName)

theorem passOptional_leadsTo (mark : String) (place : Cursor) :
    place.LeadsTo (passOptional mark place) := by
  cases passed : place.passText mark with
  | none => simpa [passOptional, passed] using leadsTo_refl place
  | some next => simpa [passOptional, passed] using (passText_leadsTo passed).1

theorem namedImport_endsIn {cs : List Char} {capture : Capture}
    (found : namedImport cs = some capture) :
    (start cs).EndsIn capture ∧ 0 < capture.length := by
  simp only [namedImport, Option.bind_eq_bind, Option.bind_eq_some_iff] at found
  obtain ⟨opened, opening, gap, atGap, ⟨typeName, typed⟩, atType, ended⟩ := found
  have toBrace := (passSomeBlanks_leadsTo atGap).trans (passOptional_leadsTo "\x7b" gap)
  have toType := (toBrace.trans (passBlanks_leadsTo _)).trans (readSuffixed_leadsTo atType)
  have finish : ∀ closed, typed.LeadsTo closed →
      ((closed.passText "from").bind fun place =>
        if place.atWordEnd then some (place.capture typeName) else none) = some capture →
      (start cs).EndsIn capture ∧ 0 < capture.length := by
    intro closed toClose rest
    obtain ⟨last, atEnd, checked⟩ := Option.bind_eq_some_iff.mp rest
    split at checked
    · have toEnd := toClose.trans (passText_leadsTo atEnd).1
      rw [← Option.some.inj checked]
      exact endsIn_of_opening (by decide) opening ((toType.trans toEnd).capture typeName)
    · simp at checked
  -- The closing brace is there or not; either way the match goes on behind the type.
  split at ended
  · rename_i brace atBrace
    obtain ⟨closed, atClose, rest⟩ := Option.bind_eq_some_iff.mp ended
    have toBehind := (passBlanks_leadsTo typed).trans (passText_leadsTo atBrace).1
    exact finish closed (toBehind.trans (passSomeBlanks_leadsTo atClose)) rest
  · obtain ⟨closed, atClose, rest⟩ := Option.bind_eq_some_iff.mp ended
    exact finish closed (passSomeBlanks_leadsTo atClose) rest

end Statement

namespace Idiom

theorem matchAt_endsIn {idiom : Idiom} {before : Option Char} {cs : List Char} {capture : Capture}
    (found : idiom.matchAt before cs = some capture) :
    (Cursor.start cs).EndsIn capture ∧ 0 < capture.length := by
  have atWordStart : ∀ {statement : List Char → Option Capture},
      (if before.any Text.isWord then none else statement cs) = some capture →
        statement cs = some capture := by
    intro statement guarded
    split at guarded
    · simp at guarded
    · exact guarded
  cases idiom with
  | providerMethod =>
    exact Windowed.matchAt_endsIn (Windowed.passText_anchors (by decide))
      (fun _ _ => Windowed.memberDeclaration_endsIn) found
  | builderCall =>
    exact Windowed.matchAt_endsIn Windowed.newBuilder_anchors
      (fun _ _ => Windowed.remoteClass_endsIn) found
  | beanMethod =>
    exact Windowed.matchAt_endsIn (Windowed.wholeAnnotation_anchors (by decide))
      (fun _ _ => Windowed.memberDeclaration_endsIn) found
  | injectedField =>
    exact Windowed.matchAt_endsIn (Windowed.wholeAnnotation_anchors (by decide))
      (fun _ _ => Windowed.memberDeclaration_endsIn) found
  | qualifiedImport => exact Statement.qualifiedImport_endsIn (atWordStart found)
  | fromImport => exact Statement.fromImport_endsIn (atWordStart found)
  | clientAttribute => exact Statement.clientAttribute_endsIn (atWordStart found)
  | namedImport => exact Statement.namedImport_endsIn (atWordStart found)

theorem matchAt_covers {idiom : Idiom} {before : Option Char} {cs : List Char} {capture : Capture}
    (found : idiom.matchAt before cs = some capture) :
    ∃ covered rest, cs = covered ++ rest ∧ covered.length = capture.length ∧ covered ≠ [] := by
  obtain ⟨ends, positive⟩ := matchAt_endsIn found
  obtain ⟨covered, rest, text, length⟩ := ends.covered
  refine ⟨covered, rest, text, length, ?_⟩
  rintro rfl
  simp only [List.length_nil] at length
  omega

end Idiom

end Downstream
