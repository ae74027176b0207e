import Downstream.Proofs.Idiom.Located
import Downstream.Proofs.Idiom.Steps

/-!
What idioms in two parts capture: every declaration that is the nearest one behind some anchor and
begins within the window. A match hides the anchors that begin inside it; but none of them begins
inside the declaration, and those in front of it share the declaration, so nothing is lost.
-/
namespace Downstream.Windowed

/-- What an idiom in two parts looks for, said without a search: the texts that anchor it, each with
what may stand behind it, the width of the window, and the texts that begin by declaring a type. -/
structure Form where
  anchor : (mark rest : List Char) → Prop
  window : Nat
  declares : (typeName text : List Char) → Prop

namespace Form

variable (form : Form) (text : List Char)

def DeclaresAt (p : Nat) (typeName : List Char) : Prop :=
  form.declares typeName (text.drop p)

def AnchorAt (start stop : Nat) : Prop :=
  ∃ mark rest, text.drop start = mark ++ rest ∧ stop = start + mark.length ∧ form.anchor mark rest

def NearestAt (stop p : Nat) (typeName : List Char) : Prop :=
  form.DeclaresAt text p typeName ∧ stop ≤ p ∧
    ∀ q other, stop ≤ q → q < p → ¬ form.DeclaresAt text q other

/-- The declaration at a position is the nearest one behind an anchor that begins at `i` or later,
and begins within its window. -/
def CapturesFrom (i p : Nat) (typeName : List Char) : Prop :=
  ∃ start stop, i ≤ start ∧ form.AnchorAt text start stop ∧ form.NearestAt text stop p typeName ∧
    p ≤ stop + form.window

def Captures (p : Nat) (typeName : List Char) : Prop :=
  form.CapturesFrom text 0 p typeName

/-- No anchor reaches over the end of another one that begins earlier, and none over the beginning
of a declaration. -/
structure Apart : Prop where
  ends : ∃ z, ∀ mark rest, form.anchor mark rest → ∃ front, mark = front ++ [z] ∧ z ∉ front
  opens : ∃ f, (∀ typeName cs, form.declares typeName cs → cs.head? = some f) ∧
    ∀ mark rest, form.anchor mark rest → f ∉ mark

variable {form : Form} {text : List Char} {i j stop stop' p q : Nat} {typeName other : List Char}

theorem AnchorAt.start_lt_stop (apart : form.Apart) (anchored : form.AnchorAt text i stop) :
    i < stop := by
  obtain ⟨mark, rest, _, rfl, isAnchor⟩ := anchored
  obtain ⟨z, ends⟩ := apart.ends
  obtain ⟨front, rfl, _⟩ := ends mark rest isAnchor
  rw [List.length_append, List.length_singleton]
  omega

theorem AnchorAt.stop_le_stop (apart : form.Apart) (early : form.AnchorAt text i stop)
    (late : form.AnchorAt text j stop') (inOrder : i ≤ j) : stop ≤ stop' := by
  obtain ⟨mark, rest, here, rfl, isAnchor⟩ := early
  obtain ⟨mark', rest', there, rfl, isAnchor'⟩ := late
  obtain ⟨z, ends⟩ := apart.ends
  obtain ⟨front, rfl, fresh⟩ := ends mark rest isAnchor
  obtain ⟨front', rfl, _⟩ := ends mark' rest' isAnchor'
  simp only [List.length_append, List.length_singleton]
  refine Nat.le_of_not_lt fun inside => fresh ?_
  -- The last character of the later anchor stands inside the earlier one.
  have last : text[j + front'.length]? = some z := by
    rw [← List.getElem?_drop, there]
    simp
  have index : j + front'.length = i + (j + front'.length - i) := by omega
  have short : j + front'.length - i < front.length := by omega
  rw [index, ← List.getElem?_drop, here, List.append_assoc, List.getElem?_append_left short] at last
  exact List.mem_of_getElem? last

theorem AnchorAt.stop_le_of_declaresAt (apart : form.Apart) (anchored : form.AnchorAt text i stop)
    (declared : form.DeclaresAt text p typeName) (before : i ≤ p) : stop ≤ p := by
  obtain ⟨mark, rest, here, rfl, isAnchor⟩ := anchored
  obtain ⟨f, first, fresh⟩ := apart.opens
  refine Nat.le_of_not_lt fun inside => fresh mark rest isAnchor ?_
  have opening : text[p]? = some f := by
    rw [← List.head?_drop]
    exact first typeName (text.drop p) declared
  have index : p = i + (p - i) := by omega
  rw [index, ← List.getElem?_drop, here, List.getElem?_append_left (by omega)] at opening
  exact List.mem_of_getElem? opening

theorem NearestAt.position_eq (nearest : form.NearestAt text stop p typeName)
    (nearest' : form.NearestAt text stop q other) : p = q := by
  obtain ⟨declared, behind, free⟩ := nearest
  obtain ⟨declared', behind', free'⟩ := nearest'
  rcases Nat.lt_trichotomy p q with less | same | greater
  · exact absurd declared (free' p typeName behind less)
  · exact same
  · exact absurd declared' (free q other behind' greater)

theorem NearestAt.of_later (nearest : form.NearestAt text stop p typeName) (later : stop ≤ stop')
    (before : stop' ≤ p) : form.NearestAt text stop' p typeName := by
  obtain ⟨declared, _, free⟩ := nearest
  exact ⟨declared, before, fun q other behind => free q other (Nat.le_trans later behind)⟩

theorem CapturesFrom.of_later (captured : form.CapturesFrom text j p typeName) (later : i ≤ j) :
    form.CapturesFrom text i p typeName := by
  obtain ⟨start, stop, from_, rest⟩ := captured
  exact ⟨start, stop, Nat.le_trans later from_, rest⟩

end Form

/-- An idiom searches for what its form says: its anchors are those texts, its declarations are
those texts, and no anchor begins inside what a declaration covers. -/
structure Realizes (idiom : Windowed) (form : Form) : Prop where
  window_eq : idiom.window = form.window
  anchor_iff : ∀ place next, idiom.anchor place = some next ↔
    ∃ mark, place.Passes mark next ∧ form.anchor mark next.rest
  declares_iff : ∀ place typeName, form.declares typeName place.rest ↔
    ∃ capture, idiom.declaration place = some capture ∧ capture.typeName = typeName
  covers : ∀ place capture, idiom.declaration place = some capture →
    ∃ covered last, place.Passes covered last ∧ capture.length = last.taken ∧
      ∀ k < covered.length, ∀ mark rest, place.rest.drop k = mark ++ rest → ¬ form.anchor mark rest

theorem firstDeclaration_eq_none {declaration : Cursor → Option Capture} {window taken : Nat}
    {cs : List Char} (missed : firstDeclaration declaration window taken cs = none) :
    ∀ k ≤ window, k ≤ cs.length → declaration ⟨taken + k, cs.drop k⟩ = none := by
  induction window generalizing taken cs with
  | zero =>
    intro k inWindow _
    obtain rfl : k = 0 := by omega
    rwa [firstDeclaration] at missed
  | succ window ih =>
    cases cs with
    | nil =>
      intro k _ inText
      obtain rfl : k = 0 := by simpa using inText
      simp only [firstDeclaration] at missed
      exact missed
    | cons c cs =>
      simp only [firstDeclaration] at missed
      split at missed
      · simp at missed
      · rename_i here
        intro k inWindow inText
        cases k with
        | zero => exact here
        | succ k =>
          have later := ih missed k (by omega) (by simpa using inText)
          rwa [Nat.add_right_comm] at later

theorem firstDeclaration_eq_some {declaration : Cursor → Option Capture} {window taken : Nat}
    {cs : List Char} {capture : Capture}
    (found : firstDeclaration declaration window taken cs = some capture) :
    ∃ k ≤ window, k ≤ cs.length ∧ declaration ⟨taken + k, cs.drop k⟩ = some capture ∧
      ∀ j < k, declaration ⟨taken + j, cs.drop j⟩ = none := by
  induction window generalizing taken cs with
  | zero =>
    refine ⟨0, Nat.le_refl 0, Nat.zero_le _, ?_, by simp⟩
    rwa [firstDeclaration] at found
  | succ window ih =>
    cases cs with
    | nil =>
      refine ⟨0, Nat.zero_le _, Nat.zero_le _, ?_, by simp⟩
      simp only [firstDeclaration] at found
      exact found
    | cons c cs =>
      simp only [firstDeclaration] at found
      split at found
      · rename_i here
        exact ⟨0, Nat.zero_le _, Nat.zero_le _, here.trans found, by simp⟩
      · rename_i here
        obtain ⟨k, inWindow, inText, there, before⟩ := ih found
        refine ⟨k + 1, by omega, by simpa using inText, ?_, ?_⟩
        · rwa [Nat.add_right_comm] at there
        · intro j less
          cases j with
          | zero => exact here
          | succ j =>
            have none_there := before j (by omega)
            rwa [Nat.add_right_comm] at none_there

namespace Realizes

variable {idiom : Windowed} {form : Form} {text : List Char} {i p : Nat}

theorem declares_unique (realizes : idiom.Realizes form) {cs typeName other : List Char}
    (declares : form.declares typeName cs) (declares' : form.declares other cs) :
    typeName = other := by
  obtain ⟨capture, found, rfl⟩ := (realizes.declares_iff (.start cs) typeName).mp declares
  obtain ⟨capture', found', rfl⟩ := (realizes.declares_iff (.start cs) other).mp declares'
  rw [Option.some.inj (found.symm.trans found')]

theorem not_declares_of_none (realizes : idiom.Realizes form) {place : Cursor}
    (none_here : idiom.declaration place = none) (typeName : List Char) :
    ¬ form.declares typeName place.rest := by
  intro declares
  obtain ⟨capture, found, _⟩ := (realizes.declares_iff place typeName).mp declares
  rw [none_here] at found
  simp at found

theorem declares_nonempty (apart : form.Apart) {cs typeName : List Char}
    (declares : form.declares typeName cs) : cs ≠ [] := by
  obtain ⟨f, first, _⟩ := apart.opens
  rintro rfl
  simpa using first typeName [] declares

theorem matchAt_eq_none (realizes : idiom.Realizes form) (apart : form.Apart)
    (missed : idiom.matchAt (text.drop i) = none) {stop : Nat}
    (anchored : form.AnchorAt text i stop) {typeName : List Char}
    (nearest : form.NearestAt text stop p typeName) : stop + form.window < p := by
  obtain ⟨mark, rest, here, rfl, isAnchor⟩ := anchored
  obtain ⟨declared, behind, _⟩ := nearest
  have passed : idiom.anchor (.start (text.drop i)) =
      some ((Cursor.start (text.drop i)).skip mark rest) :=
    (realizes.anchor_iff _ _).mpr ⟨mark, Cursor.passes_skip here, isAnchor⟩
  rw [matchAt, passed] at missed
  have free := firstDeclaration_eq_none missed
  have window := realizes.window_eq
  refine Nat.lt_of_not_le fun inWindow => ?_
  have isRest : text.drop (i + mark.length) = rest := by
    rw [← List.drop_drop, here, List.drop_left]
  have isThere : rest.drop (p - (i + mark.length)) = text.drop p := by
    rw [← isRest, List.drop_drop]
    congr 1
    omega
  have inText : p - (i + mark.length) ≤ rest.length := by
    refine Nat.le_of_not_lt fun beyond => declares_nonempty apart declared ?_
    rw [← isThere]
    exact List.drop_eq_nil_of_le (by omega)
  have none_there := free (p - (i + mark.length)) (by omega) inText
  refine realizes.not_declares_of_none none_there typeName ?_
  show form.declares typeName (rest.drop (p - (i + mark.length)))
  rwa [isThere]

/-- Where a search succeeds, an anchor begins, and the match ends with its nearest declaration,
inside of which no anchor begins. -/
theorem matchAt_eq_some (realizes : idiom.Realizes form) {capture : Capture}
    (found : idiom.matchAt (text.drop i) = some capture) :
    ∃ stop p, form.AnchorAt text i stop ∧ form.NearestAt text stop p capture.typeName ∧
      p ≤ stop + form.window ∧ p ≤ i + capture.length ∧
      ∀ j stop', p ≤ j → j < i + capture.length → ¬ form.AnchorAt text j stop' := by
  obtain ⟨anchored, passed, first⟩ := Option.bind_eq_some_iff.mp found
  obtain ⟨mark, ⟨here, count⟩, isAnchor⟩ := (realizes.anchor_iff _ _).mp passed
  obtain ⟨k, inWindow, _, declared, before⟩ := firstDeclaration_eq_some first
  have isThere : ∀ n, anchored.rest.drop n = text.drop (i + mark.length + n) := by
    intro n
    have whole : text.drop i = mark ++ anchored.rest := here
    rw [← List.drop_drop, ← List.drop_drop, whole, List.drop_left]
  have window := realizes.window_eq
  obtain ⟨covered, last, ⟨_, length⟩, isLength, free⟩ := realizes.covers _ _ declared
  have counted : anchored.taken = mark.length := by simpa [Cursor.start] using count
  have ended : capture.length = mark.length + k + covered.length := by
    rw [isLength, length, counted]
  refine ⟨i + mark.length, i + mark.length + k, ⟨mark, anchored.rest, here, rfl, isAnchor⟩,
    ⟨?_, by omega, ?_⟩, by omega, by omega, ?_⟩
  · rw [Form.DeclaresAt, ← isThere]
    exact (realizes.declares_iff ⟨anchored.taken + k, anchored.rest.drop k⟩ _).mpr
      ⟨capture, declared, rfl⟩
  · intro q other behind less
    rw [Form.DeclaresAt, show q = i + mark.length + (q - (i + mark.length)) by omega, ← isThere]
    exact realizes.not_declares_of_none (before _ (by omega)) other
  · rintro j stop' behind less ⟨mark', rest', there, _, isAnchor'⟩
    refine free (j - (i + mark.length + k)) (by omega) mark' rest' ?_ isAnchor'
    show (anchored.rest.drop k).drop (j - (i + mark.length + k)) = mark' ++ rest'
    rw [List.drop_drop, isThere, ← there]
    congr 1
    omega

/-- An anchor that a match hides has no other declaration than the match. -/
theorem hidden_nearest (apart : form.Apart) {stop p j stop' q n : Nat}
    {typeName other : List Char} (anchored : form.AnchorAt text i stop)
    (nearest : form.NearestAt text stop p typeName)
    (free : ∀ j stop', p ≤ j → j < n → ¬ form.AnchorAt text j stop')
    (hidden : form.AnchorAt text j stop') (from_ : i ≤ j) (inside : j < n)
    (nearest' : form.NearestAt text stop' q other) : q = p := by
  have before : j < p := Nat.lt_of_not_le fun behind => free j stop' behind inside hidden
  have inOrder : stop ≤ stop' := anchored.stop_le_stop apart hidden from_
  have stops : stop' ≤ p := hidden.stop_le_of_declaresAt apart nearest.1 (Nat.le_of_lt before)
  exact nearest'.position_eq (nearest.of_later inOrder stops)

theorem locates {kind : Idiom} (realizes : idiom.Realizes form) (apart : form.Apart)
    (matches_ : ∀ before cs, kind.matchAt before cs = idiom.matchAt cs) (text : List Char) :
    kind.Locates text (form.CapturesFrom text) where
  ended := by
    rintro p typeName ⟨start, stop, from_, anchored, _⟩
    have some_mark := anchored.start_lt_stop apart
    obtain ⟨mark, rest, here, rfl, _⟩ := anchored
    rw [List.drop_eq_nil_of_le from_] at here
    obtain ⟨rfl, _⟩ := List.append_eq_nil_iff.mp here.symm
    simp at some_mark
  pass := by
    intro i _ missed p typeName
    rw [matches_] at missed
    constructor
    · rintro ⟨start, stop, from_, anchored, nearest, inWindow⟩
      refine ⟨start, stop, Nat.lt_of_le_of_ne from_ ?_, anchored, nearest, inWindow⟩
      rintro rfl
      have tooFar := realizes.matchAt_eq_none apart missed anchored nearest
      omega
    · intro captured
      exact captured.of_later (Nat.le_succ i)
  take := by
    intro i _ capture found
    rw [matches_] at found
    obtain ⟨stop, first, anchored, nearest, inWindow, behind, free⟩ :=
      realizes.matchAt_eq_some found
    refine ⟨first, fun p typeName => ⟨?_, ?_⟩, ?_⟩
    · rintro ⟨start, stop', from_, anchored', nearest', inWindow'⟩
      -- An anchor that the match covers has the match's own declaration; others are still ahead.
      rcases Nat.lt_or_ge start (i + capture.length) with inside | later
      · have same := hidden_nearest apart anchored nearest free anchored' from_ inside nearest'
        refine .inl ⟨same, ?_⟩
        have declared := nearest'.1
        rw [same] at declared
        exact realizes.declares_unique declared nearest.1
      · exact .inr ⟨start, stop', later, anchored', nearest', inWindow'⟩
    · rintro (⟨rfl, rfl⟩ | later)
      · exact ⟨i, stop, Nat.le_refl i, anchored, nearest, inWindow⟩
      · exact later.of_later (Nat.le_add_right i capture.length)
    · rintro p typeName ⟨start, stop', from_, anchored', ⟨_, reached, _⟩, _⟩
      have := anchored'.start_lt_stop apart
      omega

end Realizes

end Downstream.Windowed
