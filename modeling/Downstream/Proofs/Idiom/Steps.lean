import Downstream.Idiom.Cursor
import Downstream.Proofs.Text.Runs

/-!
Which text a step of a match passes: just the given text, or a run of a class that stops where the
step ends. Every such text is passed, so a match can be read off the text and the other way round.
-/
namespace Downstream

open Text

namespace Cursor

def Passes (place : Cursor) (passed : List Char) (next : Cursor) : Prop :=
  place.rest = passed ++ next.rest ∧ next.taken = place.taken + passed.length

variable {place next last : Cursor} {p : Char → Bool}

def skip (place : Cursor) (passed rest : List Char) : Cursor :=
  ⟨place.taken + passed.length, rest⟩

theorem passes_skip {passed rest : List Char} (text : place.rest = passed ++ rest) :
    place.Passes passed (place.skip passed rest) :=
  ⟨text, rfl⟩

theorem passes_nil_iff : place.Passes [] next ↔ next = place := by
  constructor
  · rintro ⟨text, count⟩
    cases place
    cases next
    simp_all
  · rintro rfl
    exact ⟨rfl, rfl⟩

theorem Passes.trans {front back : List Char} (early : place.Passes front next)
    (late : next.Passes back last) : place.Passes (front ++ back) last := by
  obtain ⟨frontText, frontCount⟩ := early
  obtain ⟨backText, backCount⟩ := late
  constructor
  · rw [frontText, backText, List.append_assoc]
  · rw [backCount, frontCount, List.length_append, Nat.add_assoc]

theorem Passes.split {front back : List Char} (passes : place.Passes (front ++ back) last) :
    ∃ middle, place.Passes front middle ∧ middle.Passes back last := by
  obtain ⟨text, count⟩ := passes
  refine ⟨place.skip front (back ++ last.rest), ⟨?_, rfl⟩, rfl, ?_⟩
  · rw [text, List.append_assoc]
    rfl
  · rw [count, List.length_append, ← Nat.add_assoc]
    rfl

theorem Passes.stops {q : Char → Bool} {run : List Char} (passes : place.Passes run next)
    (isRun : Run p run) (apart : ∀ c, p c = true → q c = false) : Stops q place.rest := by
  rw [passes.1]
  exact isRun.stops apart next.rest

theorem behind?_eq_some {front cs rest : List Char} (found : behind? front cs = some rest) :
    cs = front ++ rest := by
  induction front generalizing cs with
  | nil => simpa [behind?] using found
  | cons f front ih =>
    cases cs with
    | nil => simp [behind?] at found
    | cons c cs =>
      simp only [behind?] at found
      split at found
      · rename_i same
        rw [ih found, same, List.cons_append]
      · simp at found

theorem behind?_append (front rest : List Char) : behind? front (front ++ rest) = some rest := by
  induction front with
  | nil => rfl
  | cons f front ih => simpa [behind?] using ih

theorem passText_eq_some_iff {text : String} :
    place.passText text = some next ↔ place.Passes text.toList next := by
  constructor
  · intro passed
    obtain ⟨rest, found, rfl⟩ := Option.map_eq_some_iff.mp passed
    exact ⟨behind?_eq_some found, rfl⟩
  · rintro ⟨front, count⟩
    rw [passText, front, behind?_append, Option.map_some, ← String.length_toList, ← count]

theorem passRun_passes (p : Char → Bool) (place : Cursor) :
    place.Passes (place.rest.takeWhile p) (place.passRun p) ∧ Stops p (place.passRun p).rest := by
  have behind : (place.passRun p).rest = place.rest.dropWhile p :=
    drop_length_takeWhile p place.rest
  refine ⟨⟨?_, rfl⟩, ?_⟩
  · rw [behind, List.takeWhile_append_dropWhile]
  · rw [behind]
    exact stops_dropWhile p place.rest

theorem passRun_of_passes {run : List Char} (passes : place.Passes run next)
    (all : ∀ c ∈ run, p c = true) (stops : Stops p next.rest) :
    place.rest.takeWhile p = run ∧ place.passRun p = next := by
  have taken : place.rest.takeWhile p = run := by
    rw [passes.1, takeWhile_append_of_stops all stops]
  refine ⟨taken, ?_⟩
  rw [passRun, taken, passes.1, List.drop_left, ← passes.2]

theorem passRun_eq_iff :
    place.passRun p = next ↔
      ∃ run, place.Passes run next ∧ (∀ c ∈ run, p c = true) ∧ Stops p next.rest := by
  constructor
  · rintro rfl
    obtain ⟨passes, stops⟩ := passRun_passes p place
    exact ⟨_, passes, fun c member => List.mem_takeWhile_imp member, stops⟩
  · rintro ⟨run, passes, all, stops⟩
    exact (passRun_of_passes passes all stops).2

theorem readRun_eq_some_iff {run : List Char} :
    place.readRun p = some (run, next) ↔
      place.Passes run next ∧ Run p run ∧ Stops p next.rest := by
  have unfolded : place.readRun p = if (place.rest.takeWhile p).isEmpty then none
      else some (place.rest.takeWhile p, place.passRun p) := rfl
  rw [unfolded]
  constructor
  · intro read
    split at read
    · simp at read
    · rename_i some_run
      obtain ⟨rfl, rfl⟩ := Prod.mk.inj (Option.some.inj read)
      obtain ⟨passes, stops⟩ := passRun_passes p place
      refine ⟨passes, ⟨?_, fun c member => List.mem_takeWhile_imp member⟩, stops⟩
      rwa [List.isEmpty_iff] at some_run
  · rintro ⟨passes, ⟨some_run, all⟩, stops⟩
    obtain ⟨taken, passed⟩ := passRun_of_passes passes all stops
    rw [taken, passed, if_neg (by simpa using some_run)]

theorem readWord_eq_some_iff {word : List Char} :
    place.readWord = some (word, next) ↔
      place.Passes word next ∧ Run isWord word ∧ Stops isWord next.rest :=
  readRun_eq_some_iff

theorem passSomeBlanks_eq_some_iff :
    place.passSomeBlanks = some next ↔
      ∃ gap, place.Passes gap next ∧ Run isBlank gap ∧ Stops isBlank next.rest := by
  rw [passSomeBlanks]
  constructor
  · intro passed
    split at passed
    · rename_i starts
      obtain rfl := Option.some.inj passed
      obtain ⟨passes, stops⟩ := passRun_passes isBlank place
      refine ⟨_, passes, ⟨?_, fun c member => List.mem_takeWhile_imp member⟩, stops⟩
      intro none_passed
      cases text : place.rest with
      | nil => simp [text] at starts
      | cons c cs =>
        rw [text, List.head?_cons, Option.any_some] at starts
        rw [text, List.takeWhile_cons_of_pos starts] at none_passed
        simp at none_passed
    · simp at passed
  · rintro ⟨gap, passes, ⟨some_gap, all⟩, stops⟩
    obtain ⟨first, others, rfl⟩ := List.exists_cons_of_ne_nil some_gap
    have starts : place.rest.head?.any isBlank = true := by
      rw [passes.1]
      exact all first List.mem_cons_self
    rw [if_pos starts, passBlanks, (passRun_of_passes passes all stops).2]

def Suffixed (suffixes : List String) (word : List Char) : Prop :=
  ∃ suffix ∈ suffixes, ∃ stem, stem ≠ [] ∧ word = stem ++ suffix.toList

theorem Suffixed.ne_nil {suffixes : List String} {word : List Char}
    (ends : Suffixed suffixes word) : word ≠ [] := by
  obtain ⟨_, _, stem, some_stem, rfl⟩ := ends
  simp [some_stem]

theorem Suffixed.append {suffixes : List String} {word : List Char} (front : List Char)
    (ends : Suffixed suffixes word) : Suffixed suffixes (front ++ word) := by
  obtain ⟨suffix, member, stem, some_stem, rfl⟩ := ends
  exact ⟨suffix, member, front ++ stem, by simp [some_stem], (List.append_assoc _ _ _).symm⟩

theorem hasTypeSuffix_iff {suffixes : List String} {word : List Char} :
    hasTypeSuffix suffixes word = true ↔ Suffixed suffixes word := by
  simp only [hasTypeSuffix, endsIn, List.any_eq_true, Bool.and_eq_true, List.isSuffixOf_iff_suffix,
    decide_eq_true_eq, Suffixed]
  refine exists_congr fun suffix => and_congr_right fun _ => ?_
  constructor
  · rintro ⟨⟨stem, rfl⟩, longer⟩
    refine ⟨stem, ?_, rfl⟩
    rintro rfl
    rw [List.nil_append, String.length_toList] at longer
    exact Nat.lt_irrefl _ longer
  · rintro ⟨stem, some_stem, rfl⟩
    refine ⟨⟨stem, rfl⟩, ?_⟩
    have := List.length_pos_iff.mpr some_stem
    rw [List.length_append, String.length_toList]
    omega

theorem readSuffixed_eq_some_iff {suffixes : List String} {word : List Char} :
    place.readSuffixed suffixes = some (word, next) ↔
      place.Passes word next ∧ Run isWord word ∧ Stops isWord next.rest ∧
        Suffixed suffixes word := by
  simp only [readSuffixed, Option.bind_eq_bind, Option.bind_eq_some_iff]
  constructor
  · rintro ⟨⟨read, behind⟩, isWhole, checked⟩
    split at checked
    · rename_i ends
      obtain ⟨rfl, rfl⟩ := Prod.mk.inj (Option.some.inj checked)
      obtain ⟨passes, run, stops⟩ := readWord_eq_some_iff.mp isWhole
      exact ⟨passes, run, stops, hasTypeSuffix_iff.mp ends⟩
    · simp at checked
  · rintro ⟨passes, run, stops, ends⟩
    refine ⟨(word, next), readWord_eq_some_iff.mpr ⟨passes, run, stops⟩, ?_⟩
    rw [if_pos (hasTypeSuffix_iff.mpr ends)]

theorem atWordEnd_iff : place.atWordEnd = true ↔ Stops isWord place.rest := by
  rw [atWordEnd, stops_iff_head?, Bool.not_eq_true']

end Cursor

end Downstream
