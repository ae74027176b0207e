import Downstream.Text.Alphanumeric
import Downstream.Text.Blank
import Mathlib.Data.List.TakeWhile

/-!
Runs of characters of one class. A run that stops is the longest one, so it is what a search for the
longest run takes; and as white space is never part of a word, a word stops where white space begins
and the other way round.
-/
namespace Downstream.Text

def Run (p : Char → Bool) (run : List Char) : Prop :=
  run ≠ [] ∧ ∀ c ∈ run, p c = true

def Stops (p : Char → Bool) (rest : List Char) : Prop :=
  ∀ c ∈ rest.head?, p c = false

variable {p q : Char → Bool} {run rest : List Char}

theorem stops_iff_head? : Stops p rest ↔ rest.head?.any p = false := by
  cases rest <;> simp [Stops]

@[simp]
theorem stops_cons {c : Char} {cs : List Char} : Stops p (c :: cs) ↔ p c = false := by
  simp [Stops]

theorem stops_dropWhile (p : Char → Bool) (cs : List Char) : Stops p (cs.dropWhile p) := by
  intro c first
  rw [Option.mem_def] at first
  have dropped : cs.dropWhile p ≠ [] := by
    intro none_left
    simp [none_left] at first
  have head := List.head_dropWhile_not p dropped
  rw [List.head?_eq_some_head dropped] at first
  rwa [Option.some.inj first] at head

theorem dropWhile_eq_self_of_stops (stops : Stops p rest) : rest.dropWhile p = rest := by
  cases rest with
  | nil => rfl
  | cons c cs => rw [List.dropWhile_cons_of_neg (by simp [stops_cons.mp stops])]

/-- Cutting a class of characters off at both ends leaves a text that neither begins nor ends with
one of them. -/
theorem exists_dropWhile_ends (p : Char → Bool) (cs : List Char) :
    let inner := ((cs.dropWhile p).reverse.dropWhile p).reverse
    Stops p inner ∧ Stops p inner.reverse ∧
      ∃ front behind, (∀ c ∈ front, p c = true) ∧ (∀ c ∈ behind, p c = true) ∧
        cs = front ++ (inner ++ behind) := by
  intro inner
  have stops := stops_dropWhile p cs
  have split : cs.dropWhile p =
      inner ++ ((cs.dropWhile p).reverse.takeWhile p).reverse := by
    rw [← List.reverse_append, List.takeWhile_append_dropWhile, List.reverse_reverse]
  refine ⟨?_, by rw [List.reverse_reverse]; exact stops_dropWhile p _, cs.takeWhile p,
    ((cs.dropWhile p).reverse.takeWhile p).reverse, ?_, ?_, ?_⟩
  · -- What is cut off at the end stands behind the first character that stays.
    cases shape : inner with
    | nil => simp [Stops]
    | cons c inside =>
      rw [split, shape, List.cons_append] at stops
      exact stops_cons.mpr (stops_cons.mp stops)
  · exact fun c member => List.mem_takeWhile_imp member
  · exact fun c member => List.mem_takeWhile_imp (List.mem_reverse.mp member)
  · rw [← split, List.takeWhile_append_dropWhile]

theorem dropWhile_ends_eq_self {cs : List Char} (first : Stops p cs) (last : Stops p cs.reverse) :
    ((cs.dropWhile p).reverse.dropWhile p).reverse = cs := by
  rw [dropWhile_eq_self_of_stops first, dropWhile_eq_self_of_stops last, List.reverse_reverse]

theorem drop_length_takeWhile (p : Char → Bool) (cs : List Char) :
    cs.drop (cs.takeWhile p).length = cs.dropWhile p :=
  calc cs.drop (cs.takeWhile p).length
      = (cs.takeWhile p ++ cs.dropWhile p).drop (cs.takeWhile p).length := by
        rw [List.takeWhile_append_dropWhile]
    _ = cs.dropWhile p := List.drop_left

theorem takeWhile_append_of_stops (all : ∀ c ∈ run, p c = true) (stops : Stops p rest) :
    (run ++ rest).takeWhile p = run := by
  rw [List.takeWhile_append_of_pos all]
  cases rest with
  | nil => rw [List.takeWhile_nil, List.append_nil]
  | cons c cs => rw [List.takeWhile_cons_of_neg (by simp [stops_cons.mp stops]), List.append_nil]

theorem dropWhile_append_of_stops (all : ∀ c ∈ run, p c = true) (stops : Stops p rest) :
    (run ++ rest).dropWhile p = rest := by
  rw [List.dropWhile_append_of_pos all, dropWhile_eq_self_of_stops stops]

theorem Run.not_mem (isRun : Run p run) {c : Char} (notOf : p c = false) : c ∉ run := by
  intro member
  rw [isRun.2 c member] at notOf
  simp at notOf

theorem Run.stops (isRun : Run p run) (apart : ∀ c, p c = true → q c = false)
    (rest : List Char) : Stops q (run ++ rest) := by
  obtain ⟨some_run, all⟩ := isRun
  obtain ⟨first, others, rfl⟩ := List.exists_cons_of_ne_nil some_run
  exact stops_cons.mpr (apart first (all first List.mem_cons_self))

theorem runs_unique {other behind : List Char} (all : ∀ c ∈ run, p c = true) (stops : Stops p rest)
    (allOther : ∀ c ∈ other, p c = true) (stopsBehind : Stops p behind)
    (text : run ++ rest = other ++ behind) : run = other ∧ rest = behind := by
  have same : run = other := by
    rw [← takeWhile_append_of_stops all stops, text, takeWhile_append_of_stops allOther stopsBehind]
  exact ⟨same, List.append_cancel_left (same ▸ text)⟩

theorem stops_append (none_of : ∀ c ∈ run, q c = false) (stops : Stops q rest) :
    Stops q (run ++ rest) := by
  cases run with
  | nil => exact stops
  | cons c cs => exact stops_cons.mpr (none_of c List.mem_cons_self)

theorem last_append {front : List Char} (before : ∀ c ∈ front.getLast?, q c = false)
    (none_of : ∀ c ∈ run, q c = false) : ∀ c ∈ (front ++ run).getLast?, q c = false := by
  intro c last
  rw [List.getLast?_append, Option.mem_def, Option.or_eq_some_iff] at last
  rcases last with inRun | ⟨_, inFront⟩
  · exact none_of c (List.mem_of_getLast? inRun)
  · exact before c inFront

theorem Run.last (isRun : Run p run) (apart : ∀ c, p c = true → q c = false)
    (front : List Char) : ∀ c ∈ (front ++ run).getLast?, q c = false := by
  intro c last
  rw [Option.mem_def, List.getLast?_append, List.getLast?_eq_some_getLast isRun.1,
    Option.some_or] at last
  rw [← Option.some.inj last]
  exact apart _ (isRun.2 _ (List.getLast_mem isRun.1))

theorem drop_ne_of_not_mem {first : Char} {text behind : List Char} (outside : first ∉ run)
    (opens : text.head? = some first) {k : Nat} (inside : k < run.length) :
    (run ++ rest).drop k ≠ text ++ behind := by
  intro same
  have here : run[k]? = some first := by
    calc run[k]? = (run ++ rest)[k]? := (List.getElem?_append_left inside).symm
      _ = (text ++ behind).head? := by rw [← List.head?_drop, same]
      _ = some first := by rw [List.head?_append, opens, Option.some_or]
  exact outside (List.mem_of_getElem? here)

theorem suffix_of_drop_eq {word tail : List Char} (all : ∀ c ∈ run, p c = true)
    (stops : Stops p rest) (allWord : ∀ c ∈ word, p c = true) (stopsTail : Stops p tail) {k : Nat}
    (inside : k < run.length) (text : (run ++ rest).drop k = word ++ tail) :
    word <:+ run ∧ rest = tail := by
  rw [List.drop_append_of_le_length (Nat.le_of_lt inside)] at text
  obtain ⟨same, behind⟩ :=
    runs_unique (fun c member => all c (List.mem_of_mem_drop member)) stops allWord stopsTail text
  exact ⟨same ▸ List.drop_suffix k run, behind⟩

/-! ### Written numbers -/

theorem toList_toString_nat (n : Nat) : (toString n).toList = Nat.toDigits 10 n := by
  simp [Nat.repr_eq_ofList_toDigits]

theorem run_toString_nat (n : Nat) : Run Char.isDigit (toString n).toList := by
  rw [toList_toString_nat]
  exact ⟨Nat.toDigits_ne_nil, fun _ member =>
    Nat.isDigit_of_mem_toDigits (by decide) (by decide) member⟩

/-! ### White space and words -/

def blankCodes : List Nat :=
  [0x09, 0x0A, 0x0B, 0x0C, 0x0D, 0x1C, 0x1D, 0x1E, 0x1F, 0x20, 0x85, 0xA0, 0x1680, 0x2000, 0x2001,
    0x2002, 0x2003, 0x2004, 0x2005, 0x2006, 0x2007, 0x2008, 0x2009, 0x200A, 0x2028, 0x2029, 0x202F,
    0x205F, 0x3000]

theorem toNat_mem_blankCodes {c : Char} (blank : isBlank c = true) : c.toNat ∈ blankCodes := by
  simp only [isBlank] at blank
  split at blank
  · simp [blankCodes] at blank ⊢
    omega
  · simp [blankCodes] at blank ⊢
    omega

theorem isWord_eq_false_of_isBlank (c : Char) (blank : isBlank c = true) : isWord c = false := by
  have none_word : ∀ code ∈ blankCodes, isWord (Char.ofNat code) = false := by decide +kernel
  rw [← Char.ofNat_toNat c]
  exact none_word c.toNat (toNat_mem_blankCodes blank)

theorem isBlank_eq_false_of_isWord (c : Char) (word : isWord c = true) : isBlank c = false := by
  cases blank : isBlank c with
  | false => rfl
  | true => rw [isWord_eq_false_of_isBlank c blank] at word; simp at word

end Downstream.Text
