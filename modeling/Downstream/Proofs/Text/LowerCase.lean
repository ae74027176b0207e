import Downstream.Proofs.Text.Runs
import Downstream.Text.LowerCase

/-!
What trimming and lowering leave of a text. Trimming leaves no white space at the ends, and lowering
leaves small letters only: a second time neither of them changes anything. Lowering puts no white
space where there was none.
-/
namespace Downstream.Text

/-! ### White space at the ends -/

structure Trim (cs : List Char) : Prop where
  first : Stops isBlank cs
  last : Stops isBlank cs.reverse

theorem Trim.trim_eq {cs : List Char} (ends : Trim cs) : trim cs = cs :=
  dropWhile_ends_eq_self ends.first ends.last

theorem trim_ends (cs : List Char) : Trim (trim cs) :=
  have ends := exists_dropWhile_ends isBlank cs
  ⟨ends.1, ends.2.1⟩

theorem trim_eq_nil_iff {cs : List Char} : trim cs = [] ↔ ∀ c ∈ cs, isBlank c = true := by
  rw [trim, trimEnd, List.reverse_eq_nil_iff, List.dropWhile_eq_nil_iff]
  constructor
  · intro blanks
    refine List.dropWhile_eq_nil_iff.mp (Classical.byContradiction fun kept => ?_)
    have first := List.head_dropWhile_not isBlank kept
    rw [blanks _ (List.mem_reverse.mpr (List.head_mem kept))] at first
    exact Bool.noConfusion first
  · intro blanks c member
    exact blanks c ((List.dropWhile_suffix isBlank).subset (List.mem_reverse.mp member))

theorem trim_append_blanks {cs behind : List Char} (ends : Trim cs)
    (blanks : ∀ c ∈ behind, isBlank c = true) : trim (cs ++ behind) = cs := by
  cases cs with
  | nil => exact trim_eq_nil_iff.mpr blanks
  | cons c rest =>
    have first : Stops isBlank (c :: (rest ++ behind)) := stops_cons.mpr (stops_cons.mp ends.first)
    rw [trim, List.cons_append, dropWhile_eq_self_of_stops first, trimEnd, ← List.cons_append,
      List.reverse_append, dropWhile_append_of_stops (by simpa using blanks) ends.last,
      List.reverse_reverse]

/-! ### Small letters -/

theorem findBetween_eq_some {α : Type} {table : Array α} {place : α → Ordering} {entry : α} :
    ∀ {steps low high : Nat}, findBetween table place steps low high = some entry →
      entry ∈ table ∧ place entry = .eq := by
  intro steps
  induction steps with
  | zero => simp [findBetween]
  | succ steps ih =>
    intro low high found
    rw [findBetween] at found
    split at found
    · extract_lets middle at found
      split at found
      · simp at found
      · rename_i here atMiddle
        split at found
        · exact ih found
        · exact ih found
        · rename_i same
          obtain rfl := Option.some.inj found
          exact ⟨Array.mem_of_getElem? atMiddle, same⟩
    · simp at found

def smallLetters : List Char :=
  caseRuns.toList.flatMap fun run =>
    ((List.range (run.last - run.first + 1)).filter (· % run.step = 0)).map fun offset =>
      Char.ofNat (((run.first + offset : Nat) : Int) + run.shift).toNat

theorem mem_smallLetters {c small : Char} (found : smallLetter? c = some small) :
    small ∈ smallLetters := by
  unfold smallLetter? at found
  extract_lets code at found
  generalize inTable : findSorted caseRuns (fun run =>
    if code < run.first then .gt else if run.last < code then .lt else .eq) = run? at found
  cases run? with
  | none => simp at found
  | some run =>
    obtain ⟨member, here⟩ := findBetween_eq_some inTable
    have within : run.first ≤ code ∧ code ≤ run.last := by
      split at here
      · simp at here
      · split at here
        · simp at here
        · omega
    rw [Option.ite_none_right_eq_some] at found
    obtain ⟨onGrid, same⟩ := found
    obtain rfl := Option.some.inj same
    refine List.mem_flatMap.mpr ⟨run, Array.mem_toList_iff.mpr member, ?_⟩
    refine List.mem_map.mpr ⟨code - run.first, ?_, ?_⟩
    · exact List.mem_filter.mpr ⟨List.mem_range.mpr (by omega), by simpa using onGrid⟩
    · rw [Nat.add_sub_cancel' within.1]

def IsSmall (c : Char) : Prop :=
  c ≠ 'Σ' ∧ lowerChar c = [c]

instance (c : Char) : Decidable (IsSmall c) :=
  inferInstanceAs (Decidable (c ≠ 'Σ' ∧ lowerChar c = [c]))

theorem all_smallLetters : smallLetters.all (fun c => decide (IsSmall c) && !isBlank c) = true := by
  decide +kernel

theorem isSmall_of_mem_smallLetters {c : Char} (member : c ∈ smallLetters) :
    IsSmall c ∧ isBlank c = false := by
  simpa using List.all_eq_true.mp all_smallLetters c member

theorem isSmall_toLower {c : Char} (plain : c.toNat < 128) :
    IsSmall c.toLower ∧ (isBlank c = false → isBlank c.toLower = false) := by
  have each : ∀ code < 128, IsSmall (Char.ofNat code).toLower ∧
      (isBlank (Char.ofNat code) = false → isBlank (Char.ofNat code).toLower = false) := by
    decide +kernel
  have here := each c.toNat plain
  rwa [Char.ofNat_toNat] at here

structure SmallForm (c : Char) (form : List Char) : Prop where
  nonempty : form ≠ []
  small : ∀ d ∈ form, IsSmall d
  visible : isBlank c = false → ∀ d ∈ form, isBlank d = false

theorem smallForm_lowerChar {c : Char} (notSigma : c ≠ 'Σ') : SmallForm c (lowerChar c) := by
  by_cases plain : c.toNat < 128
  · obtain ⟨small, visible⟩ := isSmall_toLower plain
    rw [lowerChar, if_pos plain]
    exact ⟨by simp, by simpa using small, by simpa using visible⟩
  by_cases dotted : c = 'İ'
  · have letter : IsSmall 'i' ∧ isBlank 'i' = false := by decide +kernel
    have dot : IsSmall '\u0307' ∧ isBlank '\u0307' = false := by decide +kernel
    rw [lowerChar, if_neg plain, if_pos dotted]
    exact ⟨by simp, by simp [letter.1, dot.1], by simp [letter.2, dot.2]⟩
  cases found : smallLetter? c with
  | none =>
    have same : lowerChar c = [c] := by simp [lowerChar, plain, dotted, found]
    rw [same]
    exact ⟨by simp, by simpa using ⟨notSigma, same⟩, by simp⟩
  | some small =>
    have lowered : lowerChar c = [small] := by simp [lowerChar, plain, dotted, found]
    obtain ⟨isSmall, visible⟩ := isSmall_of_mem_smallLetters (mem_smallLetters found)
    rw [lowered]
    exact ⟨by simp, by simpa using isSmall, by simp [visible]⟩

theorem exists_lowerAfter_cons (afterCased : Bool) (c : Char) (cs : List Char) :
    ∃ form afterThis, SmallForm c form ∧
      lowerAfter afterCased (c :: cs) = form ++ lowerAfter afterThis cs := by
  by_cases sigma : c = 'Σ'
  · have last : IsSmall 'ς' ∧ isBlank 'ς' = false := by decide +kernel
    have inside : IsSmall 'σ' ∧ isBlank 'σ' = false := by decide +kernel
    obtain ⟨small, visible⟩ : IsSmall (if afterCased && !nextIsCased cs then 'ς' else 'σ') ∧
        isBlank (if afterCased && !nextIsCased cs then 'ς' else 'σ') = false := by
      split
      · exact last
      · exact inside
    refine ⟨[if afterCased && !nextIsCased cs then 'ς' else 'σ'], _, ?_, by
      rw [lowerAfter, if_pos sigma]⟩
    exact ⟨by simp, by simpa using small, by simpa using fun _ => visible⟩
  · exact ⟨lowerChar c, _, smallForm_lowerChar sigma, by rw [lowerAfter, if_neg sigma]⟩

theorem isSmall_of_mem_lowerAfter {afterCased : Bool} {cs : List Char} :
    ∀ d ∈ lowerAfter afterCased cs, IsSmall d := by
  induction cs generalizing afterCased with
  | nil => simp [lowerAfter]
  | cons c cs ih =>
    obtain ⟨form, afterThis, smallForm, lowered⟩ := exists_lowerAfter_cons afterCased c cs
    intro d member
    rw [lowered, List.mem_append] at member
    rcases member with here | later
    · exact smallForm.small d here
    · exact ih d later

theorem lowerAfter_eq_self {afterCased : Bool} {cs : List Char} (small : ∀ c ∈ cs, IsSmall c) :
    lowerAfter afterCased cs = cs := by
  induction cs generalizing afterCased with
  | nil => rfl
  | cons c cs ih =>
    obtain ⟨notSigma, same⟩ := small c List.mem_cons_self
    rw [lowerAfter, if_neg notSigma, same, ih fun d later => small d (List.mem_cons_of_mem c later)]
    rfl

theorem lower_lower (cs : List Char) : lower (lower cs) = lower cs :=
  lowerAfter_eq_self isSmall_of_mem_lowerAfter

theorem exists_lowerAfter_append (afterCased : Bool) (front cs : List Char) :
    ∃ small afterFront, (small = [] ↔ front = []) ∧
      lowerAfter afterCased (front ++ cs) = small ++ lowerAfter afterFront cs := by
  induction front generalizing afterCased with
  | nil => exact ⟨[], afterCased, by simp, rfl⟩
  | cons c front ih =>
    obtain ⟨form, afterThis, smallForm, lowered⟩ :=
      exists_lowerAfter_cons afterCased c (front ++ cs)
    obtain ⟨small, afterFront, _, rest⟩ := ih afterThis
    refine ⟨form ++ small, afterFront, by simp [smallForm.nonempty], ?_⟩
    rw [List.cons_append, lowered, rest, List.append_assoc]

theorem lower_eq_nil_iff {cs : List Char} : lower cs = [] ↔ cs = [] := by
  obtain ⟨small, afterAll, empty_iff, lowered⟩ := exists_lowerAfter_append false cs []
  rw [List.append_nil] at lowered
  rw [lower, lowered, lowerAfter, List.append_nil]
  exact empty_iff

theorem Trim.lower {cs : List Char} (ends : Trim cs) : Trim (lower cs) := by
  constructor
  · cases cs with
    | nil => simp [Text.lower, lowerAfter, Stops]
    | cons c rest =>
      obtain ⟨form, afterThis, smallForm, lowered⟩ := exists_lowerAfter_cons false c rest
      obtain ⟨d, behind, rfl⟩ := List.exists_cons_of_ne_nil smallForm.nonempty
      rw [Text.lower, lowered, List.cons_append, stops_cons]
      exact smallForm.visible (stops_cons.mp ends.first) d List.mem_cons_self
  · rcases List.eq_nil_or_concat cs with rfl | ⟨front, c, split⟩
    · simp [Text.lower, lowerAfter, Stops]
    · rw [List.concat_eq_append] at split
      subst split
      have visible : isBlank c = false := by simpa using ends.last
      obtain ⟨small, afterFront, _, split⟩ := exists_lowerAfter_append false front [c]
      obtain ⟨form, afterThis, smallForm, lowered⟩ := exists_lowerAfter_cons afterFront c []
      obtain ⟨d, behind, reversed⟩ :=
        List.exists_cons_of_ne_nil (List.reverse_eq_nil_iff.not.mpr smallForm.nonempty)
      rw [Text.lower, split, lowered, lowerAfter, List.append_nil, List.reverse_append, reversed,
        List.cons_append, stops_cons]
      exact smallForm.visible visible d (List.mem_reverse.mp (reversed ▸ List.mem_cons_self))

end Downstream.Text
