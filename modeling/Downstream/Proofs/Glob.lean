import Downstream.Glob
import Downstream.Proofs.Text.Fields
import Mathlib.Data.List.Forall2
import Mathlib.Data.List.Infix

/-!
What glob patterns stand for. The parts of a pattern stand for a text one after the other: a star for
any characters, every other part for one that it accepts. So a pattern put together from two others
stands for the texts put together from theirs.
-/
namespace Downstream.Glob

inductive StandsFor : List Part → List Char → Prop where
  | nil : StandsFor [] []
  | star {ps : List Part} {rest : List Char} (spanned : List Char) (later : StandsFor ps rest) :
      StandsFor (.star :: ps) (spanned ++ rest)
  | one {p : Part} {ps : List Part} {c : Char} {rest : List Char} (accepts : p.accepts c = true)
      (later : StandsFor ps rest) : StandsFor (p :: ps) (c :: rest)

variable {p : Part} {ps qs : List Part} {c : Char} {cs : List Char}

@[simp]
theorem standsFor_nil_iff : StandsFor [] cs ↔ cs = [] := by
  constructor
  · intro stands
    cases stands
    rfl
  · rintro rfl
    exact .nil

theorem standsFor_star_iff :
    StandsFor (.star :: ps) cs ↔ ∃ spanned rest, cs = spanned ++ rest ∧ StandsFor ps rest := by
  constructor
  · intro stands
    cases stands with
    | star spanned later => exact ⟨spanned, _, rfl, later⟩
    | one accepts later => simp [Part.accepts] at accepts
  · rintro ⟨spanned, rest, rfl, later⟩
    exact .star spanned later

theorem standsFor_star_cons_iff :
    StandsFor (.star :: ps) (c :: cs) ↔ StandsFor ps (c :: cs) ∨ StandsFor (.star :: ps) cs := by
  rw [standsFor_star_iff, standsFor_star_iff]
  constructor
  · rintro ⟨spanned, rest, split, later⟩
    cases spanned with
    | nil => exact Or.inl (split ▸ later)
    | cons d spanned =>
      obtain ⟨rfl, rfl⟩ := List.cons.inj split
      exact Or.inr ⟨spanned, rest, rfl, later⟩
  · rintro (here | ⟨spanned, rest, rfl, later⟩)
    · exact ⟨[], _, rfl, here⟩
    · exact ⟨c :: spanned, rest, rfl, later⟩

theorem standsFor_cons_iff (single : p ≠ .star) :
    StandsFor (p :: ps) cs ↔ ∃ c rest, cs = c :: rest ∧ p.accepts c = true ∧ StandsFor ps rest := by
  constructor
  · intro stands
    cases stands with
    | star spanned later => exact absurd rfl single
    | one accepts later => exact ⟨_, _, rfl, accepts, later⟩
  · rintro ⟨c, rest, rfl, accepts, later⟩
    exact .one accepts later

theorem standsFor_append_iff :
    StandsFor (ps ++ qs) cs ↔
      ∃ front rest, cs = front ++ rest ∧ StandsFor ps front ∧ StandsFor qs rest := by
  constructor
  · intro stands
    induction ps generalizing cs with
    | nil => exact ⟨[], cs, rfl, .nil, stands⟩
    | cons p ps ih =>
      rw [List.cons_append] at stands
      cases stands with
      | star spanned later =>
        obtain ⟨front, rest, rfl, here, there⟩ := ih later
        exact ⟨spanned ++ front, rest, by simp, .star spanned here, there⟩
      | one accepts later =>
        obtain ⟨front, rest, rfl, here, there⟩ := ih later
        exact ⟨_ :: front, rest, rfl, .one accepts here, there⟩
  · rintro ⟨front, rest, rfl, here, there⟩
    induction here with
    | nil => exact there
    | star spanned later ih =>
      rw [List.append_assoc]
      exact .star spanned ih
    | one accepts later ih => exact .one accepts ih

/-! ### The table of ends -/

theorem endsMatched_cons (single : p ≠ .star) :
    endsMatched (p :: ps) cs =
      List.zipWith (fun c later => p.accepts c && later) cs (endsMatched ps cs).tail ++ [false] := by
  cases p with
  | star => exact absurd rfl single
  | one expected => rfl
  | any => rfl
  | set s => rfl

open scoped Classical in
theorem endsMatched_eq (ps : List Part) (cs : List Char) :
    endsMatched ps cs = cs.tails.map fun rest => decide (StandsFor ps rest) := by
  induction ps with
  | nil =>
    induction cs with
    | nil => simp [endsMatched]
    | cons c cs ih => simpa [endsMatched] using ih
  | cons p ps ih =>
    by_cases isStar : p = .star
    · subst isStar
      rw [endsMatched, ih]
      clear ih
      induction cs with
      | nil => simp [standsFor_star_iff]
      | cons c cs ih =>
        rw [List.tails_cons, List.map_cons, List.foldr_cons, ih, List.map_cons]
        have next : (cs.tails.map fun rest => decide (StandsFor (.star :: ps) rest)).head? =
            some (decide (StandsFor (.star :: ps) cs)) := by
          cases cs <;> rfl
        simp [next, standsFor_star_cons_iff]
    · rw [endsMatched_cons isStar, ih]
      clear ih
      induction cs with
      | nil => simp [standsFor_cons_iff isStar]
      | cons c cs ih =>
        obtain ⟨later, tails⟩ : ∃ later, cs.tails = cs :: later := by
          cases cs <;> exact ⟨_, rfl⟩
        simp only [List.tails_cons, tails, List.map_cons, List.tail_cons] at ih ⊢
        rw [List.zipWith_cons_cons, List.cons_append, ih]
        simp [standsFor_cons_iff isStar]

theorem covers_iff {pattern text : List Char} :
    covers pattern text = true ↔ StandsFor (parts pattern) text := by
  classical
  rw [covers, endsMatched_eq]
  cases text <;> simp

/-! ### Patterns without bracket expressions -/

def Part.ofChar (c : Char) : Part :=
  if c = '*' then .star else if c = '?' then .any else .one c

theorem parts_eq_map {pattern : List Char} (plain : '[' ∉ pattern) :
    parts pattern = pattern.map Part.ofChar := by
  induction pattern with
  | nil => rfl
  | cons c pattern ih =>
    rw [List.mem_cons, not_or] at plain
    obtain ⟨notOpen, plainRest⟩ := plain
    rw [List.map_cons, ← ih plainRest, parts, parts, partsFrom, Part.ofChar]
    split
    · rfl
    · split
      · rfl
      · rw [if_neg (Ne.symm notOpen)]

theorem covers_append_cons_iff {separator : Char} {front behind text : List Char}
    (plain : '[' ∉ front ++ separator :: behind) (literal : Part.ofChar separator = .one separator) :
    covers (front ++ separator :: behind) text = true ↔
      ∃ before after, text = before ++ separator :: after ∧
        covers front before = true ∧ covers behind after = true := by
  have plainParts : '[' ∉ front ∧ '[' ∉ behind := by
    simp only [List.mem_append, List.mem_cons, not_or] at plain
    exact ⟨plain.1, plain.2.2⟩
  simp only [covers_iff, parts_eq_map plain, parts_eq_map plainParts.1, parts_eq_map plainParts.2,
    List.map_append, List.map_cons, literal, standsFor_append_iff]
  have single : ∀ {c d}, (Part.one c).accepts d = true ↔ d = c := by simp [Part.accepts]
  constructor
  · rintro ⟨before, rest, rfl, here, there⟩
    obtain ⟨c, after, rfl, accepts, later⟩ := (standsFor_cons_iff (by simp)).mp there
    exact ⟨before, after, by rw [single.mp accepts], here, later⟩
  · rintro ⟨before, after, rfl, here, later⟩
    exact ⟨before, separator :: after, rfl, here, .one (single.mpr rfl) later⟩

theorem covers_intercalate_iff {separator : Char} (literal : Part.ofChar separator = .one separator)
    {parts : List (List Char)} (nonempty : parts ≠ []) (plain : '[' ∉ [separator].intercalate parts)
    {text : List Char} :
    covers ([separator].intercalate parts) text = true ↔
      ∃ spans, List.Forall₂ (fun part span => covers part span = true) parts spans ∧
        text = [separator].intercalate spans := by
  induction parts generalizing text with
  | nil => exact absurd rfl nonempty
  | cons part parts ih =>
    cases parts with
    | nil =>
      rw [List.intercalate_singleton]
      constructor
      · intro covered
        exact ⟨[text], .cons covered .nil, by simp⟩
      · rintro ⟨spans, each, rfl⟩
        obtain ⟨span, rest, covered, last, rfl⟩ := List.forall₂_cons_left_iff.mp each
        obtain rfl := List.forall₂_nil_left_iff.mp last
        simpa using covered
    | cons next parts =>
      rw [Text.intercalate_cons] at plain ⊢
      have plainLater : '[' ∉ [separator].intercalate (next :: parts) := by
        simp only [List.mem_append, List.mem_cons, not_or] at plain
        exact plain.2.2
      rw [covers_append_cons_iff plain literal]
      constructor
      · rintro ⟨before, after, rfl, covered, later⟩
        obtain ⟨spans, each, rfl⟩ := (ih (by simp) plainLater).mp later
        refine ⟨before :: spans, .cons covered each, ?_⟩
        obtain ⟨span, rest, -, -, rfl⟩ := List.forall₂_cons_left_iff.mp each
        rw [Text.intercalate_cons]
      · rintro ⟨spans, each, rfl⟩
        obtain ⟨before, rest, covered, later, rfl⟩ := List.forall₂_cons_left_iff.mp each
        obtain ⟨span, spans, -, -, rfl⟩ := List.forall₂_cons_left_iff.mp later
        refine ⟨before, _, ?_, covered, (ih (by simp) plainLater).mpr ⟨_, later, rfl⟩⟩
        rw [Text.intercalate_cons]

theorem covers_literal_iff {pattern text : List Char} (plain : '[' ∉ pattern)
    (noStar : '*' ∉ pattern) (noMark : '?' ∉ pattern) :
    covers pattern text = true ↔ text = pattern := by
  rw [covers_iff, parts_eq_map plain]
  clear plain
  induction pattern generalizing text with
  | nil => simp
  | cons c pattern ih =>
    rw [List.mem_cons, not_or] at noStar noMark
    have literal : Part.ofChar c = .one c := by
      simp [Part.ofChar, Ne.symm noStar.1, Ne.symm noMark.1]
    rw [List.map_cons, literal, standsFor_cons_iff (by simp)]
    simp only [ih noStar.2 noMark.2, Part.accepts, beq_iff_eq]
    constructor
    · rintro ⟨d, rest, rfl, rfl, rfl⟩
      rfl
    · rintro rfl
      exact ⟨c, pattern, rfl, rfl, rfl⟩

/-- In a text that a pattern with a star covers there is a place that takes any characters. -/
theorem covers_insert {pattern text : List Char} (plain : '[' ∉ pattern) (hasStar : '*' ∈ pattern)
    (covered : covers pattern text = true) :
    ∃ front behind, text = front ++ behind ∧
      ∀ inserted, covers pattern (front ++ inserted ++ behind) = true := by
  obtain ⟨before, after, rfl⟩ := List.append_of_mem hasStar
  have parts_eq : parts (before ++ '*' :: after) =
      before.map Part.ofChar ++ .star :: after.map Part.ofChar := by
    rw [parts_eq_map plain, List.map_append, List.map_cons]
    rfl
  rw [covers_iff, parts_eq, standsFor_append_iff] at covered
  obtain ⟨front, rest, rfl, here, there⟩ := covered
  obtain ⟨spanned, behind, rfl, later⟩ := standsFor_star_iff.mp there
  refine ⟨front ++ spanned, behind, by simp, fun inserted => ?_⟩
  rw [covers_iff, parts_eq, standsFor_append_iff]
  refine ⟨front, (spanned ++ inserted) ++ behind, by simp, here, .star _ later⟩

end Downstream.Glob
