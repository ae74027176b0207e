import Downstream.Proofs.Json.Strings
import Mathlib.Data.List.TakeWhile

/-!
An indented text of strings, arrays and objects is read back as the value that was written. There is
one lemma for each way to make a value: what is true of the parts becomes true of the whole, one
level deeper.
-/
namespace Downstream.Json

theorem skipSpace_newLine {first : Char} (noSpace : isSpace first = false) (level : Nat)
    (rest : List Char) : skipSpace (newLine level ++ first :: rest) = first :: rest := by
  have blank : isSpace ' ' = true := rfl
  have lineFeed : isSpace '\n' = true := rfl
  simp only [skipSpace, newLine, List.cons_append, List.dropWhile_cons, lineFeed, if_true]
  induction 2 * level with
  | zero => simp [noSpace]
  | succ n ih => simpa [List.replicate_succ, List.dropWhile_cons, blank] using ih

theorem skipSpace_of_not {first : Char} (noSpace : isSpace first = false) (rest : List Char) :
    skipSpace (first :: rest) = first :: rest := by
  simp [skipSpace, noSpace]

/-- The written value is read back at any level and in front of any text, as long as at most
`depth` arrays and objects more fit in. -/
structure ReadsBack (value : Json) (depth : Nat) : Prop where
  opens : ∀ level, ∃ first rest, writeIndented level value = first :: rest ∧
    isSpace first = false ∧ first ≠ ']'
  reads : ∀ level nesting steps rest, nesting + depth ≤ maxNesting →
    (writeIndented level value).length ≤ steps →
    readValue nesting steps (writeIndented level value ++ rest) = .ok (value, rest)

theorem readsBack_str (s : String) (depth : Nat) : ReadsBack (.str s) depth := by
  constructor
  · intro level
    exact ⟨'"', _, rfl, by decide, by decide⟩
  · intro level nesting steps rest _ enough
    have positive : 0 < steps := by
      simp only [writeIndented, writeString, List.length_cons, List.cons_append] at enough
      omega
    obtain ⟨steps, rfl⟩ := Nat.exists_eq_add_one.mpr positive
    obtain ⟨body, text, read⟩ := readString_writeString s rest
    rw [writeIndented, text]
    simp [readValue, read, bind, Except.bind, pure, Except.pure]

theorem ReadsBack.skipSpace_newLine {value : Json} {depth : Nat} (back : ReadsBack value depth)
    (level outer : Nat) (rest : List Char) :
    skipSpace (newLine outer ++ (writeIndented level value ++ rest)) =
      writeIndented level value ++ rest := by
  obtain ⟨first, more, text, noSpace, _⟩ := back.opens level
  rw [text, List.cons_append]
  exact Json.skipSpace_newLine noSpace outer _

theorem ReadsBack.skipSpace_blank {value : Json} {depth : Nat} (back : ReadsBack value depth)
    (level : Nat) (rest : List Char) :
    skipSpace (' ' :: (writeIndented level value ++ rest)) = writeIndented level value ++ rest := by
  obtain ⟨first, more, text, noSpace, _⟩ := back.opens level
  have blank : isSpace ' ' = true := rfl
  rw [text, List.cons_append, skipSpace, List.dropWhile_cons, if_pos blank]
  exact skipSpace_of_not noSpace _

theorem readItems_written {depth : Nat} {items : List Json} {item : Json}
    (parts : ∀ part ∈ item :: items, ReadsBack part depth) (level outer nesting : Nat) {steps : Nat}
    (done : List Json) (rest : List Char) (fits : nesting + depth ≤ maxNesting)
    (enough : (writeIndented level item).length + (writeItems level items).length < steps) :
    readItems nesting steps done
        (writeIndented level item ++ (writeItems level items ++ (newLine outer ++ ']' :: rest))) =
      .ok (.arr (done.reverse ++ item :: items), rest) := by
  induction items generalizing item steps done with
  | nil =>
    obtain ⟨steps, rfl⟩ := Nat.exists_eq_add_one.mpr (Nat.zero_lt_of_lt enough)
    have read := (parts item List.mem_cons_self).reads level nesting steps
      (newLine outer ++ ']' :: rest) fits (by omega)
    simp [readItems, writeItems, read, bind, Except.bind, pure, Except.pure,
      skipSpace_newLine (by decide : isSpace ']' = false)]
  | cons next items ih =>
    obtain ⟨steps, rfl⟩ := Nat.exists_eq_add_one.mpr (Nat.zero_lt_of_lt enough)
    have read := (parts item List.mem_cons_self).reads level nesting steps
      (writeItems level (next :: items) ++ (newLine outer ++ ']' :: rest)) fits (by omega)
    have comma : skipSpace (writeItems level (next :: items) ++ (newLine outer ++ ']' :: rest)) =
        ',' :: (newLine level ++ (writeIndented level next ++
          (writeItems level items ++ (newLine outer ++ ']' :: rest)))) := by
      simp [writeItems, skipSpace_of_not (by decide : isSpace ',' = false)]
    have later : readItems nesting steps (item :: done) (writeIndented level next ++
        (writeItems level items ++ (newLine outer ++ ']' :: rest))) =
          .ok (.arr ((item :: done).reverse ++ next :: items), rest) := by
      refine ih (fun part member => parts part (List.mem_cons_of_mem _ member)) (item :: done) ?_
      simp only [writeItems, List.length_append, List.length_cons] at enough
      omega
    rw [readItems, read]
    simp only [bind, Except.bind, comma, (parts next (by simp)).skipSpace_newLine, later]
    simp

def memberText (level : Nat) (member : String × Json) (rest : List Char) : List Char :=
  writeString member.1 ++ ':' :: ' ' :: (writeIndented level member.2 ++ rest)

theorem skipSpace_memberText (level outer : Nat) (member : String × Json) (rest : List Char) :
    skipSpace (newLine outer ++ memberText level member rest) = memberText level member rest :=
  skipSpace_newLine (by decide : isSpace '"' = false) outer _

theorem readMembers_memberText {depth : Nat} {member : String × Json}
    (back : ReadsBack member.2 depth) (level nesting : Nat) {steps : Nat}
    (done : List (String × Json)) (rest : List Char) (fits : nesting + depth ≤ maxNesting)
    (enough : (writeIndented level member.2).length ≤ steps) :
    readMembers nesting (steps + 1) done (memberText level member rest) =
      match skipSpace rest with
      | '\x7d' :: rest => .ok (.obj (member :: done).reverse, rest)
      | ',' :: rest => readMembers nesting steps (member :: done) (skipSpace rest)
      | other => .error ⟨.expectedComma, other⟩ := by
  obtain ⟨body, text, read⟩ :=
    readString_writeString member.1 (':' :: ' ' :: (writeIndented level member.2 ++ rest))
  have value := back.reads level nesting steps rest fits enough
  rw [memberText, text, readMembers]
  simp only [read, bind, Except.bind, skipSpace_of_not (by decide : isSpace ':' = false),
    back.skipSpace_blank, value]
  rfl

theorem readMembers_written {depth : Nat} {members : List (String × Json)} {member : String × Json}
    (parts : ∀ part ∈ member :: members, ReadsBack part.2 depth) (level outer nesting : Nat)
    {steps : Nat} (done : List (String × Json)) (rest : List Char)
    (fits : nesting + depth ≤ maxNesting)
    (enough : (writeIndented level member.2).length + (writeMembers level members).length < steps) :
    readMembers nesting steps done
        (memberText level member
          (writeMembers level members ++ (newLine outer ++ '\x7d' :: rest))) =
      .ok (.obj (done.reverse ++ member :: members), rest) := by
  induction members generalizing member steps done with
  | nil =>
    obtain ⟨steps, rfl⟩ := Nat.exists_eq_add_one.mpr (Nat.zero_lt_of_lt enough)
    rw [readMembers_memberText (parts member List.mem_cons_self) level nesting done _ fits
      (by omega)]
    simp [writeMembers, skipSpace_newLine (by decide : isSpace '\x7d' = false)]
  | cons next members ih =>
    obtain ⟨steps, rfl⟩ := Nat.exists_eq_add_one.mpr (Nat.zero_lt_of_lt enough)
    have comma : skipSpace (writeMembers level (next :: members) ++
        (newLine outer ++ '\x7d' :: rest)) =
        ',' :: (newLine level ++ memberText level next
          (writeMembers level members ++ (newLine outer ++ '\x7d' :: rest))) := by
      simp [writeMembers, memberText, skipSpace_of_not (by decide : isSpace ',' = false)]
    have later : readMembers nesting steps (member :: done) (memberText level next
        (writeMembers level members ++ (newLine outer ++ '\x7d' :: rest))) =
          .ok (.obj ((member :: done).reverse ++ next :: members), rest) := by
      refine ih (fun part later => parts part (List.mem_cons_of_mem _ later)) (member :: done) ?_
      simp only [writeMembers, List.length_append, List.length_cons] at enough
      omega
    rw [readMembers_memberText (parts member List.mem_cons_self) level nesting done _ fits
      (by omega)]
    simp only [comma, skipSpace_memberText, later]
    simp

theorem readValue_array {nesting : Nat} (steps : Nat) {cs body : List Char} {first : Char}
    (room : nesting < maxNesting) (inside : skipSpace cs = first :: body) (notClosing : first ≠ ']') :
    readValue nesting (steps + 1) ('[' :: cs) =
      readItems (nesting + 1) steps [] (first :: body) := by
  have notFull : ¬ maxNesting ≤ nesting := Nat.not_le.mpr room
  simp only [readValue, inside, notFull]
  split <;> simp_all

theorem readValue_object {nesting : Nat} (steps : Nat) {cs body : List Char} {first : Char}
    (room : nesting < maxNesting) (inside : skipSpace cs = first :: body) (notClosing : first ≠ '\x7d') :
    readValue nesting (steps + 1) ('\x7b' :: cs) =
      readMembers (nesting + 1) steps [] (first :: body) := by
  have notFull : ¬ maxNesting ≤ nesting := Nat.not_le.mpr room
  simp only [readValue, inside, notFull]
  split <;> simp_all

theorem readsBack_arr {depth : Nat} {items : List Json}
    (parts : ∀ item ∈ items, ReadsBack item depth) : ReadsBack (.arr items) (depth + 1) := by
  constructor
  · intro level
    cases items with
    | nil => exact ⟨'[', _, rfl, by decide, by decide⟩
    | cons item items => exact ⟨'[', _, rfl, by decide, by decide⟩
  · intro level nesting steps rest fits enough
    cases items with
    | nil =>
      have room : ¬ maxNesting ≤ nesting := by omega
      obtain ⟨steps, rfl⟩ := Nat.exists_eq_add_one.mpr (Nat.lt_of_lt_of_le (Nat.succ_pos _) enough)
      simp [writeIndented, readValue, room, skipSpace_of_not (by decide : isSpace ']' = false)]
    | cons item items =>
      have back := parts item List.mem_cons_self
      simp only [writeIndented, List.length_append, List.length_cons, List.cons_append] at enough
      obtain ⟨steps, rfl⟩ := Nat.exists_eq_add_one.mpr (Nat.lt_of_lt_of_le (Nat.succ_pos _) enough)
      have read := readItems_written parts (level + 1) level (nesting + 1) [] rest (by omega)
        (by omega : _ < steps)
      have inside := back.skipSpace_newLine (level + 1) (level + 1)
        (writeItems (level + 1) items ++ (newLine level ++ ']' :: rest))
      obtain ⟨first, more, text, _, notEnd⟩ := back.opens (level + 1)
      rw [text, List.cons_append] at inside read
      have opened := readValue_array steps (by omega : nesting < maxNesting) inside notEnd
      rw [read] at opened
      simpa [writeIndented, text] using opened

theorem readsBack_obj {depth : Nat} {members : List (String × Json)}
    (parts : ∀ member ∈ members, ReadsBack member.2 depth) :
    ReadsBack (.obj members) (depth + 1) := by
  constructor
  · intro level
    cases members with
    | nil => exact ⟨'\x7b', _, rfl, by decide, by decide⟩
    | cons member members => exact ⟨'\x7b', _, rfl, by decide, by decide⟩
  · intro level nesting steps rest fits enough
    cases members with
    | nil =>
      have room : ¬ maxNesting ≤ nesting := by omega
      obtain ⟨steps, rfl⟩ := Nat.exists_eq_add_one.mpr (Nat.lt_of_lt_of_le (Nat.succ_pos _) enough)
      simp [writeIndented, readValue, room, skipSpace_of_not (by decide : isSpace '\x7d' = false)]
    | cons member members =>
      simp only [writeIndented, List.length_append, List.length_cons, List.cons_append] at enough
      obtain ⟨steps, rfl⟩ := Nat.exists_eq_add_one.mpr (Nat.lt_of_lt_of_le (Nat.succ_pos _) enough)
      have read := readMembers_written parts (level + 1) level (nesting + 1) [] rest (by omega)
        (by omega : _ < steps)
      have inside := skipSpace_memberText (level + 1) (level + 1) member
        (writeMembers (level + 1) members ++ (newLine level ++ '\x7d' :: rest))
      obtain ⟨body, text⟩ : ∃ body, memberText (level + 1) member
          (writeMembers (level + 1) members ++ (newLine level ++ '\x7d' :: rest)) = '"' :: body :=
        ⟨_, rfl⟩
      rw [text] at read
      have opened := readValue_object steps (by omega : nesting < maxNesting) (inside.trans text)
        (by decide)
      rw [read] at opened
      simpa [writeIndented, memberText] using opened

theorem parse_indented {value : Json} {depth : Nat} (back : ReadsBack value depth)
    (fits : depth ≤ maxNesting) {behind : String}
    (blank : ∀ c ∈ behind.toList, isSpace c = true) :
    parse (value.indented ++ behind) = .ok value := by
  obtain ⟨first, more, text, noSpace, _⟩ := back.opens 0
  have chars : (value.indented ++ behind).toList = writeIndented 0 value ++ behind.toList := by
    simp [indented]
  have read := back.reads 0 0 (2 * (writeIndented 0 value ++ behind.toList).length + 2)
    behind.toList (by omega) (by simp only [List.length_append]; omega)
  have start : skipSpace (writeIndented 0 value ++ behind.toList) =
      writeIndented 0 value ++ behind.toList := by
    rw [text, List.cons_append]
    exact skipSpace_of_not noSpace _
  have ended : skipSpace behind.toList = [] := List.dropWhile_eq_nil_iff.mpr blank
  have whole : readText (writeIndented 0 value ++ behind.toList) = .ok value := by
    rw [readText, start, read]
    simp only [bind, Except.bind, ended]
    rfl
  rw [parse, chars, whole]

end Downstream.Json
