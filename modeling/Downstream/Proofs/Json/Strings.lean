import Downstream.Json.Parser
import Downstream.Json.Printer

/-!
A string that is written is read back. One step of the reader takes one escaped character, so a
string needs as many steps as it has characters, and one more for its closing quote.
-/
namespace Downstream.Json

theorem controlDigits : ∀ n < 0x20, (Text.hexDigits 4 n).all (Number.isDigitOf 16) = true ∧
    Number.digitsValue 16 (Text.hexDigits 4 n) = n := by
  decide

theorem hexQuad?_hexDigits {n : Nat} (control : n < 0x20) (next : Char) (rest : List Char) :
    hexQuad? (Text.hexDigits 4 n ++ next :: rest) = some (n, next :: rest) := by
  obtain ⟨valid, value⟩ := controlDigits n control
  have four : ∃ a b c d, Text.hexDigits 4 n = [a, b, c, d] := ⟨_, _, _, _, rfl⟩
  obtain ⟨a, b, c, d, written⟩ := four
  rw [written] at valid value ⊢
  simp only [List.cons_append, List.nil_append, hexQuad?, valid, value, if_true]

theorem charOfUnit_toNat {c : Char} (control : c.toNat < 0x20) : Text.charOfUnit c.toNat = c := by
  have noHigh : Text.isHighUnit c.toNat = false := by simp [Text.isHighUnit]; omega
  have noLow : Text.isLowUnit c.toNat = false := by simp [Text.isLowUnit]; omega
  simp [Text.charOfUnit, noHigh, noLow]

theorem readStringBody_plain (opening : List Char) (steps : Nat) (done : List Char) {c : Char}
    (rest : List Char) (noQuote : c ≠ '"') (noBackslash : c ≠ '\\') (noControl : ¬ c.toNat < 0x20) :
    readStringBody opening (steps + 1) done (c :: rest) =
      readStringBody opening steps (c :: done) rest := by
  rw [readStringBody]
  · rw [if_neg noControl]
  all_goals simp_all

theorem readStringBody_control (opening : List Char) (steps : Nat) (done : List Char) {c : Char}
    (next : Char) (rest : List Char) (control : c.toNat < 0x20) :
    readStringBody opening (steps + 1) done
        ('\\' :: 'u' :: Text.hexDigits 4 c.toNat ++ next :: rest) =
      readStringBody opening steps (c :: done) (next :: rest) := by
  have noHigh : Text.isHighUnit c.toNat = false := by simp [Text.isHighUnit]; omega
  simp only [List.cons_append]
  rw [readStringBody, hexQuad?_hexDigits control]
  simp only [noHigh, charOfUnit_toNat control]

theorem readStringBody_escapeChar (opening : List Char) (steps : Nat) (done : List Char)
    (c next : Char) (rest : List Char) :
    readStringBody opening (steps + 1) done (escapeChar c ++ next :: rest) =
      readStringBody opening steps (c :: done) (next :: rest) := by
  unfold escapeChar
  repeat' split
  case isFalse.isFalse.isFalse.isFalse.isFalse.isFalse.isFalse.isTrue control =>
    exact readStringBody_control opening steps done next rest control
  case isFalse.isFalse.isFalse.isFalse.isFalse.isFalse.isFalse.isFalse =>
    exact readStringBody_plain opening steps done (next :: rest) (by assumption) (by assumption)
      (by assumption)
  all_goals
    rename_i same
    rw [same]
    rfl

theorem readStringBody_escaped (opening : List Char) (cs : List Char) {steps : Nat}
    (done rest : List Char) (enough : cs.length < steps) :
    readStringBody opening steps done (cs.flatMap escapeChar ++ '"' :: rest) =
      .ok (String.ofList (done.reverse ++ cs), rest) := by
  induction cs generalizing steps done with
  | nil =>
    obtain ⟨steps, rfl⟩ := Nat.exists_eq_add_one.mpr (Nat.zero_lt_of_lt enough)
    simp [readStringBody]
  | cons c cs ih =>
    obtain ⟨steps, rfl⟩ := Nat.exists_eq_add_one.mpr (Nat.zero_lt_of_lt enough)
    have further : cs.length < steps := by simpa using enough
    obtain ⟨next, more, text⟩ : ∃ next more, cs.flatMap escapeChar ++ '"' :: rest = next :: more :=
      List.exists_cons_of_ne_nil (by simp)
    rw [List.flatMap_cons, List.append_assoc, text, readStringBody_escapeChar, ← text,
      ih (c :: done) further]
    simp

theorem length_le_flatMap_escapeChar (cs : List Char) :
    cs.length ≤ (cs.flatMap escapeChar).length := by
  induction cs with
  | nil => exact Nat.le_refl _
  | cons c cs ih =>
    have positive : 0 < (escapeChar c).length := by
      unfold escapeChar
      repeat' split
      all_goals simp
    simp only [List.flatMap_cons, List.length_append, List.length_cons]
    omega

theorem readString_writeString (s : String) (rest : List Char) :
    ∃ body, writeString s ++ rest = '"' :: body ∧ readString body = .ok (s, rest) := by
  refine ⟨s.toList.flatMap escapeChar ++ '"' :: rest, by simp [writeString], ?_⟩
  rw [readString, readStringBody_escaped]
  · simp
  · have written := length_le_flatMap_escapeChar s.toList
    simp only [List.length_append, List.length_cons]
    omega

end Downstream.Json
