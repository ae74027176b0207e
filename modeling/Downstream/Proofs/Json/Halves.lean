import Downstream.Json.Printer
import Downstream.Proofs.Text.Halves

/-!
Halves in values and in their texts. Escaping adds none and hides none, so the text of a value holds
a half if and only if one of its strings does.
-/
namespace Downstream.Json

open Text

theorem itemHalves?_eq_none_iff {items : List Json} :
    itemHalves? items = none ↔ ∀ item ∈ items, item.halves? = none := by
  induction items with
  | nil => simp [itemHalves?]
  | cons item items ih => simp [itemHalves?, ih]

theorem memberHalves?_eq_none_iff {members : List (String × Json)} :
    memberHalves? members = none ↔ ∀ member ∈ members, member.2.halves? = none := by
  induction members with
  | nil => simp [memberHalves?]
  | cons member members ih => simp [memberHalves?, ih]

theorem noHalf_hexDigits : ∀ n < 0x20, NoHalf (hexDigits 4 n) := by
  decide

theorem noHalf_escapeChar {c : Char} : NoHalf (escapeChar c) ↔ isHalf c = false := by
  unfold escapeChar
  repeat' split
  case isFalse.isFalse.isFalse.isFalse.isFalse.isFalse.isFalse.isTrue control =>
    have plain : isHalf c = false := isHalf_eq_false (Nat.lt_trans control (by decide))
    have marks : isHalf '\\' = false ∧ isHalf 'u' = false := by decide
    simp [plain, marks, noHalf_hexDigits c.toNat control]
  case isFalse.isFalse.isFalse.isFalse.isFalse.isFalse.isFalse.isFalse => simp
  all_goals
    rename_i same
    rw [same]
    simp only [noHalf_cons, noHalf_nil]
    decide

theorem noHalf_writeString {s : String} : NoHalf (writeString s) ↔ NoHalf s.toList := by
  have quote : isHalf '"' = false := by decide
  have body : NoHalf (s.toList.flatMap escapeChar) ↔ NoHalf s.toList := by
    induction s.toList with
    | nil => simp
    | cons c cs ih => simp [noHalf_escapeChar, ih]
  simp [writeString, quote, body]

theorem noHalf_newLine (level : Nat) : NoHalf (newLine level) := by
  intro c member
  rcases List.mem_cons.mp member with rfl | blank
  · decide
  · rw [List.eq_of_mem_replicate blank]
    decide

def ShowsHalves (value : Json) : Prop :=
  ∀ level, NoHalf (writeIndented level value) ↔ value.halves? = none

theorem showsHalves_str (s : String) : ShowsHalves (.str s) := by
  intro level
  rw [writeIndented, noHalf_writeString, Json.halves?, halves?_eq_none_iff]

theorem noHalf_writeItems {items : List Json} (parts : ∀ item ∈ items, ShowsHalves item)
    (level : Nat) : NoHalf (writeItems level items) ↔ itemHalves? items = none := by
  have comma : isHalf ',' = false := by decide
  induction items with
  | nil => simp [writeItems, itemHalves?]
  | cons item items ih =>
    have later := ih fun part member => parts part (List.mem_cons_of_mem _ member)
    simp [writeItems, itemHalves?, comma, noHalf_newLine, later,
      parts item List.mem_cons_self level]

theorem showsHalves_arr {items : List Json} (parts : ∀ item ∈ items, ShowsHalves item) :
    ShowsHalves (.arr items) := by
  intro level
  have marks : isHalf '[' = false ∧ isHalf ']' = false := by decide
  cases items with
  | nil => simp [writeIndented, Json.halves?, itemHalves?, marks]
  | cons item items =>
    have later := noHalf_writeItems (fun part member => parts part (List.mem_cons_of_mem _ member))
      (level + 1)
    simp [writeIndented, Json.halves?, itemHalves?, marks, noHalf_newLine, later,
      parts item List.mem_cons_self (level + 1)]

def MemberShowsHalves (member : String × Json) : Prop :=
  NoHalf member.1.toList ∧ ShowsHalves member.2

theorem noHalf_writeMembers {members : List (String × Json)}
    (parts : ∀ member ∈ members, MemberShowsHalves member) (level : Nat) :
    NoHalf (writeMembers level members) ↔ memberHalves? members = none := by
  have marks : isHalf ',' = false ∧ isHalf ':' = false ∧ isHalf ' ' = false := by decide
  induction members with
  | nil => simp [writeMembers, memberHalves?]
  | cons member members ih =>
    have later := ih fun part inside => parts part (List.mem_cons_of_mem _ inside)
    obtain ⟨key, value⟩ := parts member List.mem_cons_self
    simp [writeMembers, memberHalves?, marks, noHalf_newLine, noHalf_writeString, key, later,
      value level]

theorem showsHalves_obj {members : List (String × Json)}
    (parts : ∀ member ∈ members, MemberShowsHalves member) : ShowsHalves (.obj members) := by
  intro level
  have marks : isHalf '\x7b' = false ∧ isHalf '\x7d' = false ∧ isHalf ':' = false ∧
      isHalf ' ' = false := by decide
  cases members with
  | nil => simp [writeIndented, Json.halves?, memberHalves?, marks]
  | cons member members =>
    have later := noHalf_writeMembers
      (fun part inside => parts part (List.mem_cons_of_mem _ inside)) (level + 1)
    obtain ⟨key, value⟩ := parts member List.mem_cons_self
    simp [writeIndented, Json.halves?, memberHalves?, marks, noHalf_newLine, noHalf_writeString,
      key, later, value (level + 1)]

end Downstream.Json
