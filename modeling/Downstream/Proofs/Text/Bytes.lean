import Downstream.Scan.Walk

/-!
The bytes of a text. Only the character zero has a zero among its bytes, so bytes without a zero are
read as a text exactly if they are those of a text without that character.
-/
namespace Downstream

theorem Text.zero_not_mem_utf8EncodeChar {c : Char} (noZero : c ≠ '\u0000') :
    0 ∉ String.utf8EncodeChar c := by
  have positive : c.val.toNat ≠ 0 := by
    intro zero
    exact noZero (Char.ext (UInt32.toNat_inj.mp zero))
  -- A lone byte is the code point itself; every other byte is at least 128.
  fun_cases String.utf8EncodeChar c <;> simp [← UInt8.toNat_inj] <;> omega

theorem Text.any_zero_toUTF8 (content : String) :
    content.toUTF8.data.any (· == 0) = true ↔ '\u0000' ∈ content.toList := by
  have bytes : content.toUTF8 = content.toList.utf8Encode := by
    rw [String.toUTF8_eq_toByteArray, ← String.toByteArray_ofList, String.ofList_toList]
  rw [bytes, List.utf8Encode, ← Array.any_toList, List.toList_data_toByteArray, List.any_eq_true]
  constructor
  · rintro ⟨byte, member, isZero⟩
    obtain ⟨c, inContent, inChar⟩ := List.mem_flatMap.mp member
    rw [beq_iff_eq] at isZero
    obtain rfl : c = '\u0000' :=
      Decidable.not_not.mp fun other => Text.zero_not_mem_utf8EncodeChar other (isZero ▸ inChar)
    exact inContent
  · intro zero
    exact ⟨0, List.mem_flatMap.mpr ⟨_, zero, by decide⟩, rfl⟩

theorem Walk.decode?_eq_some_iff {bytes : ByteArray} {content : String} :
    decode? bytes = some content ↔ bytes = content.toUTF8 ∧ '\u0000' ∉ content.toList := by
  constructor
  · intro decoded
    rw [decode?] at decoded
    split at decoded
    · simp at decoded
    · rename_i noZeroByte
      have text : bytes = content.toUTF8 := by
        rw [String.fromUTF8?] at decoded
        split at decoded
        · rw [← Option.some.inj decoded]
          rfl
        · simp at decoded
      refine ⟨text, fun zero => noZeroByte ?_⟩
      rw [text]
      exact (Text.any_zero_toUTF8 content).mpr zero
  · rintro ⟨rfl, noZero⟩
    have noZeroByte : content.toUTF8.data.any (· == 0) = false :=
      Bool.eq_false_iff.mpr (mt (Text.any_zero_toUTF8 content).mp noZero)
    rw [decode?, noZeroByte, String.fromUTF8?, String.toUTF8_eq_toByteArray,
      dif_pos content.isValidUTF8]
    rfl

theorem Walk.decode?_toUTF8 {content : String} (noZero : '\u0000' ∉ content.toList) :
    decode? content.toUTF8 = some content :=
  decode?_eq_some_iff.mpr ⟨rfl, noZero⟩

theorem Text.decode_toUTF8 (text : String) : decode text.toUTF8 = .ok text := by
  have read : String.fromUTF8? text.toUTF8 = some text := by
    rw [String.fromUTF8?, String.toUTF8_eq_toByteArray, dif_pos text.isValidUTF8]
    rfl
  rw [decode, read]

end Downstream
