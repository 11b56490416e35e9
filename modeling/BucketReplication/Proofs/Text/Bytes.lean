import Mathlib.Data.List.Basic
import Mathlib.Tactic.ByContra
import Mathlib.Tactic.SplitIfs

/-! # The bytes of a text

A text is encoded in UTF-8. The order of texts by code points is the order of
their bytes, and a text has as many bytes as characters if all of them are
ASCII. -/

namespace BucketReplication.Text

def bytes (content : String) : List UInt8 :=
  content.toUTF8.data.toList

theorem bytes_eq_flatMap (content : String) :
    bytes content = content.toList.flatMap String.utf8EncodeChar := by
  have encoded : content.toList.utf8Encode = content.toByteArray := String.utf8Encode_toList
  rw [bytes, String.toUTF8_eq_toByteArray, ← encoded, List.utf8Encode,
    List.toList_data_toByteArray]

/-! ## The order of the bytes -/

theorem cons_ofNat_lt_iff {first second : Nat} (small : first < 256) (small' : second < 256)
    (rest others : List UInt8) :
    UInt8.ofNat first :: rest < UInt8.ofNat second :: others ↔
      first < second ∨ first = second ∧ rest < others := by
  rw [List.cons_lt_cons_iff, UInt8.lt_iff_toNat_lt, ← UInt8.toNat_inj,
    UInt8.toNat_ofNat_of_lt' small, UInt8.toNat_ofNat_of_lt' small']

/-- The encodings of two characters differ in a byte that both have, and there the
lower character has the lower byte. So what follows them does not matter. -/
theorem utf8EncodeChar_append_lt {first second : Char} (lower : first < second)
    (rest others : List UInt8) :
    String.utf8EncodeChar first ++ rest < String.utf8EncodeChar second ++ others := by
  have less : first.val.toNat < second.val.toNat := UInt32.lt_iff_toNat_lt.1 lower
  have limit : second.val.toNat < 0x110000 := by
    have valid := second.valid
    simp only [UInt32.isValidChar, Nat.isValidChar] at valid
    omega
  unfold String.utf8EncodeChar
  dsimp only
  generalize first.val.toNat = low at less ⊢
  generalize second.val.toNat = high at less limit ⊢
  have twoDigits : ∀ value : Nat, value / 4096 = value / 64 / 64 := by omega
  have threeDigits : ∀ value : Nat, value / 262144 = value / 64 / 64 / 64 := by omega
  -- An encoding of more bytes starts with a higher one; among encodings of the same
  -- number of bytes the bytes are the digits of the code point.
  split_ifs <;>
    simp (disch := omega) only [twoDigits, threeDigits, List.cons_append,
      List.nil_append, cons_ofNat_lt_iff] <;>
    omega

theorem flatMap_utf8EncodeChar_lt {first second : List Char} (lower : first < second) :
    first.flatMap String.utf8EncodeChar < second.flatMap String.utf8EncodeChar := by
  induction lower with
  | @nil head tail =>
      rw [List.flatMap_cons]
      rcases List.exists_cons_of_ne_nil String.utf8EncodeChar_ne_nil with ⟨first, others, encoded⟩
      rw [encoded]
      exact List.nil_lt_cons _ _
  | rel lower =>
      rw [List.flatMap_cons, List.flatMap_cons]
      exact utf8EncodeChar_append_lt lower _ _
  | cons lower induction =>
      rw [List.flatMap_cons, List.flatMap_cons]
      exact List.append_left_lt induction

theorem bytes_lt_iff (first second : String) : bytes first < bytes second ↔ first < second := by
  have keeps : ∀ {first second : String}, first < second → bytes first < bytes second := by
    intro first second lower
    rw [bytes_eq_flatMap, bytes_eq_flatMap]
    exact flatMap_utf8EncodeChar_lt lower
  constructor
  · intro lower
    rcases Std.lt_trichotomy first second with before | same | after
    · exact before
    · exact absurd (same ▸ lower) (List.lt_irrefl _)
    · exact absurd lower (List.lt_asymm (keeps after))
  · exact keeps

/-! ## ASCII -/

theorem utf8EncodeChar_of_ascii {c : Char} (ascii : c.toNat < 128) :
    String.utf8EncodeChar c = [UInt8.ofNat c.toNat] := by
  have small : c.val.toNat ≤ 127 := Nat.le_of_lt_succ ascii
  rw [String.utf8EncodeChar, if_pos small]
  rfl

theorem exists_high_byte {c : Char} (notAscii : ¬ c.toNat < 128) :
    ∃ byte ∈ String.utf8EncodeChar c, 128 ≤ byte.toNat := by
  have large : ¬ c.val.toNat ≤ 127 := fun small => notAscii (Nat.lt_succ_of_le small)
  unfold String.utf8EncodeChar
  dsimp only
  rw [if_neg large]
  split_ifs <;>
    exact ⟨_, List.mem_cons_self, by rw [UInt8.toNat_ofNat']; omega⟩

theorem bytes_of_ascii {content : String} (ascii : ∀ c ∈ content.toList, c.toNat < 128) :
    bytes content = content.toList.map fun c => UInt8.ofNat c.toNat := by
  rw [bytes_eq_flatMap, List.map_eq_flatMap]
  exact List.flatMap_congr fun c member => utf8EncodeChar_of_ascii (ascii c member)

theorem ascii_of_bytes {content : String} (low : ∀ byte ∈ bytes content, byte.toNat < 128) :
    ∀ c ∈ content.toList, c.toNat < 128 := by
  intro c member
  by_contra notAscii
  rcases exists_high_byte notAscii with ⟨byte, inEncoding, high⟩
  have inBytes : byte ∈ bytes content := by
    rw [bytes_eq_flatMap]
    exact List.mem_flatMap.2 ⟨c, member, inEncoding⟩
  exact absurd (low byte inBytes) (Nat.not_lt.2 high)

end BucketReplication.Text
