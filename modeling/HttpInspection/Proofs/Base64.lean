import HttpInspection.LogEntry
import HttpInspection.Proofs.Utf8

/-!
# Base64 is undone

The padded text of any bytes is canonical, so `decode?` gives the bytes back.  The letters are
ASCII, and therefore the bytes of the text are the letters.
-/

set_option autoImplicit false

namespace HttpInspection.Base64

/-! ## Letters -/

theorem value_letter : ∀ n < 64, value? (letter n) = some n := by
  decide

theorem letter_ne_padding : ∀ n < 64, letter n ≠ padding := by
  decide

theorem letter_ascii : ∀ n < 64, letter n < 0x80 := by
  decide

theorem eq_toUInt8 (b : UInt8) (n : Nat) (same : n = b.toNat) : n.toUInt8 = b := by
  subst same
  exact UInt8.ofNat_toNat

/-! ## Groups -/

theorem decodeOne_letters (a : UInt8) :
    decodeOne? (letter (a.toNat / 4)) (letter (a.toNat % 4 * 16)) = some [a] := by
  have bound := a.toNat_lt
  have first := value_letter (a.toNat / 4) (by omega)
  have second := value_letter (a.toNat % 4 * 16) (by omega)
  have byte := eq_toUInt8 a (a.toNat / 4 * 4 + a.toNat % 4 * 16 / 16) (by omega)
  simp only [decodeOne?, first, second, Option.bind_eq_bind, Option.bind_some]
  rw [if_pos (by omega), byte]

theorem decodeTwo_letters (a b : UInt8) :
    decodeTwo? (letter (a.toNat / 4)) (letter (a.toNat % 4 * 16 + b.toNat / 16))
      (letter (b.toNat % 16 * 4)) = some [a, b] := by
  have boundA := a.toNat_lt
  have boundB := b.toNat_lt
  have first := value_letter (a.toNat / 4) (by omega)
  have second := value_letter (a.toNat % 4 * 16 + b.toNat / 16) (by omega)
  have third := value_letter (b.toNat % 16 * 4) (by omega)
  have byteA := eq_toUInt8 a (a.toNat / 4 * 4 + (a.toNat % 4 * 16 + b.toNat / 16) / 16) (by omega)
  have byteB := eq_toUInt8 b
    ((a.toNat % 4 * 16 + b.toNat / 16) % 16 * 16 + b.toNat % 16 * 4 / 4) (by omega)
  simp only [decodeTwo?, first, second, third, Option.bind_eq_bind, Option.bind_some]
  rw [if_pos (by omega), byteA, byteB]

theorem decodeThree_letters (a b c : UInt8) :
    decodeThree? (letter (a.toNat / 4)) (letter (a.toNat % 4 * 16 + b.toNat / 16))
      (letter (b.toNat % 16 * 4 + c.toNat / 64)) (letter (c.toNat % 64)) = some [a, b, c] := by
  have boundA := a.toNat_lt
  have boundB := b.toNat_lt
  have boundC := c.toNat_lt
  have first := value_letter (a.toNat / 4) (by omega)
  have second := value_letter (a.toNat % 4 * 16 + b.toNat / 16) (by omega)
  have third := value_letter (b.toNat % 16 * 4 + c.toNat / 64) (by omega)
  have fourth := value_letter (c.toNat % 64) (by omega)
  have byteA := eq_toUInt8 a (a.toNat / 4 * 4 + (a.toNat % 4 * 16 + b.toNat / 16) / 16) (by omega)
  have byteB := eq_toUInt8 b ((a.toNat % 4 * 16 + b.toNat / 16) % 16 * 16 +
    (b.toNat % 16 * 4 + c.toNat / 64) / 4) (by omega)
  have byteC := eq_toUInt8 c ((b.toNat % 16 * 4 + c.toNat / 64) % 4 * 64 + c.toNat % 64) (by omega)
  simp only [decodeThree?, first, second, third, fourth, Option.bind_eq_bind, Option.bind_some]
  rw [byteA, byteB, byteC]

/-! ## Texts -/

theorem decode_encode (bytes : List UInt8) : decode? (encode bytes) = some bytes := by
  induction bytes using encode.induct with
  | case1 => rfl
  | case2 a =>
      simp only [encode, decode?, List.isEmpty_nil, if_true]
      exact decodeOne_letters a
  | case3 a b =>
      have unpadded := letter_ne_padding (b.toNat % 16 * 4) (by omega)
      simp only [encode, decode?, List.isEmpty_nil, if_true, if_neg unpadded]
      exact decodeTwo_letters a b
  | case4 a b c rest ih =>
      have unpadded := letter_ne_padding (c.toNat % 64) (by omega)
      simp only [encode, decode?, if_neg unpadded, decodeThree_letters, ih, Option.bind_eq_bind,
        Option.bind_some]
      rfl

theorem encode_ascii (bytes : List UInt8) : ∀ b ∈ encode bytes, b < 0x80 := by
  have ascii : padding < 0x80 := by decide
  induction bytes using encode.induct with
  | case1 => intro b member; simp [encode] at member
  | case2 a =>
      have bound := a.toNat_lt
      simp only [encode, List.forall_mem_cons, List.not_mem_nil, false_implies, implies_true,
        and_true]
      exact ⟨letter_ascii _ (by omega), letter_ascii _ (by omega), ascii, ascii⟩
  | case3 a b =>
      have boundA := a.toNat_lt
      have boundB := b.toNat_lt
      simp only [encode, List.forall_mem_cons, List.not_mem_nil, false_implies, implies_true,
        and_true]
      exact ⟨letter_ascii _ (by omega), letter_ascii _ (by omega), letter_ascii _ (by omega), ascii⟩
  | case4 a b c rest ih =>
      have boundA := a.toNat_lt
      have boundB := b.toNat_lt
      have boundC := c.toNat_lt
      simp only [encode, List.forall_mem_cons]
      exact ⟨letter_ascii _ (by omega), letter_ascii _ (by omega), letter_ascii _ (by omega),
        letter_ascii _ (by omega), ih⟩

theorem bytesOf_ofString (bytes : List UInt8) : bytesOf (ofString bytes) = encode bytes := by
  rw [bytesOf, ofString, String.toList_ofList]
  exact Utf8.encode_ascii (encode bytes) (encode_ascii bytes)

end HttpInspection.Base64

namespace HttpInspection

theorem decode_base64Text (raw : String) :
    Base64.decode? (bytesOf (base64Text raw)) = some (bytesOf raw) := by
  rw [base64Text, Base64.bytesOf_ofString, Base64.decode_encode]

end HttpInspection
