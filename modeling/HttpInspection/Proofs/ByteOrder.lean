import HttpInspection.Proofs.Utf8

/-!
# The order of texts and of their bytes

Texts are compared scalar by scalar.  UTF-8 keeps this order: the bytes of the greater of two scalars
are greater at the first place where they differ, and so are the bytes of the greater of two texts.
-/

set_option autoImplicit false

namespace HttpInspection

namespace Utf8

theorem toUInt8_cons_lt_iff (a b : Nat) (aSmall : a < 256) (bSmall : b < 256) (x y : List UInt8) :
    a.toUInt8 :: x < b.toUInt8 :: y ↔ a < b ∨ a = b ∧ x < y := by
  rw [List.cons_lt_cons_iff, UInt8.lt_iff_toNat_lt, ← UInt8.toNat_inj, toNat_toUInt8 a aSmall,
    toNat_toUInt8 b bSmall]

/-- Scalars of one length: the first byte in which they differ decides.  Of different lengths, the
leading byte of the longer one is greater. -/
theorem encodeChar_append_lt (c d : Char) (less : c.toNat < d.toNat) (x y : List UInt8) :
    encodeChar c ++ x < encodeChar d ++ y := by
  have bound : d.toNat < 0x110000 := by
    have scalar : d.toNat < 0xD800 ∨ 0xDFFF < d.toNat ∧ d.toNat < 0x110000 := d.valid
    omega
  simp only [encodeChar]
  generalize c.toNat = n at *
  generalize d.toNat = m at *
  -- One case for each pair of lengths; those in which the smaller scalar is longer cannot be.
  repeat' split
  all_goals
    simp only [List.cons_append, List.nil_append]
    simp (disch := omega) only [toUInt8_cons_lt_iff]
    omega

theorem encode_lt_of_lt (front back : List Char) (less : front < back) :
    encode front < encode back := by
  induction less with
  | @nil c rest =>
      have written : encodeChar c ≠ [] := by
        simp only [encodeChar]
        repeat' split
        all_goals exact List.cons_ne_nil _ _
      obtain ⟨b, bytes, leading⟩ := List.exists_cons_of_ne_nil written
      rw [encode_cons, leading]
      exact List.nil_lt_cons _ _
  | @rel c front d back smaller =>
      rw [encode_cons, encode_cons]
      exact encodeChar_append_lt c d smaller _ _
  | @cons c front back less ih =>
      rw [encode_cons, encode_cons]
      exact List.append_left_lt ih

end Utf8

theorem bytesOf_lt_of_lt (one other : String) (less : one < other) :
    bytesOf one < bytesOf other :=
  Utf8.encode_lt_of_lt _ _ less

end HttpInspection
