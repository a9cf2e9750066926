import HttpInspection.Proofs.Occurrence

/-!
# Byte offsets

Searching goes scalar by scalar and counts bytes.  The bytes of a scalar are one leading byte and
continuing bytes, so the bytes of a text that is not empty can stand in the bytes of another only
where a scalar begins, and the offset that a search gives is the first one at which they stand.
Lower case and lines may be taken of the bytes as well as of the text.
-/

set_option autoImplicit false

namespace HttpInspection

/-- The lower-case form of the byte of an ASCII capital; every other byte stays. -/
def Lowercase.asciiByte (b : UInt8) : UInt8 :=
  if 0x41 ≤ b ∧ b ≤ 0x5A then b + 0x20 else b

/-- Bytes stand in a line at an offset, regardless of the case of ASCII letters. -/
def StandsAt (needle line : List UInt8) (offset : Nat) : Prop :=
  ((line.drop offset).take needle.length).map Lowercase.asciiByte =
    needle.map Lowercase.asciiByte

/-- The lines of bytes; a line feed ends a line and begins another. -/
def byteLines (bytes : List UInt8) : List (List UInt8) :=
  splitAtEvery (· == 0x0A) bytes

namespace Utf8

/-- A byte that continues a scalar. -/
def Continues (b : UInt8) : Prop := 0x80 ≤ b.toNat ∧ b.toNat < 0xC0

theorem continues_tail (n : Nat) : Continues (0x80 + n % 0x40).toUInt8 := by
  unfold Continues
  rw [toNat_toUInt8 _ (by omega)]
  omega

/-! ## The bytes of one scalar -/

/-- Bytes of one scalar: the first begins it, the others continue it. -/
def OneScalar (bytes : List UInt8) : Prop :=
  ∃ b rest, bytes = b :: rest ∧ ¬ Continues b ∧ ∀ other ∈ rest, Continues other

theorem oneScalar_of_leading (n : Nat) (rest : List UInt8) (small : n < 256)
    (leading : n < 0x80 ∨ 0xC0 ≤ n) (continuing : ∀ other ∈ rest, Continues other) :
    OneScalar (n.toUInt8 :: rest) := by
  refine ⟨n.toUInt8, rest, rfl, ?_, continuing⟩
  unfold Continues
  rw [toNat_toUInt8 n small]
  omega

theorem encodeChar_oneScalar (c : Char) : OneScalar (encodeChar c) := by
  have scalar : c.toNat < 0xD800 ∨ 0xDFFF < c.toNat ∧ c.toNat < 0x110000 := c.valid
  simp only [encodeChar]
  by_cases one : c.toNat < 0x80
  · rw [if_pos one]
    exact oneScalar_of_leading _ _ (by omega) (by omega) (by simp)
  · rw [if_neg one]
    by_cases two : c.toNat < 0x800
    · rw [if_pos two]
      refine oneScalar_of_leading _ _ (by omega) (by omega) ?_
      exact List.forall_mem_singleton.mpr (continues_tail _)
    · rw [if_neg two]
      by_cases three : c.toNat < 0x10000
      · rw [if_pos three]
        refine oneScalar_of_leading _ _ (by omega) (by omega) (List.forall_mem_cons.mpr ?_)
        exact ⟨continues_tail _, List.forall_mem_singleton.mpr (continues_tail _)⟩
      · rw [if_neg three]
        refine oneScalar_of_leading _ _ (by omega) (by omega) (List.forall_mem_cons.mpr ?_)
        refine ⟨continues_tail _, List.forall_mem_cons.mpr ?_⟩
        exact ⟨continues_tail _, List.forall_mem_singleton.mpr (continues_tail _)⟩

theorem le_of_mem_encodeChar (c : Char) (large : 0x80 ≤ c.toNat) (b : UInt8)
    (member : b ∈ encodeChar c) : 0x80 ≤ b.toNat := by
  have scalar : c.toNat < 0xD800 ∨ 0xDFFF < c.toNat ∧ c.toNat < 0x110000 := c.valid
  have within (n : Nat) (low : 0x80 ≤ n) (small : n < 256) (same : b = n.toUInt8) :
      0x80 ≤ b.toNat := by
    rw [same, toNat_toUInt8 n small]
    exact low
  simp only [encodeChar, if_neg (Nat.not_lt.mpr large)] at member
  split at member
  · simp only [List.mem_cons, List.not_mem_nil, or_false] at member
    rcases member with first | second
    · exact within _ (by omega) (by omega) first
    · exact within _ (by omega) (by omega) second
  · split at member
    · simp only [List.mem_cons, List.not_mem_nil, or_false] at member
      rcases member with first | second | third
      · exact within _ (by omega) (by omega) first
      · exact within _ (by omega) (by omega) second
      · exact within _ (by omega) (by omega) third
    · simp only [List.mem_cons, List.not_mem_nil, or_false] at member
      rcases member with first | second | third | fourth
      · exact within _ (by omega) (by omega) first
      · exact within _ (by omega) (by omega) second
      · exact within _ (by omega) (by omega) third
      · exact within _ (by omega) (by omega) fourth

/-! ## Where a text can stand in another -/

theorem encode_isPrefix_iff (needle text : List Char) :
    encode needle <+: encode text ↔ needle <+: text := by
  constructor
  · rintro ⟨rest, written⟩
    have read : decodeLossy (encode needle ++ rest) = needle ++ decodeLossy rest := by
      clear written
      induction needle with
      | nil => rfl
      | cons c needle ih =>
          simp only [decodeLossy] at ih ⊢
          rw [encode_cons, List.append_assoc, decodeAfter_encodeChar, ih, List.cons_append]
    rw [written, decodeLossy_encode] at read
    exact ⟨decodeLossy rest, read.symm⟩
  · rintro ⟨rest, rfl⟩
    exact ⟨encode rest, (encode_append needle rest).symm⟩

/-- A byte that does not continue a scalar begins one. -/
theorem exists_boundary (text : List Char) (offset : Nat) (b : UInt8) (rest : List UInt8)
    (here : (encode text).drop offset = b :: rest) (leading : ¬ Continues b) :
    ∃ front back, text = front ++ back ∧ byteLength front = offset := by
  induction text generalizing offset with
  | nil => simp [encode] at here
  | cons c text ih =>
      rw [encode_cons] at here
      by_cases start : offset = 0
      · exact ⟨[], c :: text, rfl, start.symm⟩
      · by_cases inside : offset < (encodeChar c).length
        · exfalso
          obtain ⟨first, others, written, -, continuing⟩ := encodeChar_oneScalar c
          obtain ⟨before, rfl⟩ := Nat.exists_eq_succ_of_ne_zero start
          rw [written, List.cons_append, List.drop_succ_cons, List.drop_append_of_le_length] at here
          · have member : b ∈ others.drop before := by
              cases left : others.drop before with
              | nil =>
                  have shorter := List.drop_eq_nil_iff.mp left
                  rw [written, List.length_cons] at inside
                  omega
              | cons other later =>
                  rw [left, List.cons_append, List.cons.injEq] at here
                  simp [here.1]
            exact leading (continuing b (List.mem_of_mem_drop member))
          · rw [written, List.length_cons] at inside
            omega
        · have passed : (encodeChar c).drop offset = [] := List.drop_eq_nil_of_le (by omega)
          have behind : (encode text).drop (offset - (encodeChar c).length) = b :: rest := by
            rw [← here, List.drop_append, passed, List.nil_append]
          obtain ⟨front, back, rfl, size⟩ := ih _ behind
          refine ⟨c :: front, back, rfl, ?_⟩
          simp only [byteLength, encode_cons, List.length_append] at size ⊢
          omega

theorem encode_isPrefix_drop_iff (needle text : List Char) (some : needle ≠ []) (offset : Nat) :
    encode needle <+: (encode text).drop offset ↔
      ∃ front back, text = front ++ back ∧ byteLength front = offset ∧ needle <+: back := by
  have dropped (front back : List Char) :
      (encode (front ++ back)).drop (byteLength front) = encode back := by
    rw [encode_append, byteLength, List.drop_left]
  constructor
  · rintro ⟨rest, stands⟩
    obtain ⟨c, others, rfl⟩ := List.exists_cons_of_ne_nil some
    obtain ⟨b, bytes, written, leading, -⟩ := encodeChar_oneScalar c
    have here : (encode text).drop offset = b :: (bytes ++ encode others ++ rest) := by
      rw [← stands, encode_cons, written]
      simp
    obtain ⟨front, back, rfl, size⟩ := exists_boundary text offset b _ here leading
    refine ⟨front, back, rfl, size, ?_⟩
    rw [← encode_isPrefix_iff, ← dropped front back, size]
    exact ⟨rest, stands⟩
  · rintro ⟨front, back, rfl, rfl, begins⟩
    rw [dropped, encode_isPrefix_iff]
    exact begins

/-! ## Lower case -/

theorem encodeChar_asciiChar (c : Char) :
    encodeChar (Lowercase.asciiChar c) = (encodeChar c).map Lowercase.asciiByte := by
  by_cases capital : Lowercase.isAsciiCapital c = true
  · have range : 65 ≤ c.toNat ∧ c.toNat ≤ 90 := by
      simpa [Lowercase.isAsciiCapital, Char.le_def, UInt32.le_iff_toNat_le] using capital
    have lowered : (Char.ofNat (c.toNat + 32)).toNat = c.toNat + 32 :=
      toNat_ofNat_ascii _ (by omega)
    rw [Lowercase.asciiChar, if_pos capital, encodeChar_of_ascii _ (by omega),
      encodeChar_of_ascii c (by omega), lowered, List.map_singleton, Lowercase.asciiByte, if_pos]
    · simp [Nat.toUInt8_eq]
    · simp only [UInt8.le_iff_toNat_le, toNat_toUInt8 c.toNat (by omega)]
      exact range
  · have outside : ¬ (65 ≤ c.toNat ∧ c.toNat ≤ 90) := by
      simpa [Lowercase.isAsciiCapital, Char.le_def, UInt32.le_iff_toNat_le] using capital
    have kept : ∀ b ∈ encodeChar c, Lowercase.asciiByte b = id b := by
      intro b member
      refine if_neg ?_
      simp only [UInt8.le_iff_toNat_le]
      change ¬ (65 ≤ b.toNat ∧ b.toNat ≤ 90)
      by_cases ascii : c.toNat < 0x80
      · rw [encodeChar_of_ascii c ascii, List.mem_singleton] at member
        rw [member, toNat_toUInt8 _ (by omega)]
        exact outside
      · have beyond := le_of_mem_encodeChar c (by omega) b member
        omega
    rw [Lowercase.asciiChar, if_neg capital, List.map_congr_left kept, List.map_id]

theorem encode_ascii_lower (text : List Char) :
    encode (Lowercase.ascii text) = (encode text).map Lowercase.asciiByte := by
  induction text with
  | nil => rfl
  | cons c rest ih =>
      rw [Lowercase.ascii, List.map_cons, encode_cons, encode_cons, List.map_append,
        ← encodeChar_asciiChar, ← ih, Lowercase.ascii]

/-! ## Lines -/

theorem byteLines_encode (text : List Char) :
    byteLines (encode text) = (splitLines text).map encode := by
  induction text with
  | nil => rfl
  | cons c rest ih =>
      unfold byteLines splitLines at ih ⊢
      rw [encode_cons]
      by_cases newline : c = '\n'
      · subst newline
        rw [splitAtEvery_separator _ _ _ (by decide), List.map_cons, ← ih]
        exact splitAtEvery_separator _ _ _ (by decide)
      · obtain ⟨piece, pieces, cut⟩ := exists_first_piece (· == '\n') rest
        rw [cut, List.map_cons] at ih
        rw [splitAtEvery_ordinary _ c rest piece pieces (by simpa using newline) cut,
          splitAtEvery_append _ (encodeChar c) (encode rest) _ _ ?_ ih, List.map_cons,
          encode_cons]
        intro b member
        rw [beq_eq_false_iff_ne]
        rintro rfl
        by_cases ascii : c.toNat < 0x80
        · rw [encodeChar_of_ascii c ascii, List.mem_singleton] at member
          refine newline (Char.toNat_inj.mp ?_)
          rw [← toNat_toUInt8 c.toNat (by omega), ← member]
          rfl
        · have beyond := le_of_mem_encodeChar c (by omega) _ member
          exact absurd beyond (by decide)

end Utf8

/-! ## The offset that a search gives -/

theorem standsAt_encode_iff (needle line : List Char) (offset : Nat) :
    StandsAt (Utf8.encode needle) (Utf8.encode line) offset ↔
      Utf8.encode (Lowercase.ascii needle) <+:
        (Utf8.encode (Lowercase.ascii line)).drop offset := by
  rw [List.prefix_iff_eq_take, Utf8.encode_ascii_lower, Utf8.encode_ascii_lower, List.length_map,
    ← List.map_drop, ← List.map_take, StandsAt, eq_comm]

section Search
variable {α : Type} [BEq α] [LawfulBEq α]

theorem beforeFirst_eq_some (needle text front : List α)
    (found : beforeFirst? needle text = some front) :
    (∃ back, text = front ++ back ∧ needle <+: back) ∧
      ∀ other back, text = other ++ back → needle <+: back → front.length ≤ other.length := by
  induction text generalizing front with
  | nil =>
      cases needle with
      | nil =>
          cases found
          exact ⟨⟨[], rfl, List.nil_prefix⟩, by simp⟩
      | cons a needle => cases found
  | cons a rest ih =>
      by_cases here : startsWith needle (a :: rest) = true
      · rw [beforeFirst?, if_pos here] at found
        cases found
        exact ⟨⟨a :: rest, rfl, (startsWith_iff _ _).mp here⟩, by simp⟩
      · rw [beforeFirst?, if_neg here] at found
        obtain ⟨behind, later, rfl⟩ := Option.map_eq_some_iff.mp found
        obtain ⟨⟨back, rfl, begins⟩, first⟩ := ih behind later
        refine ⟨⟨back, rfl, begins⟩, ?_⟩
        intro other rear same starts
        cases other with
        | nil =>
            rw [List.nil_append] at same
            rw [startsWith_iff, same] at here
            exact absurd starts here
        | cons b other =>
            rw [List.cons_append, List.cons.injEq] at same
            have shorter := first other rear same.2 starts
            simpa using shorter

end Search

/-- The offset of a search is the first byte at which the needle stands. -/
theorem standsAt_of_offsetIn (needle line : List Char) (some : needle ≠ []) (offset : Nat)
    (found : offsetIn? needle line = .some offset) :
    StandsAt (Utf8.encode needle) (Utf8.encode line) offset ∧
      ∀ smaller < offset, ¬ StandsAt (Utf8.encode needle) (Utf8.encode line) smaller := by
  have lowered : Lowercase.ascii needle ≠ [] := by simpa [Lowercase.ascii] using some
  obtain ⟨front, before, rfl⟩ := Option.map_eq_some_iff.mp found
  obtain ⟨⟨back, whole, begins⟩, first⟩ := beforeFirst_eq_some _ _ _ before
  simp only [standsAt_encode_iff, Utf8.encode_isPrefix_drop_iff _ _ lowered]
  refine ⟨⟨front, back, whole, rfl, begins⟩, ?_⟩
  rintro smaller less ⟨other, rear, same, rfl, starts⟩
  have fewer := first other rear same starts
  -- Both are prefixes of the line, and `front` is the shorter one.
  have short : front <+: Lowercase.ascii line := ⟨back, whole.symm⟩
  have long : other <+: Lowercase.ascii line := ⟨rear, same.symm⟩
  have inside : front <+: other := List.prefix_of_prefix_length_le short long fewer
  obtain ⟨between, rfl⟩ := inside
  simp only [Utf8.byteLength, Utf8.encode_append, List.length_append] at less
  omega

theorem not_standsAt_of_offsetIn (needle line : List Char) (some : needle ≠ [])
    (missed : offsetIn? needle line = none) (offset : Nat) :
    ¬ StandsAt (Utf8.encode needle) (Utf8.encode line) offset := by
  have lowered : Lowercase.ascii needle ≠ [] := by simpa [Lowercase.ascii] using some
  have absent : ¬ Lowercase.ascii needle <:+: Lowercase.ascii line := by
    rw [← offsetIn_isSome_iff, missed]
    exact Bool.false_ne_true
  rw [standsAt_encode_iff, Utf8.encode_isPrefix_drop_iff _ _ lowered]
  rintro ⟨front, back, whole, -, begins⟩
  refine absent ?_
  rw [whole]
  exact begins.isInfix.trans (List.suffix_append _ _).isInfix

end HttpInspection
