import HttpInspection.Text.Utf8

/-!
# Reading what was written, and reading piece by piece

The lossy reading of a text that was written in UTF-8 is the text.  An ASCII byte is never part of a
longer scalar, so the reading of bytes around it is the reading of the bytes before it and of those
after it, each by itself: what is ill formed on one side has no influence on the other.  Nor is an
ASCII scalar other than NUL ever read from anything but its byte.
-/

set_option autoImplicit false

namespace HttpInspection.Utf8

theorem toNat_toUInt8 (n : Nat) (small : n < 256) : n.toUInt8.toNat = n := by
  simp [Nat.mod_eq_of_lt small]

theorem encode_append (front back : List Char) :
    encode (front ++ back) = encode front ++ encode back :=
  List.flatMap_append

theorem encode_cons (c : Char) (rest : List Char) :
    encode (c :: rest) = encodeChar c ++ encode rest :=
  List.flatMap_cons

theorem decodeAfter_cons (pending : Option Pending) (b : UInt8) (rest : List UInt8) :
    decodeAfter pending (b :: rest) =
      (step pending b).1 ++ decodeAfter (step pending b).2 rest := by
  cases pending <;> rfl

/-! ## Reading one scalar -/

theorem decodeAfter_single (n : Nat) (ascii : n < 0x80) (rest : List UInt8) :
    decodeAfter none (n.toUInt8 :: rest) = Char.ofNat n :: decodeAfter none rest := by
  have exact := toNat_toUInt8 n (by omega)
  rw [decodeAfter_cons]
  simp only [step, begin, lead, exact, if_pos ascii]
  rfl

theorem decodeAfter_multi (n : Nat) (pending : Pending)
    (announced : lead n.toUInt8 = .multi pending) (rest : List UInt8) :
    decodeAfter none (n.toUInt8 :: rest) = decodeAfter (some pending) rest := by
  rw [decodeAfter_cons]
  simp only [step, begin, announced]
  rfl

/-- The byte that carries the six lowest bits of a number behind the leading byte. -/
def tail (n : Nat) : Nat := 0x80 + n % 0x40

theorem tail_lt (n : Nat) : tail n < 256 := by
  unfold tail
  omega

theorem tail_low (n : Nat) : (0x80 : UInt8).toNat ≤ tail n := by
  change 0x80 ≤ 0x80 + n % 0x40
  omega

theorem tail_high (n : Nat) : tail n ≤ (0xBF : UInt8).toNat := by
  change 0x80 + n % 0x40 ≤ 0xBF
  omega

theorem tail_bits (n : Nat) : (tail n).toUInt8.toNat % 0x40 = n % 0x40 := by
  rw [toNat_toUInt8 _ (tail_lt n)]
  unfold tail
  omega

theorem tail_within (low high : UInt8) (n : Nat) (above : low.toNat ≤ tail n)
    (below : tail n ≤ high.toNat) : low ≤ (tail n).toUInt8 ∧ (tail n).toUInt8 ≤ high := by
  simp only [UInt8.le_iff_toNat_le, toNat_toUInt8 _ (tail_lt n)]
  exact ⟨above, below⟩

theorem decodeAfter_last (value n : Nat) (low high : UInt8) (rest : List UInt8)
    (above : low.toNat ≤ tail n) (below : tail n ≤ high.toNat) :
    decodeAfter (some ⟨value, low, high, 0⟩) ((tail n).toUInt8 :: rest) =
      Char.ofNat (value * 0x40 + n % 0x40) :: decodeAfter none rest := by
  rw [decodeAfter_cons]
  simp only [step, if_pos (tail_within low high n above below), tail_bits]
  rfl

theorem decodeAfter_more (value n more : Nat) (low high : UInt8) (rest : List UInt8)
    (above : low.toNat ≤ tail n) (below : tail n ≤ high.toNat) :
    decodeAfter (some ⟨value, low, high, more + 1⟩) ((tail n).toUInt8 :: rest) =
      decodeAfter (some ⟨value * 0x40 + n % 0x40, 0x80, 0xBF, more⟩) rest := by
  rw [decodeAfter_cons]
  simp only [step, if_pos (tail_within low high n above below), tail_bits]
  rfl

theorem lead_of_two (n : Nat) (large : 0x80 ≤ n) (small : n < 0x800) :
    lead (0xC0 + n / 0x40).toUInt8 = .multi ⟨n / 0x40, 0x80, 0xBF, 0⟩ := by
  have exact := toNat_toUInt8 (0xC0 + n / 0x40) (by omega)
  simp only [lead, exact]
  rw [if_neg (by omega), if_neg (by omega), if_pos (by omega), Nat.add_sub_cancel_left]

/-- The range after the leading byte of three excludes overlong forms and surrogates alone. -/
theorem lead_of_three (n : Nat) (large : 0x800 ≤ n) (small : n < 0x10000)
    (scalar : n < 0xD800 ∨ 0xDFFF < n) :
    ∃ low high : UInt8, low.toNat ≤ tail (n / 0x40) ∧ tail (n / 0x40) ≤ high.toNat ∧
      lead (0xE0 + n / 0x1000).toUInt8 = .multi ⟨n / 0x1000, low, high, 1⟩ := by
  have exact := toNat_toUInt8 (0xE0 + n / 0x1000) (by omega)
  simp only [lead, exact]
  rw [if_neg (by omega), if_neg (by omega), if_neg (by omega)]
  by_cases overlong : n / 0x1000 = 0
  · refine ⟨0xA0, 0xBF, ?_, tail_high _, ?_⟩
    · change 0xA0 ≤ 0x80 + n / 0x40 % 0x40
      omega
    · rw [if_pos (by omega), overlong]
  · rw [if_neg (by omega)]
    by_cases surrogates : n / 0x1000 = 0xD
    · refine ⟨0x80, 0x9F, tail_low _, ?_, ?_⟩
      · change 0x80 + n / 0x40 % 0x40 ≤ 0x9F
        omega
      · rw [if_pos (by omega), surrogates]
    · refine ⟨0x80, 0xBF, tail_low _, tail_high _, ?_⟩
      rw [if_neg (by omega), if_pos (by omega), Nat.add_sub_cancel_left]

/-- The range after the leading byte of four excludes overlong forms and values that are too large
alone. -/
theorem lead_of_four (n : Nat) (large : 0x10000 ≤ n) (small : n < 0x110000) :
    ∃ low high : UInt8, low.toNat ≤ tail (n / 0x1000) ∧ tail (n / 0x1000) ≤ high.toNat ∧
      lead (0xF0 + n / 0x40000).toUInt8 = .multi ⟨n / 0x40000, low, high, 2⟩ := by
  have exact := toNat_toUInt8 (0xF0 + n / 0x40000) (by omega)
  simp only [lead, exact]
  -- The six tests before are those of shorter forms and of their special leading bytes.
  rw [if_neg (by omega), if_neg (by omega), if_neg (by omega), if_neg (by omega),
    if_neg (by omega), if_neg (by omega)]
  by_cases overlong : n / 0x40000 = 0
  · refine ⟨0x90, 0xBF, ?_, tail_high _, ?_⟩
    · change 0x90 ≤ 0x80 + n / 0x1000 % 0x40
      omega
    · rw [if_pos (by omega), overlong]
  · rw [if_neg (by omega)]
    by_cases last : n / 0x40000 = 4
    · refine ⟨0x80, 0x8F, tail_low _, ?_, ?_⟩
      · change 0x80 + n / 0x1000 % 0x40 ≤ 0x8F
        omega
      · rw [if_neg (by omega), if_pos (by omega), last]
    · refine ⟨0x80, 0xBF, tail_low _, tail_high _, ?_⟩
      rw [if_pos (by omega), Nat.add_sub_cancel_left]

theorem decodeAfter_encodeChar (c : Char) (rest : List UInt8) :
    decodeAfter none (encodeChar c ++ rest) = c :: decodeAfter none rest := by
  have scalar : c.toNat < 0xD800 ∨ 0xDFFF < c.toNat ∧ c.toNat < 0x110000 := c.valid
  have same : Char.ofNat c.toNat = c := Char.ofNat_toNat c
  have written : ∀ n, 0x80 + n % 0x40 = tail n := fun _ => rfl
  simp only [encodeChar, written]
  by_cases one : c.toNat < 0x80
  · rw [if_pos one, List.cons_append, List.nil_append, decodeAfter_single c.toNat one, same]
  · rw [if_neg one]
    by_cases two : c.toNat < 0x800
    · have announced := lead_of_two c.toNat (by omega) two
      have value : c.toNat / 0x40 * 0x40 + c.toNat % 0x40 = c.toNat := by omega
      rw [if_pos two]
      simp only [List.cons_append, List.nil_append]
      rw [decodeAfter_multi _ _ announced,
        decodeAfter_last _ _ _ _ _ (tail_low _) (tail_high _), value, same]
    · rw [if_neg two]
      by_cases three : c.toNat < 0x10000
      · obtain ⟨low, high, above, below, announced⟩ :=
          lead_of_three c.toNat (by omega) three (by omega)
        have value : (c.toNat / 0x1000 * 0x40 + c.toNat / 0x40 % 0x40) * 0x40 +
            c.toNat % 0x40 = c.toNat := by omega
        rw [if_pos three]
        simp only [List.cons_append, List.nil_append]
        rw [decodeAfter_multi _ _ announced, decodeAfter_more _ _ _ _ _ _ above below,
          decodeAfter_last _ _ _ _ _ (tail_low _) (tail_high _), value, same]
      · obtain ⟨low, high, above, below, announced⟩ :=
          lead_of_four c.toNat (by omega) (by omega)
        have value : ((c.toNat / 0x40000 * 0x40 + c.toNat / 0x1000 % 0x40) * 0x40 +
            c.toNat / 0x40 % 0x40) * 0x40 + c.toNat % 0x40 = c.toNat := by omega
        rw [if_neg three]
        simp only [List.cons_append, List.nil_append]
        rw [decodeAfter_multi _ _ announced, decodeAfter_more _ _ _ _ _ _ above below,
          decodeAfter_more _ _ _ _ _ _ (tail_low _) (tail_high _),
          decodeAfter_last _ _ _ _ _ (tail_low _) (tail_high _), value, same]

theorem decodeLossy_encode (text : List Char) : decodeLossy (encode text) = text := by
  induction text with
  | nil => rfl
  | cons c rest ih =>
      simp only [decodeLossy] at ih ⊢
      rw [encode_cons, decodeAfter_encodeChar, ih]

/-! ## Cutting at an ASCII byte -/

/-- Only a byte beyond ASCII continues what is pending. -/
def BeyondAscii : Option Pending → Prop
  | none => True
  | some pending => 0x80 ≤ pending.low

theorem lead_beyondAscii (b : UInt8) (pending : Pending) (announced : lead b = .multi pending) :
    0x80 ≤ pending.low := by
  unfold lead at announced
  dsimp only at announced
  repeat' split at announced
  all_goals simp only [Lead.multi.injEq, reduceCtorEq] at announced
  all_goals subst announced
  all_goals simp [UInt8.le_iff_toNat_le]

theorem begin_beyondAscii (b : UInt8) : BeyondAscii (begin b).2 := by
  unfold begin
  cases announced : lead b with
  | single value => trivial
  | multi pending => exact lead_beyondAscii b pending announced
  | invalid => trivial

theorem step_beyondAscii (pending : Option Pending) (b : UInt8) :
    BeyondAscii (step pending b).2 := by
  cases pending with
  | none => exact begin_beyondAscii b
  | some pending =>
      obtain ⟨value, low, high, more⟩ := pending
      by_cases fits : low ≤ b ∧ b ≤ high
      · simp only [step, if_pos fits]
        cases more with
        | zero => trivial
        | succ more =>
            change (0x80 : UInt8) ≤ 0x80
            decide
      · simp only [step, if_neg fits]
        exact begin_beyondAscii b

theorem begin_ascii (b : UInt8) (ascii : b < 0x80) : begin b = ([Char.ofNat b.toNat], none) := by
  have small : b.toNat < 0x80 := ascii
  simp only [begin, lead, if_pos small]

theorem decodeAfter_ascii (pending : Option Pending) (beyond : BeyondAscii pending) (b : UInt8)
    (ascii : b < 0x80) (back : List UInt8) :
    decodeAfter pending (b :: back) =
      decodeAfter pending [] ++ Char.ofNat b.toNat :: decodeAfter none back := by
  rw [decodeAfter_cons]
  cases pending with
  | none => simp only [step, begin_ascii b ascii, decodeAfter, List.cons_append, List.nil_append]
  | some pending =>
      have outside : ¬ (pending.low ≤ b ∧ b ≤ pending.high) := by
        rintro ⟨above, -⟩
        have large : (0x80 : UInt8) ≤ b := UInt8.le_trans beyond above
        exact absurd ascii (UInt8.not_lt.mpr large)
      simp only [step, if_neg outside, begin_ascii b ascii, decodeAfter, List.cons_append,
        List.nil_append]

theorem decodeAfter_append_ascii (pending : Option Pending) (beyond : BeyondAscii pending)
    (front back : List UInt8) (b : UInt8) (ascii : b < 0x80) :
    decodeAfter pending (front ++ b :: back) =
      decodeAfter pending front ++ Char.ofNat b.toNat :: decodeAfter none back := by
  induction front generalizing pending with
  | nil => exact decodeAfter_ascii pending beyond b ascii back
  | cons first rest ih =>
      rw [List.cons_append, decodeAfter_cons, decodeAfter_cons pending first rest,
        ih _ (step_beyondAscii pending first), List.append_assoc]

theorem decodeLossy_append_ascii (front back : List UInt8) (b : UInt8) (ascii : b < 0x80) :
    decodeLossy (front ++ b :: back) =
      decodeLossy front ++ Char.ofNat b.toNat :: decodeLossy back :=
  decodeAfter_append_ascii none trivial front back b ascii

/-! ## Reading ASCII -/

/-- The least value that a number of further bytes can make of a value. -/
def leastAfter : Nat → Nat → Nat
  | 0, value => value
  | more + 1, value => leastAfter more (value * 0x40)

theorem leastAfter_mono (more value other : Nat) (le : value ≤ other) :
    leastAfter more value ≤ leastAfter more other := by
  induction more generalizing value other with
  | zero => exact le
  | succ more ih => exact ih _ _ (Nat.mul_le_mul_right _ le)

/-- Whatever bytes complete what is pending, the scalar is beyond ASCII. -/
def LeadsBeyondAscii : Option Pending → Prop
  | none => True
  | some pending =>
      0x80 ≤ pending.low.toNat ∧ pending.high.toNat ≤ 0xBF ∧
        0x80 ≤ leastAfter pending.more (pending.value * 0x40 + pending.low.toNat % 0x40)

theorem lead_leadsBeyondAscii (b : UInt8) (pending : Pending) (announced : lead b = .multi pending) :
    LeadsBeyondAscii (some pending) := by
  unfold lead at announced
  dsimp only at announced
  repeat' split at announced
  all_goals simp only [Lead.multi.injEq, reduceCtorEq] at announced
  all_goals subst announced
  -- The lead bytes and the ranges of the second byte keep out overlong forms.
  all_goals simp [LeadsBeyondAscii, leastAfter]
  all_goals omega

theorem begin_leadsBeyondAscii (b : UInt8) : LeadsBeyondAscii (begin b).2 := by
  unfold begin
  cases announced : lead b with
  | single value => trivial
  | multi pending => exact lead_leadsBeyondAscii b pending announced
  | invalid => trivial

/-- A byte that fits what is pending adds at least what the least such byte would. -/
theorem value_le_of_fits (value more : Nat) (low high b : UInt8)
    (beyond : LeadsBeyondAscii (some ⟨value, low, high, more⟩)) (fits : low ≤ b ∧ b ≤ high) :
    0x80 ≤ leastAfter more (value * 0x40 + b.toNat % 0x40) := by
  obtain ⟨lowest, highest, large⟩ := beyond
  have above : low.toNat ≤ b.toNat := fits.1
  have below : b.toNat ≤ high.toNat := fits.2
  have grown : value * 0x40 + low.toNat % 0x40 ≤ value * 0x40 + b.toNat % 0x40 := by
    simp only at lowest highest
    omega
  exact Nat.le_trans large (leastAfter_mono more _ _ grown)

theorem step_leadsBeyondAscii (pending : Option Pending) (beyond : LeadsBeyondAscii pending)
    (b : UInt8) : LeadsBeyondAscii (step pending b).2 := by
  cases pending with
  | none => exact begin_leadsBeyondAscii b
  | some pending =>
      obtain ⟨value, low, high, more⟩ := pending
      by_cases fits : low ≤ b ∧ b ≤ high
      · have large := value_le_of_fits value more low high b beyond fits
        simp only [step, if_pos fits]
        cases more with
        | zero => trivial
        | succ more =>
            simpa [LeadsBeyondAscii, leastAfter] using large
      · simp only [step, if_neg fits]
        exact begin_leadsBeyondAscii b

theorem lead_single (b : UInt8) (value : Nat) (announced : lead b = .single value) :
    value = b.toNat := by
  unfold lead at announced
  dsimp only at announced
  repeat' split at announced
  all_goals simp_all

theorem toNat_ofNat (n : Nat) : (Char.ofNat n).toNat = n ∨ (Char.ofNat n).toNat = 0 := by
  by_cases valid : n.isValidChar
  · rw [Char.ofNat, dif_pos valid]
    exact .inl rfl
  · rw [Char.ofNat, dif_neg valid]
    exact .inr rfl

section Ascii
variable (c : Char) (positive : 0 < c.toNat) (ascii : c.toNat < 0x80)
include positive ascii

theorem toNat_of_mem_begin (b : UInt8) (member : c ∈ (begin b).1) : c.toNat = b.toNat := by
  unfold begin at member
  cases announced : lead b with
  | single value =>
      rw [announced] at member
      have same := List.mem_singleton.mp member
      rcases toNat_ofNat value with read | nothing
      · rw [same, read, lead_single b value announced]
      · rw [← same] at nothing
        omega
  | multi pending =>
      rw [announced] at member
      exact absurd member List.not_mem_nil
  | invalid =>
      rw [announced] at member
      rw [List.mem_singleton.mp member] at ascii
      exact absurd ascii (by decide)

theorem toNat_of_mem_step (pending : Option Pending) (beyond : LeadsBeyondAscii pending) (b : UInt8)
    (member : c ∈ (step pending b).1) : c.toNat = b.toNat := by
  cases pending with
  | none => exact toNat_of_mem_begin c positive ascii b member
  | some pending =>
      obtain ⟨value, low, high, more⟩ := pending
      by_cases fits : low ≤ b ∧ b ≤ high
      · have large := value_le_of_fits value more low high b beyond fits
        simp only [step, if_pos fits] at member
        cases more with
        | zero =>
            rw [leastAfter] at large
            have same := List.mem_singleton.mp member
            rcases toNat_ofNat (value * 0x40 + b.toNat % 0x40) with read | nothing
            · rw [← same] at read
              omega
            · rw [← same] at nothing
              omega
        | succ more => exact absurd member List.not_mem_nil
      · simp only [step, if_neg fits] at member
        rcases List.mem_cons.mp member with mark | completed
        · rw [mark] at ascii
          exact absurd ascii (by decide)
        · exact toNat_of_mem_begin c positive ascii b completed

theorem mem_of_mem_decodeAfter (pending : Option Pending) (beyond : LeadsBeyondAscii pending)
    (bytes : List UInt8) (member : c ∈ decodeAfter pending bytes) : c.toNat.toUInt8 ∈ bytes := by
  induction bytes generalizing pending with
  | nil =>
      cases pending with
      | none => exact absurd member List.not_mem_nil
      | some pending =>
          rw [List.mem_singleton.mp member] at ascii
          exact absurd ascii (by decide)
  | cons b rest ih =>
      rw [decodeAfter_cons] at member
      rcases List.mem_append.mp member with here | later
      · have same := toNat_of_mem_step c positive ascii pending beyond b here
        rw [same, Nat.toUInt8_eq, UInt8.ofNat_toNat]
        exact List.mem_cons_self
      · exact List.mem_cons_of_mem _ (ih _ (step_leadsBeyondAscii pending beyond b) later)

/-- An ASCII character other than NUL is read only from its byte. -/
theorem mem_of_mem_decodeLossy (bytes : List UInt8) (member : c ∈ decodeLossy bytes) :
    c.toNat.toUInt8 ∈ bytes :=
  mem_of_mem_decodeAfter c positive ascii none trivial bytes member

end Ascii

/-! ## Writing ASCII -/

theorem toNat_ofNat_ascii (n : Nat) (ascii : n < 0x80) : (Char.ofNat n).toNat = n := by
  have valid : n.isValidChar := Or.inl (by omega)
  rw [Char.ofNat, dif_pos valid]
  rfl

theorem encodeChar_of_ascii (c : Char) (ascii : c.toNat < 0x80) :
    encodeChar c = [c.toNat.toUInt8] := by
  simp only [encodeChar, if_pos ascii]

theorem encodeChar_ascii (b : UInt8) (ascii : b < 0x80) :
    encodeChar (Char.ofNat b.toNat) = [b] := by
  have same : (Char.ofNat b.toNat).toNat = b.toNat := toNat_ofNat_ascii b.toNat ascii
  have small : (Char.ofNat b.toNat).toNat < 0x80 := by rw [same]; exact ascii
  rw [encodeChar_of_ascii _ small, same, Nat.toUInt8_eq, UInt8.ofNat_toNat]

theorem encode_ascii (bytes : List UInt8) (ascii : ∀ b ∈ bytes, b < 0x80) :
    encode (bytes.map fun b => Char.ofNat b.toNat) = bytes := by
  induction bytes with
  | nil => rfl
  | cons b rest ih =>
      rw [List.map_cons, encode_cons, encodeChar_ascii b (ascii b (by simp)),
        ih fun other member => ascii other (by simp [member]), List.singleton_append]

end HttpInspection.Utf8

namespace HttpInspection

@[simp] theorem lossyText_bytesOf (s : String) : lossyText (bytesOf s) = s := by
  rw [lossyText, bytesOf, Utf8.decodeLossy_encode, String.ofList_toList]

@[simp] theorem toList_lossyText (bytes : List UInt8) :
    (lossyText bytes).toList = Utf8.decodeLossy bytes :=
  String.toList_ofList

end HttpInspection
