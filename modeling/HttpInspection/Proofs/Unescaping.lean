import HttpInspection.Proofs.ByteOffsets
import HttpInspection.Proofs.QueryEscaping
import Mathlib.Data.Bool.AllAny

/-!
# Which escaped texts are read

The strict reading accepts a text exactly if two hexadecimal digits follow each of its percent signs,
and else names the first one that they do not follow.  It undoes every escaping, and where it
accepts, the lenient reading gives the same.
-/

set_option autoImplicit false

namespace HttpInspection

namespace Hex

/-- The hexadecimal digits of either case. -/
def IsDigit (b : UInt8) : Prop :=
  (0x30 ≤ b ∧ b ≤ 0x39) ∨ (0x41 ≤ b ∧ b ≤ 0x46) ∨ (0x61 ≤ b ∧ b ≤ 0x66)

theorem value_isSome_iff (b : UInt8) : (value? b).isSome = true ↔ IsDigit b := by
  unfold value? IsDigit
  simp only [Bool.and_eq_true, decide_eq_true_eq]
  split
  · simp_all
  · split
    · simp_all
    · split
      · simp_all
      · simp_all

theorem not_isDigit_percent : ¬ IsDigit Query.percent := by
  rw [← value_isSome_iff]
  decide

end Hex

namespace Query

/-! ## Percent signs and their digits -/

/-- Two hexadecimal digits come next. -/
def DigitsFollow (rest : List UInt8) : Prop :=
  ∃ high low back, rest = high :: low :: back ∧ Hex.IsDigit high ∧ Hex.IsDigit low

/-- Two hexadecimal digits follow every percent sign. -/
def WellEscaped (bytes : List UInt8) : Prop :=
  ∀ front rest, bytes = front ++ percent :: rest → DigitsFollow rest

/-- The first percent sign that two digits do not follow stands between `front` and `rest`. -/
structure FirstMalformed (bytes front rest : List UInt8) : Prop where
  place : bytes = front ++ percent :: rest
  wellEscaped : WellEscaped front
  malformed : ¬ DigitsFollow rest

theorem pair_isSome_iff (high low : UInt8) :
    (pair? high low).isSome = true ↔ Hex.IsDigit high ∧ Hex.IsDigit low := by
  rw [← Hex.value_isSome_iff, ← Hex.value_isSome_iff, pair?]
  cases Hex.value? high <;> cases Hex.value? low <;> simp

theorem digitsFollow_cons_cons (high low : UInt8) (back : List UInt8) :
    DigitsFollow (high :: low :: back) ↔ (pair? high low).isSome = true := by
  rw [pair_isSome_iff]
  constructor
  · rintro ⟨_, _, _, same, digits⟩
    cases same
    exact digits
  · intro digits
    exact ⟨high, low, back, rfl, digits⟩

theorem wellEscaped_nil : WellEscaped [] := by
  intro front rest cut
  simp at cut

theorem wellEscaped_plain (b : UInt8) (notPercent : b ≠ percent) (rest : List UInt8) :
    WellEscaped (b :: rest) ↔ WellEscaped rest := by
  constructor
  · intro whole front back cut
    exact whole (b :: front) back (by rw [cut, List.cons_append])
  · intro tail front back cut
    rcases List.cons_eq_append_iff.mp cut with ⟨-, same⟩ | ⟨front, -, later⟩
    · cases same
      exact absurd rfl notPercent
    · exact tail front back later

theorem wellEscaped_escape (high low b : UInt8) (digits : pair? high low = some b)
    (back : List UInt8) : WellEscaped (percent :: high :: low :: back) ↔ WellEscaped back := by
  have follow : DigitsFollow (high :: low :: back) := by
    rw [digitsFollow_cons_cons, digits, Option.isSome_some]
  obtain ⟨highDigit, lowDigit⟩ := (pair_isSome_iff high low).mp (by rw [digits, Option.isSome_some])
  -- A digit is no percent sign, so that the next one stands behind both digits.
  have highPlain : high ≠ percent := by
    rintro rfl
    exact Hex.not_isDigit_percent highDigit
  have lowPlain : low ≠ percent := by
    rintro rfl
    exact Hex.not_isDigit_percent lowDigit
  have tail : WellEscaped back ↔ WellEscaped (high :: low :: back) := by
    rw [wellEscaped_plain high highPlain, wellEscaped_plain low lowPlain]
  rw [tail]
  constructor
  · intro whole front rest cut
    exact whole (percent :: front) rest (by rw [cut, List.cons_append])
  · intro tail front rest cut
    rcases List.cons_eq_append_iff.mp cut with ⟨-, same⟩ | ⟨front, -, later⟩
    · cases same
      exact follow
    · exact tail front rest later

/-! ## What the strict reading accepts -/

/-- A text is read if it is well escaped; if not, the error has its first malformed escape, with two
bytes after the percent sign or as many as there are. -/
theorem unescape_cases (bytes : List UInt8) :
    (WellEscaped bytes ∧ ∃ result, unescape bytes = .ok result) ∨
      ∃ front rest, FirstMalformed bytes front rest ∧
        unescape bytes = .error (percent :: rest.take 2) := by
  induction bytes using unescape.induct with
  | case1 => exact .inl ⟨wellEscaped_nil, [], rfl⟩
  | case2 high low after b digits ih =>
      rw [unescape_escape _ _ _ digits, wellEscaped_escape _ _ _ digits]
      rcases ih with ⟨well, result, read⟩ | ⟨front, rest, first, failed⟩
      · exact .inl ⟨well, b :: result, by rw [read]; rfl⟩
      · refine .inr ⟨percent :: high :: low :: front, rest, ⟨?_, ?_, first.malformed⟩, ?_⟩
        · rw [first.place]
          rfl
        · exact (wellEscaped_escape _ _ _ digits front).mpr first.wellEscaped
        · rw [failed]
          rfl
  | case3 high low after malformed =>
      refine .inr ⟨[], high :: low :: after, ⟨rfl, wellEscaped_nil, ?_⟩, ?_⟩
      · rw [digitsFollow_cons_cons, malformed]
        simp
      · rw [unescape.eq_def]
        simp [malformed]
  | case4 short tooShort =>
      refine .inr ⟨[], short, ⟨rfl, wellEscaped_nil, ?_⟩, ?_⟩
      · rintro ⟨high, low, back, same, -⟩
        exact tooShort high low back same
      · have all : short.take 2 = short := by
          rcases short with _ | ⟨high, _ | ⟨low, back⟩⟩
          · rfl
          · rfl
          · exact absurd rfl (tooShort high low back)
        rw [unescape.eq_3 _ _ tooShort, if_pos rfl, all]
  | case5 b rest notPercent ih =>
      rw [unescape_plain _ notPercent, wellEscaped_plain _ notPercent]
      rcases ih with ⟨well, result, read⟩ | ⟨front, back, first, failed⟩
      · exact .inl ⟨well, _, by rw [read]; rfl⟩
      · refine .inr ⟨b :: front, back, ⟨?_, ?_, first.malformed⟩, ?_⟩
        · rw [first.place, List.cons_append]
        · exact (wellEscaped_plain _ notPercent front).mpr first.wellEscaped
        · rw [failed]
          rfl

/-! ## The lenient reading of plain texts -/

theorem unescapeLenient_plain (plusIsBlank : Bool) (bytes : List UInt8)
    (noPercent : percent ∉ bytes) (noPlus : plusIsBlank = true → plus ∉ bytes) :
    unescapeLenient plusIsBlank bytes = bytes := by
  unfold unescapeLenient
  induction bytes with
  | nil => rfl
  | cons b rest ih =>
      have notPercent : b ≠ percent := fun same => noPercent (by simp [same])
      have kept : ¬ (plusIsBlank && b == plus) = true := by
        rw [Bool.and_eq_true, beq_iff_eq]
        rintro ⟨isBlank, same⟩
        exact noPlus isBlank (by simp [same])
      rw [lenientAfter_plain _ _ notPercent, if_neg kept,
        ih (fun later => noPercent (List.mem_cons_of_mem _ later))
          (fun isBlank later => noPlus isBlank (List.mem_cons_of_mem _ later))]

/-! ## Texts -/

/-- The failure to read the escape whose percent sign stands in front of `rest`. -/
def malformedEscape (rest : List UInt8) : Failure :=
  .undecodable "url" ("invalid escape '" ++ lossyText (percent :: rest.take 2) ++ "'")

theorem unescapeText_cases (escaped : String) :
    (WellEscaped (bytesOf escaped) ∧ ∃ text, unescapeText escaped = .ok text) ∨
      ∃ front rest, FirstMalformed (bytesOf escaped) front rest ∧
        unescapeText escaped = .error (malformedEscape rest) := by
  rcases unescape_cases (bytesOf escaped) with ⟨well, bytes, read⟩ | ⟨front, rest, first, failed⟩
  · exact .inl ⟨well, lossyText bytes, by simp only [unescapeText, read]⟩
  · refine .inr ⟨front, rest, first, ?_⟩
    simp only [unescapeText, failed]
    rfl

theorem unescapeText_ok_iff (escaped : String) :
    (∃ text, unescapeText escaped = .ok text) ↔ WellEscaped (bytesOf escaped) := by
  rcases unescapeText_cases escaped with ⟨well, read⟩ | ⟨front, rest, first, failed⟩
  · exact iff_of_true read well
  · refine iff_of_false ?_ fun well => first.malformed (well front rest first.place)
    rintro ⟨text, read⟩
    rw [failed] at read
    cases read

theorem byte_notMem_bytesOf (c : Char) (ascii : c.toNat < 0x80) (text : String)
    (absent : c ∉ text.toList) : c.toNat.toUInt8 ∉ bytesOf text := by
  intro member
  obtain ⟨d, inText, written⟩ := List.mem_flatMap.mp member
  have exact : c.toNat.toUInt8.toNat = c.toNat := Utf8.toNat_toUInt8 _ (by omega)
  by_cases small : d.toNat < 0x80
  · rw [Utf8.encodeChar_of_ascii d small, List.mem_singleton] at written
    have same := congrArg UInt8.toNat written
    rw [exact, Utf8.toNat_toUInt8 _ (by omega)] at same
    exact absent (Char.toNat_inj.mp same ▸ inText)
  · have large := Utf8.le_of_mem_encodeChar d (Nat.not_lt.mp small) _ written
    omega

theorem unescapeTextLenient_plain (plusIsBlank : Bool) (plain : String)
    (noPercent : '%' ∉ plain.toList) (noPlus : plusIsBlank = true → '+' ∉ plain.toList) :
    unescapeTextLenient plusIsBlank plain = plain := by
  have percents := byte_notMem_bytesOf '%' (by decide) plain noPercent
  have pluses := fun isBlank => byte_notMem_bytesOf '+' (by decide) plain (noPlus isBlank)
  rw [unescapeTextLenient, unescapeLenient_plain plusIsBlank _ percents pluses, lossyText_bytesOf]

/-- The strict reading undoes every escaping.  It accepts the well-escaped texts and no others, and
of those it names the first malformed escape.  The lenient reading agrees with it where it accepts,
and leaves a text as it is that has nothing to read in it. -/
theorem escaped_texts_read :
    (∀ text escaped : String, Escapes (bytesOf text) (bytesOf escaped) →
      unescapeText escaped = .ok text) ∧
    (∀ escaped : String,
      ((∃ text, unescapeText escaped = .ok text) ↔ WellEscaped (bytesOf escaped)) ∧
      (¬ WellEscaped (bytesOf escaped) → ∃ front rest,
        FirstMalformed (bytesOf escaped) front rest ∧
          unescapeText escaped = .error (malformedEscape rest))) ∧
    (∀ escaped text : String, unescapeText escaped = .ok text →
      unescapeTextLenient true escaped = text) ∧
    (∀ (plusIsBlank : Bool) (plain : String), '%' ∉ plain.toList →
      (plusIsBlank = true → '+' ∉ plain.toList) →
        unescapeTextLenient plusIsBlank plain = plain) := by
  refine ⟨unescapeText_escapes, ?_, unescapeTextLenient_of_unescapeText, unescapeTextLenient_plain⟩
  intro escaped
  refine ⟨unescapeText_ok_iff escaped, ?_⟩
  intro malformed
  rcases unescapeText_cases escaped with ⟨well, -⟩ | failed
  · exact absurd well malformed
  · exact failed

/-- An escaped text with a scalar of two bytes in both cases of digits, and a text whose second
percent sign is malformed, where the two bytes after it cut a scalar. -/
theorem escaped_texts_read_mixed :
    Escapes (bytesOf "é é%") (bytesOf "%c3%A9+é%25") ∧
      unescapeText "%c3%A9+é%25" = .ok "é é%" ∧
      unescapeTextLenient true "%c3%A9+é%25" = "é é%" ∧
      ¬ WellEscaped (bytesOf "%41%4é%") ∧
      (∃ front rest, FirstMalformed (bytesOf "%41%4é%") front rest ∧
        unescapeText "%41%4é%" = .error (malformedEscape rest)) ∧
      '%' ∉ "é+".toList ∧ unescapeTextLenient false "é+" = "é+" := by
  obtain ⟨undone, accepted, agrees, kept⟩ := escaped_texts_read
  have percentSign : Escapes [percent] [percent, 0x32, 0x35] :=
    .cons (.escape (by decide) (by decide)) .nil
  have letter := escapes_plain (bytesOf "é") (List.all_iff_forall_prop.mp (by decide)) percentSign
  have escaped : Escapes (0xC3 :: 0xA9 :: blank :: (bytesOf "é" ++ [percent]))
      ([percent, 0x63, 0x33] ++ ([percent, 0x41, 0x39] ++ ([plus] ++
        (bytesOf "é" ++ [percent, 0x32, 0x35])))) :=
    .cons (.escape (by decide) (by decide))
      (.cons (.escape (by decide) (by decide)) (.cons .plus letter))
  have escapes : Escapes (bytesOf "é é%") (bytesOf "%c3%A9+é%25") := escaped
  have read := undone _ _ escapes
  have malformed : ¬ WellEscaped (bytesOf "%41%4é%") := by
    intro well
    obtain ⟨high, low, back, same, -⟩ := well (bytesOf "%41%4é") [] (by decide)
    cases same
  exact ⟨escapes, read, agrees _ _ read, malformed, (accepted _).2 malformed, by decide,
    kept false "é+" (by decide) (by decide)⟩

end Query

end HttpInspection
