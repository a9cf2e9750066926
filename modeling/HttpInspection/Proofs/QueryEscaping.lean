import HttpInspection.Candidates
import HttpInspection.Proofs.Utf8

/-!
# Query escaping is undone

`Escapes` says which texts write given bytes; reading any of them gives the bytes back.  Where the
strict reading succeeds the lenient one agrees with it, and the lenient reading of a text with a
delimiter in it is that of the parts in front of the delimiter and behind it.
-/

set_option autoImplicit false

namespace HttpInspection.Hex

/-- The digits of a value below sixteen in either case. -/
def digits (n : Nat) : List UInt8 :=
  if n < 10 then [(48 + n).toUInt8] else [(87 + n).toUInt8, (55 + n).toUInt8]

theorem value_of_digits : ∀ n < 16, ∀ d ∈ digits n, value? d = some n.toUInt8 := by
  decide +kernel

end HttpInspection.Hex

namespace HttpInspection.Query

/-! ## What writes a byte -/

/-- The ways to write one byte: an escape with digits of either case, the plus sign for a blank, or
the byte itself unless it has a meaning of its own. -/
inductive EscapesByte : UInt8 → List UInt8 → Prop where
  | escape {b high low : UInt8} (first : high ∈ Hex.digits (b.toNat / 16))
      (second : low ∈ Hex.digits (b.toNat % 16)) : EscapesByte b [percent, high, low]
  | plus : EscapesByte blank [Query.plus]
  | plain {b : UInt8} (notPercent : b ≠ percent) (notPlus : b ≠ Query.plus) : EscapesByte b [b]

/-- The ways to write bytes: one by one. -/
inductive Escapes : List UInt8 → List UInt8 → Prop where
  | nil : Escapes [] []
  | cons {b : UInt8} {bytes front back : List UInt8} (first : EscapesByte b front)
      (rest : Escapes bytes back) : Escapes (b :: bytes) (front ++ back)

theorem escapes_plain (front : List UInt8)
    (ordinary : ∀ b ∈ front, b ≠ percent ∧ b ≠ Query.plus) {bytes back : List UInt8}
    (rest : Escapes bytes back) : Escapes (front ++ bytes) (front ++ back) := by
  induction front with
  | nil => exact rest
  | cons b front ih =>
      have first : EscapesByte b [b] := .plain (ordinary b (by simp)).1 (ordinary b (by simp)).2
      have later := ih fun other member => ordinary other (by simp [member])
      simpa only [List.cons_append, List.nil_append] using Escapes.cons first later

theorem pair_of_digits (b high low : UInt8) (first : high ∈ Hex.digits (b.toNat / 16))
    (second : low ∈ Hex.digits (b.toNat % 16)) : pair? high low = some b := by
  have bound := b.toNat_lt
  have highValue := Hex.value_of_digits (b.toNat / 16) (by omega) high first
  have lowValue := Hex.value_of_digits (b.toNat % 16) (by omega) low second
  have same : (b.toNat / 16).toUInt8 * 16 + (b.toNat % 16).toUInt8 = b := by
    apply UInt8.toNat_inj.mp
    simp only [UInt8.toNat_add, UInt8.toNat_mul, UInt8.toNat_ofNat']
    change (b.toNat / 16 % 256 * 16 % 256 + b.toNat % 16 % 256) % 256 = b.toNat
    omega
  simp only [pair?, highValue, lowValue, same]

/-! ## The strict reading -/

theorem unescape_escape (high low b : UInt8) (digits : pair? high low = some b)
    (back : List UInt8) :
    unescape (percent :: high :: low :: back) = (unescape back).map (b :: ·) := by
  rw [unescape.eq_def]
  simp only [if_true, digits]

theorem unescape_plain (b : UInt8) (notPercent : b ≠ percent) (back : List UInt8) :
    unescape (b :: back) = (unescape back).map ((if b = Query.plus then blank else b) :: ·) := by
  rw [unescape.eq_def]
  simp only [if_neg notPercent]

theorem unescape_escapesByte {b : UInt8} {front : List UInt8} (first : EscapesByte b front)
    (back : List UInt8) : unescape (front ++ back) = (unescape back).map (b :: ·) := by
  cases first with
  | escape first second => exact unescape_escape _ _ _ (pair_of_digits _ _ _ first second) back
  | plus =>
      have notPercent : Query.plus ≠ percent := by decide
      simp only [List.cons_append, List.nil_append, unescape_plain _ notPercent, if_true]
  | plain notPercent notPlus =>
      simp only [List.cons_append, List.nil_append, unescape_plain _ notPercent, if_neg notPlus]

theorem unescape_escapes {bytes written : List UInt8} (escapes : Escapes bytes written) :
    unescape written = .ok bytes := by
  induction escapes with
  | nil => rfl
  | cons first _ ih =>
      rw [unescape_escapesByte first, ih]
      rfl

theorem unescapeText_escapes (v w : String) (escapes : Escapes (bytesOf v) (bytesOf w)) :
    unescapeText w = .ok v := by
  simp only [unescapeText, unescape_escapes escapes, lossyText_bytesOf]

/-! ## The lenient reading -/

theorem lenientAfter_escape (plusIsBlank : Bool) (high low b : UInt8)
    (digits : pair? high low = some b) (back : List UInt8) :
    lenientAfter plusIsBlank 0 (percent :: high :: low :: back) =
      b :: lenientAfter plusIsBlank 0 back := by
  simp only [lenientAfter, if_true, escaped?, digits]

theorem lenientAfter_plain (plusIsBlank : Bool) (b : UInt8) (notPercent : b ≠ percent)
    (back : List UInt8) :
    lenientAfter plusIsBlank 0 (b :: back) =
      (if plusIsBlank && b == Query.plus then blank else b) :: lenientAfter plusIsBlank 0 back := by
  simp only [lenientAfter, if_neg notPercent]

theorem exists_of_map_eq_ok {ε α β : Type} (x : Except ε α) (f : α → β) (result : β)
    (mapped : x.map f = .ok result) : ∃ value, x = .ok value ∧ f value = result := by
  cases x with
  | error fault => cases mapped
  | ok value => exact ⟨value, rfl, Except.ok.inj mapped⟩

/-- What the strict reading accepts, the lenient reading takes for the same. -/
theorem unescapeLenient_of_unescape (written bytes : List UInt8)
    (accepted : unescape written = .ok bytes) : unescapeLenient true written = bytes := by
  unfold unescapeLenient
  induction written using unescape.induct generalizing bytes with
  | case1 => cases accepted; rfl
  | case2 high low after b digits ih =>
      rw [unescape_escape _ _ _ digits] at accepted
      obtain ⟨rest, inner, rfl⟩ := exists_of_map_eq_ok _ _ _ accepted
      rw [lenientAfter_escape _ _ _ _ digits, ih rest inner]
  | case3 high low after malformed =>
      rw [unescape.eq_def] at accepted
      simp [malformed] at accepted
  | case4 short tooShort =>
      rw [unescape.eq_3 _ _ tooShort, if_pos rfl] at accepted
      cases accepted
  | case5 b rest notPercent ih =>
      rw [unescape_plain _ notPercent] at accepted
      obtain ⟨back, inner, rfl⟩ := exists_of_map_eq_ok _ _ _ accepted
      rw [lenientAfter_plain _ _ notPercent, ih back inner]
      by_cases isPlus : b = Query.plus
      · simp [isPlus]
      · simp [isPlus]

/-! ## Cutting at a delimiter -/

/-- A byte that neither begins, continues nor is itself an escape. -/
structure Delimiter (plusIsBlank : Bool) (d : UInt8) : Prop where
  ascii : d < 0x80
  notPercent : d ≠ percent
  notPlus : (plusIsBlank && d == Query.plus) = false
  notDigit : Hex.value? d = none

theorem escaped_append (front back : List UInt8) (d : UInt8) (notDigit : Hex.value? d = none) :
    escaped? (front ++ d :: back) = escaped? front := by
  match front with
  | [] =>
      cases back with
      | nil => rfl
      | cons low rest => simp [escaped?, pair?, notDigit]
  | [high] => cases digit : Hex.value? high <;> simp [escaped?, pair?, notDigit, digit]
  | high :: low :: rest => rfl

theorem two_le_of_escaped (rest : List UInt8) (b : UInt8) (found : escaped? rest = some b) :
    2 ≤ rest.length := by
  match rest with
  | [] => cases found
  | [_] => cases found
  | _ :: _ :: _ => simp

/-- The induction is on what stands in front of the delimiter; `skip` bytes of it, the digits of an
escape, have been read. -/
theorem lenientAfter_append (plusIsBlank : Bool) (d : UInt8) (delimiter : Delimiter plusIsBlank d)
    (front back : List UInt8) (skip : Nat) (within : skip ≤ front.length) :
    lenientAfter plusIsBlank skip (front ++ d :: back) =
      lenientAfter plusIsBlank skip front ++ d :: lenientAfter plusIsBlank 0 back := by
  induction front generalizing skip with
  | nil =>
      have none : skip = 0 := Nat.le_zero.mp within
      subst none
      rw [List.nil_append, lenientAfter_plain _ _ delimiter.notPercent, delimiter.notPlus]
      rfl
  | cons b rest ih =>
      cases skip with
      | succ skip =>
          simp only [List.cons_append, lenientAfter]
          exact ih skip (Nat.le_of_succ_le_succ within)
      | zero =>
          simp only [List.cons_append, lenientAfter]
          by_cases isPercent : b = percent
          · simp only [if_pos isPercent, escaped_append rest back d delimiter.notDigit]
            cases found : escaped? rest with
            | none => simp only [ih 0 (Nat.zero_le _), List.cons_append]
            | some value =>
                simp only [ih 2 (two_le_of_escaped rest value found), List.cons_append]
          · simp only [if_neg isPercent, ih 0 (Nat.zero_le _), List.cons_append]

theorem unescapeLenient_append (plusIsBlank : Bool) (d : UInt8)
    (delimiter : Delimiter plusIsBlank d) (front back : List UInt8) :
    unescapeLenient plusIsBlank (front ++ d :: back) =
      unescapeLenient plusIsBlank front ++ d :: unescapeLenient plusIsBlank back :=
  lenientAfter_append plusIsBlank d delimiter front back 0 (Nat.zero_le _)

/-! ## Texts -/

theorem unescapeTextLenient_of_unescapeText (written text : String)
    (accepted : unescapeText written = .ok text) : unescapeTextLenient true written = text := by
  unfold unescapeText at accepted
  cases outcome : unescape (bytesOf written) with
  | error rest =>
      rw [outcome] at accepted
      cases accepted
  | ok bytes =>
      rw [outcome] at accepted
      cases accepted
      rw [unescapeTextLenient, unescapeLenient_of_unescape _ _ outcome]

theorem unescapeTextLenient_append (plusIsBlank : Bool) (d : Char) (ascii : d.toNat < 0x80)
    (delimiter : Delimiter plusIsBlank d.toNat.toUInt8) (front back : List Char) :
    (unescapeTextLenient plusIsBlank (String.ofList (front ++ d :: back))).toList =
      (unescapeTextLenient plusIsBlank (String.ofList front)).toList ++
        d :: (unescapeTextLenient plusIsBlank (String.ofList back)).toList := by
  have exact : d.toNat.toUInt8.toNat = d.toNat := Utf8.toNat_toUInt8 _ (by omega)
  simp only [unescapeTextLenient, toList_lossyText, bytesOf, String.toList_ofList]
  rw [Utf8.encode_append, Utf8.encode_cons, Utf8.encodeChar_of_ascii d ascii, List.singleton_append,
    unescapeLenient_append plusIsBlank _ delimiter,
    Utf8.decodeLossy_append_ascii _ _ _ delimiter.ascii, exact, Char.ofNat_toNat]

end HttpInspection.Query
