import HttpInspection.Json.Read
import Mathlib.Data.List.Basic

/-!
# Reading what was written in JSON

The compact text of a value is read back as that value, and it is one line.  Both are said of one
value at a time, whatever may follow it in a text, so that a container has them when its members do.
-/

set_option autoImplicit false

namespace HttpInspection.Json

/-! ## Strings -/

theorem value_digit : ∀ n < 16, (Hex.digit n).toNat < 0x80 ∧
    (Hex.value? (Hex.digit n).toNat.toUInt8).map UInt8.toNat = some n := by
  decide

theorem visible_digit : ∀ n < 16, 0x20 ≤ (Hex.digit n).toNat := by
  decide

theorem readUnit_ofByte (n : Nat) (small : n < 0x20) (rest : List Char) :
    readUnit ('0' :: '0' :: (Hex.ofByte n.toUInt8 ++ rest)) = some (n, rest) := by
  have same : n.toUInt8.toNat = n := by
    rw [UInt8.toNat_ofNat', Nat.mod_eq_of_lt (by omega)]
  obtain ⟨zeroAscii, zero⟩ := value_digit 0 (by omega)
  obtain ⟨highAscii, high⟩ := value_digit (n / 16) (by omega)
  obtain ⟨lowAscii, low⟩ := value_digit (n % 16) (by omega)
  have zeroDigit : '0' = Hex.digit 0 := rfl
  simp only [Hex.ofByte, same, List.cons_append, List.nil_append, readUnit, zeroDigit, zero, high,
    low, if_pos zeroAscii, if_pos highAscii, if_pos lowAscii, bind, Option.bind, Option.some.injEq,
    Prod.mk.injEq, and_true]
  omega

/-- An escape stands for a character if it is read as one unit that is joined to it. -/
def StandsFor (text : List Char) (c : Char) : Prop :=
  ∃ unit : Char ⊕ Nat,
    (∀ fuel rest, readUnits (fuel + 1) (text ++ rest) =
      (readUnits fuel rest).map fun (units, rest) => (unit :: units, rest)) ∧
    ∀ units, joinUnits (unit :: units) = (joinUnits units).map (c :: ·)

theorem standsFor_letter (letter c : Char) (meaning : letterEscape? letter = some c)
    (different : letter ≠ 'u') : StandsFor ['\\', letter] c := by
  refine ⟨.inl c, ?_, fun _ => rfl⟩
  intro fuel rest
  rw [List.cons_append, List.cons_append, List.nil_append, readUnits]
  · simp only [Char.reduceEq, if_false, if_true]
    rw [if_neg (by decide), meaning]
    cases readUnits fuel rest <;> rfl
  · exact different

theorem standsFor_itself (c : Char) (noQuote : c ≠ '"') (noBackslash : c ≠ '\\')
    (visible : 0x20 ≤ c.toNat) : StandsFor [c] c := by
  refine ⟨.inl c, ?_, fun _ => rfl⟩
  intro fuel rest
  rw [List.cons_append, List.nil_append, readUnits.eq_def]
  dsimp only
  rw [if_neg noQuote, if_neg (by omega), if_neg noBackslash]
  cases readUnits fuel rest <;> rfl

theorem standsFor_unit (c : Char) (control : c.toNat < 0x20) :
    StandsFor (['\\', 'u', '0', '0'] ++ Hex.ofByte c.toNat.toUInt8) c := by
  refine ⟨.inr c.toNat, ?_, ?_⟩
  · intro fuel rest
    have unit := readUnit_ofByte c.toNat control rest
    simp only [List.cons_append, List.nil_append, readUnits, Char.reduceEq, if_false, if_true, unit]
    rw [if_neg (by decide), Option.bind_eq_bind, Option.bind_some]
    cases readUnits fuel rest <;> rfl
  · intro units
    have noLeading : isLeading c.toNat = false := by
      simp only [isLeading, Bool.and_eq_false_iff, decide_eq_false_iff_not]
      omega
    have noTrailing : isTrailing c.toNat = false := by
      simp only [isTrailing, Bool.and_eq_false_iff, decide_eq_false_iff_not]
      omega
    rw [joinUnits.eq_def]
    simp [noLeading, noTrailing]

theorem standsFor_escape (c : Char) : StandsFor (escape c) c := by
  unfold escape
  split_ifs with quote backslash visible newline feed tab backspace page
  · exact quote ▸ standsFor_letter '"' '"' rfl (by decide)
  · exact backslash ▸ standsFor_letter '\\' '\\' rfl (by decide)
  · exact standsFor_itself c quote backslash visible
  · exact newline ▸ standsFor_letter 'n' '\n' rfl (by decide)
  · exact feed ▸ standsFor_letter 'r' '\r' rfl (by decide)
  · exact tab ▸ standsFor_letter 't' '\t' rfl (by decide)
  · refine standsFor_letter 'b' c ?_ (by decide)
    rw [← Char.ofNat_toNat c, backspace]
    rfl
  · refine standsFor_letter 'f' c ?_ (by decide)
    rw [← Char.ofNat_toNat c, page]
    rfl
  · exact standsFor_unit c (by omega)

theorem readUnits_escapes (text : List Char) (fuel : Nat) (enough : text.length ≤ fuel)
    (rest : List Char) : ∃ units, joinUnits units = some text ∧
      readUnits (fuel + 1) (text.flatMap escape ++ '"' :: rest) = some (units, rest) := by
  induction text generalizing fuel with
  | nil => exact ⟨[], rfl, by simp [readUnits.eq_def]⟩
  | cons c text ih =>
      obtain ⟨fuel, rfl⟩ := Nat.exists_eq_add_of_le' (Nat.le_of_add_left_le enough)
      obtain ⟨unit, reads, joins⟩ := standsFor_escape c
      obtain ⟨units, joined, read⟩ := ih fuel (Nat.le_of_succ_le_succ enough)
      refine ⟨unit :: units, by rw [joins, joined]; rfl, ?_⟩
      rw [List.flatMap_cons, List.append_assoc, reads, read]
      rfl

theorem escape_ne_nil (c : Char) : escape c ≠ [] := by
  unfold escape
  split_ifs <;> simp

theorem length_le_escapes (text : List Char) : text.length ≤ (text.flatMap escape).length := by
  induction text with
  | nil => exact Nat.le_refl 0
  | cons c text ih =>
      have escaped := List.length_pos_iff.mpr (escape_ne_nil c)
      rw [List.flatMap_cons, List.length_append, List.length_cons]
      omega

theorem readString_quote (s : String) (rest : List Char) :
    readString (s.toList.flatMap escape ++ '"' :: rest) = some (some s, rest) := by
  have enough := length_le_escapes s.toList
  obtain ⟨units, joined, read⟩ := readUnits_escapes s.toList
    (s.toList.flatMap escape ++ '"' :: rest).length (by rw [List.length_append]; omega) rest
  simp only [readString, read, Option.map_some, joined, String.ofList_toList]

/-- Characters that do not end a line or move the place in it. -/
def Visible (text : List Char) : Prop :=
  ∀ c ∈ text, 0x20 ≤ c.toNat

theorem visible_append (front back : List Char) :
    Visible (front ++ back) ↔ Visible front ∧ Visible back := by
  simp only [Visible, List.mem_append, or_imp, forall_and]

theorem visible_cons (c : Char) (rest : List Char) :
    Visible (c :: rest) ↔ 0x20 ≤ c.toNat ∧ Visible rest := by
  simp only [Visible, List.mem_cons, forall_eq_or_imp]

theorem visible_escape (c : Char) : Visible (escape c) := by
  have high := visible_digit (c.toNat.toUInt8.toNat / 16) (by have := c.toNat.toUInt8.toNat_lt; omega)
  have low := visible_digit (c.toNat.toUInt8.toNat % 16) (by omega)
  unfold escape
  split_ifs <;> simp_all [Visible, Hex.ofByte]

theorem visible_quote (s : String) : Visible (quote s) := by
  rw [quote, List.cons_append, visible_cons, visible_append]
  refine ⟨by decide, ?_, by simp [Visible]⟩
  intro c member
  obtain ⟨source, -, escaped⟩ := List.mem_flatMap.mp member
  exact visible_escape source c escaped

/-! ## Integers -/

theorem foldl_toDigits (n : Nat) :
    (Nat.toDigits 10 n).foldl (fun n c => n * 10 + (c.toNat - 48)) 0 = n := by
  have value := @Nat.ofDigitChars_ten_toDigits n
  rw [Nat.ofDigitChars_eq_foldl] at value
  simpa only [Nat.mul_comm 10, Char.reduceToNat] using value

theorem all_isDigit_toDigits (n : Nat) : (Nat.toDigits 10 n).all Char.isDigit = true :=
  List.all_eq_true.mpr fun _ member =>
    Nat.isDigit_of_mem_toDigits (by decide) (by decide) member

/-- A number that is not zero is written without a zero at its front. -/
theorem toDigits_ne_zero_cons (n : Nat) (positive : n ≠ 0) (rest : List Char) :
    Nat.toDigits 10 n ≠ '0' :: rest := by
  induction n using Nat.strongRecOn generalizing rest with
  | ind n ih =>
      rw [Nat.toDigits_eq_if (by decide)]
      split
      next small =>
        have digits : ∀ n < 10, n ≠ 0 → n.digitChar ≠ '0' := by decide
        intro same
        exact digits n small positive (List.cons.inj same).1
      next large =>
        have fewer := ih (n / 10) (by omega) (by omega)
        cases front : Nat.toDigits 10 (n / 10) with
        | nil => exact absurd front Nat.toDigits_ne_nil
        | cons c more =>
            intro same
            refine fewer more ?_
            rw [front, (List.cons.inj same).1]

/-- What can stand behind a value: nothing, or what separates or closes. -/
inductive Follows : List Char → Prop where
  | nothing : Follows []
  | comma (rest : List Char) : Follows (',' :: rest)
  | bracket (rest : List Char) : Follows (']' :: rest)
  | brace (rest : List Char) : Follows ('}' :: rest)

theorem spanDigits_toDigits (n : Nat) (rest : List Char) (follows : Follows rest) :
    spanDigits (Nat.toDigits 10 n ++ rest) = (Nat.toDigits 10 n, rest) := by
  have digits := List.all_eq_true.mp (all_isDigit_toDigits n)
  rw [spanDigits, List.takeWhile_append_of_pos digits, List.dropWhile_append_of_pos digits]
  cases follows <;> simp [Char.isDigit]

theorem readWhole_toDigits (n : Nat) (rest : List Char) (follows : Follows rest) :
    readWhole (Nat.toDigits 10 n ++ rest) = some (Nat.toDigits 10 n, rest) := by
  by_cases zero : n = 0
  · subst zero
    cases follows <;> rfl
  · have span := spanDigits_toDigits n rest follows
    cases digits : Nat.toDigits 10 n with
    | nil => exact absurd digits Nat.toDigits_ne_nil
    | cons c more =>
        rw [digits] at span
        unfold readWhole
        split
        next same =>
          exact absurd (digits.trans (congrArg (· :: more) (List.cons.inj same).1))
            (toDigits_ne_zero_cons n zero more)
        next => rw [span]; rfl

def lexemeOf (n : Int) : List Char :=
  if 0 ≤ n then Nat.toDigits 10 n.toNat else '-' :: Nat.toDigits 10 (-n).toNat

theorem ofInt_eq (n : Int) : ofInt n = number (lexemeOf n) := by
  rw [ofInt, lexemeOf, Int.toString_eq_repr, Int.repr_eq_if]
  split
  · rw [Nat.toList_repr]
  · rw [String.toList_append, Nat.toList_repr]
    rfl

theorem readFraction_of_follows (rest : List Char) (follows : Follows rest) :
    readFraction rest = some ([], rest) := by
  cases follows <;> rfl

theorem readExponent_of_follows (rest : List Char) (follows : Follows rest) :
    readExponent rest = some ([], rest) := by
  cases follows <;> rfl

/-- A digit is none of the characters that can stand at the front of anything but a number. -/
theorem ne_of_isDigit (c other : Char) (digit : c.isDigit = true) (noDigit : other.isDigit = false) :
    c ≠ other := by
  rintro rfl
  exact Bool.false_ne_true (noDigit.symm.trans digit)

theorem exists_first_digit (n : Nat) :
    ∃ c rest, Nat.toDigits 10 n = c :: rest ∧ c.isDigit = true := by
  obtain ⟨c, rest, digits⟩ := List.exists_cons_of_ne_nil (@Nat.toDigits_ne_nil n 10)
  refine ⟨c, rest, digits, ?_⟩
  exact Nat.isDigit_of_mem_toDigits (by decide) (by decide) (digits ▸ List.mem_cons_self)

theorem readNumber_lexemeOf (n : Int) (rest : List Char) (follows : Follows rest) :
    readNumber (lexemeOf n ++ rest) = some (lexemeOf n, rest) := by
  have fraction := readFraction_of_follows rest follows
  have exponent := readExponent_of_follows rest follows
  rw [lexemeOf]
  split
  next =>
    have whole := readWhole_toDigits n.toNat rest follows
    obtain ⟨c, more, digits, digit⟩ := exists_first_digit n.toNat
    rw [digits, List.cons_append] at whole ⊢
    rw [readNumber]
    · simp [whole, fraction, exponent]
    · intro after same
      exact ne_of_isDigit c '-' digit rfl (List.cons.inj same).1
  next =>
    simp [readNumber, readWhole_toDigits _ rest follows, fraction, exponent]

theorem visible_lexemeOf (n : Int) : Visible (lexemeOf n) := by
  have digits : ∀ n, Visible (Nat.toDigits 10 n) := by
    intro n c member
    have digit := Nat.isDigit_of_mem_toDigits (by decide) (by decide) member
    rw [Char.isDigit, Bool.and_eq_true, decide_eq_true_eq] at digit
    exact Nat.le_trans (by decide) (UInt32.le_iff_toNat_le.mp digit.1)
  rw [lexemeOf]
  split
  · exact digits _
  · exact (visible_cons _ _).mpr ⟨by decide, digits _⟩

/-! ## Values -/

theorem skipSpaces_cons (c : Char) (rest : List Char) (noSpace : isSpace c = false) :
    skipSpaces (c :: rest) = c :: rest := by
  rw [skipSpaces, List.dropWhile_cons, noSpace]
  rfl

theorem skipSpaces_follows (rest : List Char) (follows : Follows rest) :
    skipSpaces rest = rest := by
  cases follows <;> rfl

/-- A value is written so that it is read back whatever follows it, and so that it stands in one
line. -/
structure ReadsBack (value : Json) : Prop where
  whole : value.isWhole = true
  begins : ∃ c rest, value.write = c :: rest ∧ isSpace c = false ∧ c ≠ ']'
  reads : ∀ fuel rest, value.write.length ≤ fuel → Follows rest →
    readValue fuel (value.write ++ rest) = (value, rest)
  visible : Visible value.write

theorem readsBack_bool (value : Bool) : (bool value).ReadsBack := by
  cases value with
  | false =>
      refine ⟨rfl, ⟨'f', _, rfl, rfl, by decide⟩, ?_, by simp [Visible, write]⟩
      intro fuel rest enough _
      obtain ⟨fuel, rfl⟩ := Nat.exists_eq_add_one_of_ne_zero (Nat.ne_zero_of_lt enough)
      rfl
  | true =>
      refine ⟨rfl, ⟨'t', _, rfl, rfl, by decide⟩, ?_, by simp [Visible, write]⟩
      intro fuel rest enough _
      obtain ⟨fuel, rfl⟩ := Nat.exists_eq_add_one_of_ne_zero (Nat.ne_zero_of_lt enough)
      rfl

theorem readsBack_ofString (s : String) : (ofString s).ReadsBack := by
  refine ⟨rfl, ⟨'"', _, rfl, rfl, by decide⟩, ?_, visible_quote s⟩
  intro fuel rest enough _
  obtain ⟨fuel, rfl⟩ := Nat.exists_eq_add_one_of_ne_zero (Nat.ne_zero_of_lt enough)
  have read := readString_quote s rest
  simp only [ofString, write, quote, Option.getD_some, List.cons_append, List.append_assoc,
    List.nil_append, readValue, skipSpaces_cons '"' _ rfl, read]

theorem readsBack_ofInt (n : Int) : (ofInt n).ReadsBack := by
  rw [ofInt_eq]
  have read := readNumber_lexemeOf n
  have first : ∃ c rest, lexemeOf n = c :: rest ∧ (c.isDigit = true ∨ c = '-') := by
    rw [lexemeOf]
    split
    · obtain ⟨c, rest, digits, digit⟩ := exists_first_digit n.toNat
      exact ⟨c, rest, digits, .inl digit⟩
    · exact ⟨'-', _, rfl, .inr rfl⟩
  obtain ⟨c, more, lexeme, front⟩ := first
  have different : ∀ other, other.isDigit = false → other ≠ '-' → c ≠ other := by
    rintro other noDigit noSign rfl
    rcases front with digit | sign
    · exact Bool.false_ne_true (noDigit.symm.trans digit)
    · exact noSign sign
  have noSpace : isSpace c = false := by
    simp only [isSpace, Bool.or_eq_false_iff, beq_eq_false_iff_ne]
    exact ⟨⟨⟨different ' ' rfl (by decide), different '\n' rfl (by decide)⟩,
      different '\t' rfl (by decide)⟩, different '\r' rfl (by decide)⟩
  refine ⟨rfl, ⟨c, more, lexeme, noSpace, different ']' rfl (by decide)⟩, ?_, visible_lexemeOf n⟩
  intro fuel rest enough follows
  rw [write, lexeme] at enough ⊢
  rw [lexeme] at read
  obtain ⟨fuel, rfl⟩ := Nat.exists_eq_add_one_of_ne_zero (Nat.ne_zero_of_lt enough)
  rw [List.cons_append, readValue, skipSpaces_cons c _ noSpace]
  -- Every form but a number begins with a character of its own.
  split
  next same => cases same
  next same => exact absurd (List.cons.inj same).1 (different '[' rfl (by decide))
  next same => exact absurd (List.cons.inj same).1 (different '\x7b' rfl (by decide))
  next same => exact absurd (List.cons.inj same).1 (different '"' rfl (by decide))
  next same => exact absurd (List.cons.inj same).1 (different 't' rfl (by decide))
  next same => exact absurd (List.cons.inj same).1 (different 'f' rfl (by decide))
  next same => exact absurd (List.cons.inj same).1 (different 'n' rfl (by decide))
  next same =>
    have number := read rest follows
    rw [List.cons_append, same] at number
    rw [number]

/-! ## Containers -/

theorem writeItems_cons (item : Json) (rest : List Json) (more : rest ≠ []) :
    writeItems (item :: rest) = item.write ++ ',' :: writeItems rest := by
  cases rest with
  | nil => exact absurd rfl more
  | cons next rest => rfl

theorem readItems_writeItems (item : Json) (items : List Json)
    (members : ∀ member ∈ item :: items, member.ReadsBack) (fuel : Nat) (rest : List Char)
    (enough : (writeItems (item :: items)).length ≤ fuel) :
    readItems fuel (writeItems (item :: items) ++ rest) = (item :: items, true, rest) := by
  -- An item and the separator behind it take one step of the fuel and more than one character.
  induction items generalizing item fuel with
  | nil =>
      have back := members item List.mem_cons_self
      rw [writeItems, List.length_append, List.length_singleton] at enough
      obtain ⟨fuel, rfl⟩ := Nat.exists_eq_add_one_of_ne_zero (show fuel ≠ 0 by omega)
      have read := back.reads fuel (']' :: rest) (by omega) (.bracket rest)
      simp only [writeItems, List.append_assoc, List.cons_append, List.nil_append, readItems, read,
        back.whole, if_true, skipSpaces_follows _ (.bracket rest)]
  | cons next items ih =>
      have back := members item List.mem_cons_self
      rw [writeItems_cons _ _ (List.cons_ne_nil _ _), List.length_append, List.length_cons] at enough
      obtain ⟨fuel, rfl⟩ := Nat.exists_eq_add_one_of_ne_zero (show fuel ≠ 0 by omega)
      have read := back.reads fuel (',' :: (writeItems (next :: items) ++ rest)) (by omega)
        (.comma _)
      have others := ih next (fun member inside => members member (List.mem_cons_of_mem _ inside))
        fuel (by omega)
      rw [writeItems_cons _ _ (List.cons_ne_nil _ _)]
      simp only [List.append_assoc, List.cons_append, readItems, read, back.whole, if_true,
        skipSpaces_follows _ (.comma _), others]

theorem allWhole_of_readsBack (items : List Json)
    (members : ∀ item ∈ items, item.ReadsBack) : allWhole items = true := by
  induction items with
  | nil => rfl
  | cons item rest ih =>
      rw [allWhole, (members item List.mem_cons_self).whole,
        ih fun other later => members other (List.mem_cons_of_mem _ later)]
      rfl

theorem visible_writeItems (items : List Json) (members : ∀ item ∈ items, item.ReadsBack) :
    Visible (writeItems items) := by
  induction items with
  | nil => simp [Visible, writeItems]
  | cons item rest ih =>
      have here := (members item List.mem_cons_self).visible
      have others := ih fun other later => members other (List.mem_cons_of_mem _ later)
      cases rest with
      | nil => exact (visible_append _ _).mpr ⟨here, by simp [Visible]⟩
      | cons next rest =>
          exact (visible_append _ _).mpr ⟨here, (visible_cons _ _).mpr ⟨by decide, others⟩⟩

theorem readValue_items (fuel : Nat) (c : Char) (rest : List Char) (noSpace : isSpace c = false)
    (noBracket : c ≠ ']') : readValue (fuel + 1) ('[' :: c :: rest) =
      (array (readItems fuel (c :: rest)).1 (readItems fuel (c :: rest)).2.1,
        (readItems fuel (c :: rest)).2.2) := by
  simp only [readValue, skipSpaces_cons '[' _ rfl, skipSpaces_cons c _ noSpace]
  split
  next same => exact absurd (List.cons.inj same).1 noBracket
  next => rfl

theorem readsBack_ofList (items : List Json) (members : ∀ item ∈ items, item.ReadsBack) :
    (ofList items).ReadsBack := by
  refine ⟨?_, ⟨'[', _, rfl, rfl, by decide⟩, ?_, ?_⟩
  · rw [ofList, isWhole, allWhole_of_readsBack items members]
    rfl
  · intro fuel rest enough follows
    rw [ofList, write, List.length_cons] at enough
    obtain ⟨fuel, rfl⟩ := Nat.exists_eq_add_one_of_ne_zero (show fuel ≠ 0 by omega)
    rw [ofList, write, List.cons_append]
    cases items with
    | nil => rfl
    | cons item items =>
        have read := readItems_writeItems item items members fuel rest (by omega)
        obtain ⟨c, more, text, noSpace, noBracket⟩ := (members item List.mem_cons_self).begins
        have front : ∃ more, writeItems (item :: items) = c :: more := by
          cases items with
          | nil => exact ⟨_, congrArg (· ++ [']']) text⟩
          | cons next items => exact ⟨_, congrArg (· ++ ',' :: writeItems (next :: items)) text⟩
        obtain ⟨after, front⟩ := front
        rw [front, List.cons_append] at read ⊢
        rw [readValue_items fuel c _ noSpace noBracket, read]
  · exact (visible_cons _ _).mpr ⟨by decide, visible_writeItems items members⟩

theorem writeEntries_cons (key : String) (value : Json) (rest : List (String × Json))
    (more : rest ≠ []) : writeEntries ((key, value) :: rest) =
      quote key ++ ':' :: (value.write ++ ',' :: writeEntries rest) := by
  cases rest with
  | nil => exact absurd rfl more
  | cons next rest => rfl

theorem readEntries_writeEntries (entry : String × Json) (entries : List (String × Json))
    (members : ∀ member ∈ entry :: entries, member.2.ReadsBack) (fuel : Nat) (rest : List Char)
    (enough : (writeEntries (entry :: entries)).length ≤ fuel) :
    readEntries fuel (writeEntries (entry :: entries) ++ rest) =
      (entry :: entries, true, rest) := by
  induction entries generalizing entry fuel with
  | nil =>
      have back := members entry List.mem_cons_self
      simp only [writeEntries, List.length_append, List.length_cons, List.length_nil] at enough
      obtain ⟨fuel, rfl⟩ := Nat.exists_eq_add_one_of_ne_zero (show fuel ≠ 0 by omega)
      have read := back.reads fuel ('\x7d' :: rest) (by omega) (.brace rest)
      simp only [writeEntries, quote, List.append_assoc, List.cons_append, List.nil_append,
        readEntries, skipSpaces_cons '"' _ rfl, readString_quote, skipSpaces_cons ':' _ rfl, read,
        back.whole, if_true, skipSpaces_follows _ (.brace rest)]
  | cons next entries ih =>
      have back := members entry List.mem_cons_self
      rw [writeEntries_cons _ _ _ (List.cons_ne_nil _ _)] at enough ⊢
      simp only [List.length_append, List.length_cons] at enough
      obtain ⟨fuel, rfl⟩ := Nat.exists_eq_add_one_of_ne_zero (show fuel ≠ 0 by omega)
      have others := ih next (fun member inside => members member (List.mem_cons_of_mem _ inside))
        fuel (by omega)
      have read := back.reads fuel (',' :: (writeEntries (next :: entries) ++ rest)) (by omega)
        (.comma _)
      simp only [quote, List.append_assoc, List.cons_append, List.nil_append, readEntries,
        skipSpaces_cons '"' _ rfl, readString_quote, skipSpaces_cons ':' _ rfl, read, back.whole,
        if_true, skipSpaces_follows _ (.comma _), others]

theorem allWholeEntries_of_readsBack (entries : List (String × Json))
    (members : ∀ entry ∈ entries, entry.2.ReadsBack) : allWholeEntries entries = true := by
  induction entries with
  | nil => rfl
  | cons entry rest ih =>
      rw [allWholeEntries, (members entry List.mem_cons_self).whole,
        ih fun other later => members other (List.mem_cons_of_mem _ later)]
      rfl

theorem visible_writeEntries (entries : List (String × Json))
    (members : ∀ entry ∈ entries, entry.2.ReadsBack) : Visible (writeEntries entries) := by
  induction entries with
  | nil => simp [Visible, writeEntries]
  | cons entry rest ih =>
      have key := visible_quote entry.1
      have here := (members entry List.mem_cons_self).visible
      have others := ih fun other later => members other (List.mem_cons_of_mem _ later)
      cases rest with
      | nil =>
          rw [writeEntries, visible_append, visible_cons, visible_append]
          exact ⟨key, by decide, here, by simp [Visible]⟩
      | cons next rest =>
          rw [writeEntries_cons _ _ _ (List.cons_ne_nil _ _), visible_append, visible_cons,
            visible_append, visible_cons]
          exact ⟨key, by decide, here, by decide, others⟩

theorem readValue_entries (fuel : Nat) (rest : List Char) :
    readValue (fuel + 1) ('\x7b' :: '"' :: rest) =
      (object (readEntries fuel ('"' :: rest)).1 (readEntries fuel ('"' :: rest)).2.1,
        (readEntries fuel ('"' :: rest)).2.2) := rfl

theorem readsBack_ofEntries (entries : List (String × Json))
    (members : ∀ entry ∈ entries, entry.2.ReadsBack) : (ofEntries entries).ReadsBack := by
  refine ⟨?_, ⟨'\x7b', _, rfl, rfl, by decide⟩, ?_, ?_⟩
  · rw [ofEntries, isWhole, allWholeEntries_of_readsBack entries members]
    rfl
  · intro fuel rest enough follows
    rw [ofEntries, write, List.length_cons] at enough
    obtain ⟨fuel, rfl⟩ := Nat.exists_eq_add_one_of_ne_zero (show fuel ≠ 0 by omega)
    rw [ofEntries, write, List.cons_append]
    cases entries with
    | nil => rfl
    | cons entry entries =>
        have read := readEntries_writeEntries entry entries members fuel rest (by omega)
        have front : ∃ more, writeEntries (entry :: entries) = '"' :: more := by
          cases entries with
          | nil => exact ⟨_, rfl⟩
          | cons next entries => exact ⟨_, rfl⟩
        obtain ⟨after, front⟩ := front
        rw [front, List.cons_append] at read ⊢
        rw [readValue_entries, read]
  · exact (visible_cons _ _).mpr ⟨by decide, visible_writeEntries entries members⟩

/-- The compact text of such a value denotes it, and nothing else. -/
theorem read_compact (value : Json) (back : value.ReadsBack) :
    read value.compact = (value, true) := by
  have read := back.reads (value.compact.length + 1) []
  rw [compact, String.length_ofList, List.append_nil] at read
  rw [Json.read, compact, String.length_ofList, String.toList_ofList,
    read (Nat.le_succ _) .nothing]
  rfl

end HttpInspection.Json
