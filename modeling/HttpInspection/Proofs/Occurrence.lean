import HttpInspection.Position
import HttpInspection.Proofs.Splitting
import HttpInspection.Proofs.Utf8

/-!
# Occurrences of texts

Searching decides whether a list is an infix of another.  A text without a newline that occurs in a
text of many lines occurs in one of them, and therefore `locate` finds a place exactly for the texts
that are not empty and occur in a line.
-/

set_option autoImplicit false

namespace HttpInspection

/-- A text occurs in another regardless of the case of ASCII letters. -/
def OccursIgnoringAsciiCase (needle text : String) : Prop :=
  Lowercase.ascii needle.toList <:+: Lowercase.ascii text.toList

/-- A text that is not empty occurs in a line of another regardless of the case of ASCII letters. -/
def OccursInLine (raw needle : String) : Prop :=
  needle ≠ "" ∧ ∃ line ∈ splitLines raw.toList,
    Lowercase.ascii needle.toList <:+: Lowercase.ascii line

/-! ## Searching a list -/

section Search
variable {α : Type} [BEq α] [LawfulBEq α]

theorem startsWith_iff (needle text : List α) :
    startsWith needle text = true ↔ needle <+: text := by
  induction needle generalizing text with
  | nil => simp [startsWith]
  | cons a needle ih =>
      cases text with
      | nil => simp [startsWith]
      | cons b rest => simp [startsWith, List.cons_prefix_cons, ih]

theorem beforeFirst_isSome_iff (needle text : List α) :
    (beforeFirst? needle text).isSome = true ↔ needle <:+: text := by
  induction text with
  | nil => cases needle <;> simp [beforeFirst?]
  | cons a rest ih =>
      rw [List.infix_cons_iff, ← startsWith_iff, ← ih]
      by_cases here : startsWith needle (a :: rest) = true
      · simp [beforeFirst?, here]
      · simp [beforeFirst?, here]

end Search

/-! ## Lines -/

theorem Lowercase.asciiChar_newline (c : Char) :
    (Lowercase.asciiChar c == '\n') = (c == '\n') := by
  by_cases capital : Lowercase.isAsciiCapital c = true
  · have range : 65 ≤ c.toNat ∧ c.toNat ≤ 90 := by
      simpa [Lowercase.isAsciiCapital, Char.le_def, UInt32.le_iff_toNat_le] using capital
    have lowered : (Char.ofNat (c.toNat + 32)).toNat = c.toNat + 32 :=
      Utf8.toNat_ofNat_ascii _ (by omega)
    have neither : ∀ d : Char, 10 < d.toNat → (d == '\n') = false := by
      intro d large
      rw [beq_eq_false_iff_ne]
      rintro rfl
      exact absurd large (by decide)
    rw [Lowercase.asciiChar, if_pos capital, neither _ (by omega), neither _ (by omega)]
  · rw [Lowercase.asciiChar, if_neg capital]

theorem exists_line_containing (needle text : List Char) (oneLine : '\n' ∉ needle)
    (occurs : Lowercase.ascii needle <:+: Lowercase.ascii text) :
    ∃ line ∈ splitLines text, Lowercase.ascii needle <:+: Lowercase.ascii line := by
  have ordinary : ∀ c ∈ Lowercase.ascii needle, (c == '\n') = false := by
    intro c member
    obtain ⟨d, inNeedle, rfl⟩ := List.mem_map.mp member
    rw [Lowercase.asciiChar_newline, beq_eq_false_iff_ne]
    rintro rfl
    exact oneLine inNeedle
  obtain ⟨piece, member, inside⟩ :=
    exists_piece_containing (· == '\n') _ (Lowercase.ascii text) ordinary occurs
  rw [Lowercase.ascii, splitAtEvery_map (· == '\n') _ Lowercase.asciiChar_newline] at member
  obtain ⟨line, inText, rfl⟩ := List.mem_map.mp member
  exact ⟨line, inText, inside⟩

theorem offsetIn_isSome_iff (needle line : List Char) :
    (offsetIn? needle line).isSome = true ↔ Lowercase.ascii needle <:+: Lowercase.ascii line := by
  rw [offsetIn?, Option.isSome_map, beforeFirst_isSome_iff]

theorem locateInLines_isSome_iff (needle : List Char) (first : Nat) (lines : List (List Char)) :
    (locateInLines needle first lines).isSome = true ↔
      ∃ line ∈ lines, Lowercase.ascii needle <:+: Lowercase.ascii line := by
  induction lines generalizing first with
  | nil => simp [locateInLines]
  | cons line rest ih =>
      simp only [List.mem_cons, exists_eq_or_imp, ← offsetIn_isSome_iff] at ih ⊢
      rw [← ih (first + 1)]
      cases here : offsetIn? needle line with
      | none => simp [locateInLines, here]
      | some offset => simp [locateInLines, here]

theorem locate_isSome_iff (raw needle : String) :
    (locate raw needle).isSome = true ↔ OccursInLine raw needle := by
  unfold locate OccursInLine
  by_cases empty : needle = ""
  · simp [empty]
  · have notEmpty : ¬ needle.isEmpty = true := by simpa using empty
    rw [if_neg notEmpty, locateInLines_isSome_iff]
    simp [empty]

theorem occursInLine_of_occurs (raw needle : String) (notEmpty : needle ≠ "")
    (oneLine : '\n' ∉ needle.toList) (occurs : OccursIgnoringAsciiCase needle raw) :
    OccursInLine raw needle :=
  ⟨notEmpty, exists_line_containing needle.toList raw.toList oneLine occurs⟩

end HttpInspection
