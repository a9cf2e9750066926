import HttpInspection.Exchange
import HttpInspection.Proofs.Verbatim
import HttpInspection.Proofs.WordEnds

/-!
# Two notions of case

A search lowers the case of all letters, a place is looked for with that of ASCII letters lowered
alone.  Where the characters of the literal have the same form in both, and no other character of the
value could stand for one of them, whatever the search hits has a place.
-/

set_option autoImplicit false

namespace HttpInspection

open Http

namespace Lowercase

/-! ## Characters with the same form in both -/

/-- The characters that stand in the form of a character, wherever it is. -/
def forms (c : Char) : List Char :=
  if c = capitalSigma then ['σ', 'ς'] else char c

/-- A character with the form that it has in ASCII, wherever it is. -/
def FoldsAlike (c : Char) : Prop :=
  forms c = [asciiChar c]

instance (c : Char) : Decidable (FoldsAlike c) :=
  inferInstanceAs (Decidable (_ = _))

/-- A character cannot stand for one of the needle unless its form is the same in ASCII. -/
def ApartFrom (needle : List Char) (c : Char) : Prop :=
  FoldsAlike c ∨ ∀ d ∈ forms c, d ∉ needle

instance (needle : List Char) (c : Char) : Decidable (ApartFrom needle c) :=
  decidable_of_iff (FoldsAlike c ∨ ((forms c).all fun d => d ∉ needle) = true)
    (or_congr_right List.all_iff_forall_prop)

theorem mem_forms_of_mem_form (before after : List Char) (c d : Char)
    (member : d ∈ form before after c) : d ∈ forms c := by
  by_cases sigma : c = capitalSigma
  · rw [form, if_pos sigma, List.mem_singleton] at member
    rw [forms, if_pos sigma, member, sigmaForm]
    split <;> decide
  · rw [form, if_neg sigma] at member
    rwa [forms, if_neg sigma]

theorem form_of_foldsAlike (before after : List Char) (c : Char) (alike : FoldsAlike c) :
    form before after c = [asciiChar c] := by
  by_cases sigma : c = capitalSigma
  · subst sigma
    exact absurd alike (by decide)
  · rw [FoldsAlike, forms, if_neg sigma] at alike
    rw [form, if_neg sigma, alike]

theorem form_ne_nil (before after : List Char) (c : Char) : form before after c ≠ [] := by
  unfold form char
  split
  · simp
  · split
    · simp
    · split <;> simp

theorem lowerAfter_of_foldsAlike (before text : List Char) (alike : ∀ c ∈ text, FoldsAlike c) :
    lowerAfter before text = ascii text := by
  induction text generalizing before with
  | nil => rfl
  | cons c rest ih =>
      rw [lowerAfter_cons, form_of_foldsAlike _ _ c (alike c List.mem_cons_self),
        ih _ fun d member => alike d (List.mem_cons_of_mem _ member)]
      rfl

/-! ## Occurrences -/

theorem infix_of_infix_append {α : Type} (needle front back : List α) (notEmpty : needle ≠ [])
    (apart : ∀ a ∈ front, a ∉ needle) (occurs : needle <:+: front ++ back) : needle <:+: back := by
  induction front with
  | nil => exact occurs
  | cons a rest ih =>
      rw [List.cons_append] at occurs
      rcases List.infix_cons_iff.mp occurs with here | later
      · obtain ⟨first, more, rfl⟩ := List.exists_cons_of_ne_nil notEmpty
        obtain ⟨rfl, -⟩ := List.cons_prefix_cons.mp here
        exact absurd List.mem_cons_self (apart first List.mem_cons_self)
      · exact ih (fun b member => apart b (List.mem_cons_of_mem _ member)) later

/-- The needle may be cut at its front, so that the induction is on the text alone. -/
theorem ascii_prefix_of_leading (needle before text : List Char)
    (apart : ∀ c ∈ text, ApartFrom needle c) (starts : needle <+: lowerAfter before text) :
    needle <+: ascii text := by
  induction text generalizing needle before with
  | nil => exact starts
  | cons c rest ih =>
      cases needle with
      | nil => exact List.nil_prefix
      | cons first more =>
          rw [lowerAfter_cons] at starts
          rcases apart c List.mem_cons_self with alike | away
          · rw [form_of_foldsAlike _ _ c alike, List.singleton_append] at starts
            obtain ⟨rfl, later⟩ := List.cons_prefix_cons.mp starts
            have tail : ∀ d ∈ rest, ApartFrom more d := by
              intro d member
              rcases apart d (List.mem_cons_of_mem _ member) with same | away
              · exact .inl same
              · exact .inr fun x inForms inMore => away x inForms (List.mem_cons_of_mem _ inMore)
            exact List.cons_prefix_cons.mpr ⟨rfl, ih more _ tail later⟩
          · obtain ⟨d, ds, shape⟩ := List.exists_cons_of_ne_nil (form_ne_nil before rest c)
            have inForms : d ∈ forms c :=
              mem_forms_of_mem_form before rest c d (by rw [shape]; exact List.mem_cons_self)
            rw [shape, List.cons_append] at starts
            obtain ⟨rfl, -⟩ := List.cons_prefix_cons.mp starts
            exact absurd List.mem_cons_self (away first inForms)

theorem ascii_infix_of_infix (needle before text : List Char) (notEmpty : needle ≠ [])
    (apart : ∀ c ∈ text, ApartFrom needle c) (occurs : needle <:+: lowerAfter before text) :
    needle <:+: ascii text := by
  induction text generalizing before with
  | nil => exact occurs
  | cons c rest ih =>
      have inRest := ih (c :: before) fun d member => apart d (List.mem_cons_of_mem _ member)
      have whole : ascii (c :: rest) = asciiChar c :: ascii rest := rfl
      rw [whole]
      rcases apart c List.mem_cons_self with alike | away
      · rw [lowerAfter_cons, form_of_foldsAlike _ _ c alike, List.singleton_append] at occurs
        rcases List.infix_cons_iff.mp occurs with here | later
        · have starts : needle <+: lowerAfter before (c :: rest) := by
            rwa [lowerAfter_cons, form_of_foldsAlike _ _ c alike, List.singleton_append]
          exact (ascii_prefix_of_leading needle before (c :: rest) apart starts).isInfix
        · exact List.infix_cons (inRest later)
      · rw [lowerAfter_cons] at occurs
        refine List.infix_cons (inRest (infix_of_infix_append needle _ _ notEmpty ?_ occurs))
        exact fun d member => away d (mem_forms_of_mem_form before rest c d member)

end Lowercase

/-- Where the forms of the literal are those of ASCII and nothing else in the value could stand for
them, an occurrence regardless of case is one regardless of ASCII case. -/
theorem occursIgnoringAsciiCase_of_apart (literal value : String) (notEmpty : literal ≠ "")
    (alike : ∀ c ∈ literal.toList, Lowercase.FoldsAlike c)
    (apart : ∀ c ∈ value.toList, Lowercase.ApartFrom (lowercase literal).toList c)
    (occurs : occursIgnoringCase literal value = true) :
    OccursIgnoringAsciiCase literal value := by
  have lowered : Lowercase.text literal.toList = Lowercase.ascii literal.toList :=
    Lowercase.lowerAfter_of_foldsAlike [] _ alike
  rw [lowercase, String.toList_ofList, lowered] at apart
  rw [occursIgnoringCase_iff, lowered] at occurs
  refine Lowercase.ascii_infix_of_infix _ [] _ ?_ apart occurs
  simpa [Lowercase.ascii] using notEmpty

theorem splitLines_of_oneLine (line : List Char) (oneLine : '\n' ∉ line) :
    splitLines line = [line] := by
  have ordinary : ∀ c ∈ line, (c == '\n') = false := by
    intro c member
    rw [beq_eq_false_iff_ne]
    rintro rfl
    exact oneLine member
  have cut := splitAtEvery_append (· == '\n') line [] [] [] ordinary rfl
  rwa [List.append_nil] at cut

theorem hasPlace_of_hit (mode : SearchMode) (value raw : String) (pattern : mode.pattern = "")
    (undecoded : mode.effectiveEncodings = [])
    (alike : ∀ c ∈ mode.literal.toList, Lowercase.FoldsAlike c)
    (apart : ∀ c ∈ value.toList, Lowercase.ApartFrom (lowercase mode.literal).toList c)
    (hit : (mode.search value).value ≠ []) (line : value.toList ∈ splitLines raw.toList) :
    HasPlace raw mode.literal := by
  obtain ⟨found, member⟩ := List.exists_mem_of_ne_nil _ hit
  rw [mode.search_of_literal value pattern undecoded, mode.mem_literalHit_iff] at member
  obtain ⟨-, notEmpty, occurs⟩ := member
  have inLine := occursIgnoringAsciiCase_of_apart mode.literal value notEmpty alike apart occurs
  exact hasPlace_of_located raw mode.literal
    ((locate_isSome_iff raw mode.literal).mpr ⟨notEmpty, value.toList, line, inLine⟩)

/-- A hit of a literal in a line has a place there, and no finding of it is dropped, where the
literal has the same form in ASCII and no other character of the line stands for one of its own. -/
theorem literal_hit_has_place (mode : SearchMode) (value : String) (pattern : mode.pattern = "")
    (undecoded : mode.effectiveEncodings = []) (oneLine : '\n' ∉ value.toList)
    (alike : ∀ c ∈ mode.literal.toList, Lowercase.FoldsAlike c)
    (apart : ∀ c ∈ value.toList, Lowercase.ApartFrom (lowercase mode.literal).toList c)
    (hit : (mode.search value).value ≠ []) :
    (locate value mode.literal).isSome = true ∧
      ∀ raw : String, value.toList ∈ splitLines raw.toList → HasPlace raw mode.literal := by
  have everywhere (raw : String) :=
    hasPlace_of_hit mode value raw pattern undecoded alike apart hit
  refine ⟨(everywhere value ?_).1, everywhere⟩
  rw [splitLines_of_oneLine value.toList oneLine]
  exact List.mem_singleton.mpr rfl

theorem literal_hit_has_place_mixed :
    '\n' ∉ "É% UNION Ж".toList ∧ (∀ c ∈ "% union".toList, Lowercase.FoldsAlike c) ∧
      (∀ c ∈ "É% UNION Ж".toList, Lowercase.ApartFrom (lowercase "% union").toList c) ∧
      (SearchMode.search { literal := "% union" } "É% UNION Ж").value ≠ [] ∧
      (locate "É% UNION Ж" "% union").isSome = true := by
  have oneLine : '\n' ∉ "É% UNION Ж".toList := by decide
  have alike : ∀ c ∈ "% union".toList, Lowercase.FoldsAlike c :=
    List.all_iff_forall_prop.mp (by decide +kernel)
  have apart : ∀ c ∈ "É% UNION Ж".toList, Lowercase.ApartFrom (lowercase "% union").toList c :=
    List.all_iff_forall_prop.mp (by decide +kernel)
  have hit : (SearchMode.search { literal := "% union" } "É% UNION Ж").value ≠ [] := by
    decide +kernel
  exact ⟨oneLine, alike, apart, hit,
    (literal_hit_has_place { literal := "% union" } _ rfl rfl oneLine alike apart hit).1⟩

def wordGuard : Agent where
  agentId := "guard"
  settings := { mode := .waf }
  rules :=
    { rules := [{ id := "word"
                  info := { severity := .high, action := some .drop }
                  request := some { body := [{ mode := { literal := "пароль" } }] } }] }

def capitalsRequest : Request where
  body := ⟨bytesOf "ПАРОЛЬ", 0⟩

/-- Capitals beyond ASCII are hit, but the word has no place in them, and so the request is let
through. -/
theorem capitals_have_no_place :
    '\n' ∉ "ПАРОЛЬ".toList ∧ '\n' ∉ "пароль".toList ∧
      (SearchMode.search { literal := "пароль" } "ПАРОЛЬ").value = ["пароль"] ∧
      locate "ПАРОЛЬ" "пароль" = none ∧
      (wordGuard.handle { forward := fun _ => .ok {} } capitalsRequest).outcome.blocked = false := by
  refine ⟨by decide, by decide, ?_, ?_, ?_⟩
  · decide +kernel
  · decide +kernel
  · decide +kernel

/-! ## Literals in ASCII -/

namespace Lowercase

theorem foldsAlike_of_ascii (c : Char) (ascii : c.toNat < 0x80) : FoldsAlike c := by
  have notSigma : c ≠ capitalSigma := by
    rintro rfl
    exact absurd ascii (by decide)
  rw [FoldsAlike, forms, if_neg notSigma, char, if_pos ascii]

theorem asciiChar_ascii (c : Char) (ascii : c.toNat < 0x80) : (asciiChar c).toNat < 0x80 := by
  by_cases capital : isAsciiCapital c = true
  · have range : 65 ≤ c.toNat ∧ c.toNat ≤ 90 := by
      simpa [isAsciiCapital, Char.le_def, UInt32.le_iff_toNat_le] using capital
    rw [asciiChar, if_pos capital, Utf8.toNat_ofNat_ascii _ (by omega)]
    omega
  · rw [asciiChar, if_neg capital]
    exact ascii

/-- The rows of the table that lead to ASCII are those of its own capitals and of the sign of the
kelvin. -/
theorem row_beyond_ascii (row : CaseTable.Row) (inTable : row ∈ CaseTable.lowerRows) :
    row.last < 0x80 ∨ (row.first = 0x212A ∧ row.last = 0x212A) ∨
      (0x80 ≤ row.image ∧ row.last - row.first + row.image < 0xD800) ∨
        (0xE000 ≤ row.image ∧ row.last - row.first + row.image < 0x110000) := by
  have all : ∀ row ∈ CaseTable.lowerRows, row.last < 0x80 ∨
      (row.first = 0x212A ∧ row.last = 0x212A) ∨
      (0x80 ≤ row.image ∧ row.last - row.first + row.image < 0xD800) ∨
        (0xE000 ≤ row.image ∧ row.last - row.first + row.image < 0x110000) := by
    decide +kernel
  exact all row inTable

theorem forms_beyond_ascii (c d : Char) (large : 0x80 ≤ c.toNat) (notDotted : c.toNat ≠ 0x130)
    (notKelvin : c.toNat ≠ 0x212A) (member : d ∈ forms c) : 0x80 ≤ d.toNat := by
  by_cases sigma : c = capitalSigma
  · rw [forms, if_pos sigma] at member
    have both : ∀ e ∈ ['σ', 'ς'], 0x80 ≤ e.toNat :=
      List.all_iff_forall_prop.mp (by decide)
    exact both d member
  · rw [forms, if_neg sigma, char, if_neg (by omega), if_neg notDotted,
      List.mem_singleton] at member
    cases imaged : CaseTable.image? CaseTable.lowerRows c.toNat with
    | none =>
        rw [imaged] at member
        rw [member]
        exact large
    | some image =>
        rw [imaged] at member
        obtain ⟨row, found, same⟩ := Option.map_eq_some_iff.mp imaged
        have holds := List.find?_some found
        simp only [CaseTable.Row.holds, Bool.and_eq_true, decide_eq_true_eq] at holds
        have inTable := row_beyond_ascii row (List.mem_of_find?_eq_some found)
        have valid : image.isValidChar := by
          unfold Nat.isValidChar
          omega
        have exact : (Char.ofNat image).toNat = image := by
          rw [Char.ofNat, dif_pos valid]
          rfl
        rw [member, Option.map_some, Option.getD_some, exact]
        omega

end Lowercase

/-- Hits of a literal in ASCII are lost to two characters only: the capital I with a dot and the sign
of the kelvin. -/
theorem ascii_literal_hit_has_place (mode : SearchMode) (value raw : String)
    (pattern : mode.pattern = "") (undecoded : mode.effectiveEncodings = [])
    (ascii : ∀ c ∈ mode.literal.toList, c.toNat < 0x80)
    (ordinary : ∀ c ∈ value.toList, c.toNat ≠ 0x130 ∧ c.toNat ≠ 0x212A)
    (hit : (mode.search value).value ≠ []) (line : value.toList ∈ splitLines raw.toList) :
    HasPlace raw mode.literal := by
  have alike (c : Char) (member : c ∈ mode.literal.toList) : Lowercase.FoldsAlike c :=
    Lowercase.foldsAlike_of_ascii c (ascii c member)
  refine hasPlace_of_hit mode value raw pattern undecoded alike ?_ hit line
  intro c member
  by_cases small : c.toNat < 0x80
  · exact .inl (Lowercase.foldsAlike_of_ascii c small)
  · refine .inr fun d inForms inLiteral => ?_
    have large := Lowercase.forms_beyond_ascii c d (by omega) (ordinary c member).1
      (ordinary c member).2 inForms
    have lowered : Lowercase.text mode.literal.toList = Lowercase.ascii mode.literal.toList :=
      Lowercase.lowerAfter_of_foldsAlike [] _ alike
    rw [lowercase, String.toList_ofList, lowered] at inLiteral
    obtain ⟨e, given, rfl⟩ := List.mem_map.mp inLiteral
    have below := Lowercase.asciiChar_ascii e (ascii e given)
    omega

end HttpInspection
