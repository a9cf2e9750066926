import HttpInspection.Proofs.NestedEncodings
import HttpInspection.Proofs.Occurrence
import Mathlib.Data.Bool.AllAny

/-!
# Lower case in context

The lower-case form of a part of a text is that of the part by itself, except for a capital sigma
whose place at the end of a word depends on what stands around the part.  A literal is therefore
found wherever it stands verbatim exactly if the literal itself settles the word ends at its capital
sigmas.
-/

set_option autoImplicit false

namespace HttpInspection

namespace Lowercase

/-! ## Parts of texts -/

/-- The capital letter that has a form of its own at the end of a word. -/
def capitalSigma : Char := 'Σ'

theorem toNat_eq_capitalSigma_iff (c : Char) : c.toNat = 0x3A3 ↔ c = capitalSigma :=
  ⟨fun same => Char.toNat_inj.mp same, fun same => same ▸ rfl⟩

def sigmaForm (before after : List Char) : Char :=
  Char.ofNat (if endsWord before after then 0x3C2 else 0x3C3)

/-- The form of a character between what precedes it, nearest first, and what follows it. -/
def form (before after : List Char) (c : Char) : List Char :=
  if c = capitalSigma then [sigmaForm before after] else char c

theorem form_sigma (before after : List Char) :
    form before after capitalSigma = [sigmaForm before after] :=
  if_pos rfl

/-- The form of a part of a text between what precedes it, nearest first, and what follows it. -/
def within (before after : List Char) : List Char → List Char
  | [] => []
  | c :: rest => form before (rest ++ after) c ++ within (c :: before) after rest

theorem lowerAfter_cons (before : List Char) (c : Char) (rest : List Char) :
    lowerAfter before (c :: rest) = form before rest c ++ lowerAfter (c :: before) rest := by
  simp only [lowerAfter, form, toNat_eq_capitalSigma_iff, sigmaForm]

theorem lowerAfter_append (before front back : List Char) :
    lowerAfter before (front ++ back) =
      within before back front ++ lowerAfter (front.reverse ++ before) back := by
  induction front generalizing before with
  | nil => rfl
  | cons c rest ih =>
      rw [List.cons_append, lowerAfter_cons, ih, within, List.append_assoc]
      simp

theorem lowerAfter_eq_within (before part : List Char) :
    lowerAfter before part = within before [] part := by
  have whole := lowerAfter_append before part []
  rwa [List.append_nil, lowerAfter, List.append_nil] at whole

theorem within_append (before after front back : List Char) :
    within before after (front ++ back) =
      within before (back ++ after) front ++ within (front.reverse ++ before) after back := by
  induction front generalizing before with
  | nil => rfl
  | cons c rest ih =>
      rw [List.cons_append, within, ih, within, List.append_assoc, List.append_assoc]
      simp

theorem text_append_append (front part back : List Char) :
    text (front ++ part ++ back) =
      within [] (part ++ back) front ++ within front.reverse back part ++
        lowerAfter (part.reverse ++ front.reverse) back := by
  rw [text, List.append_assoc, lowerAfter_append, lowerAfter_append, List.append_nil,
    List.append_assoc]

/-! ## Word ends -/

/-- Whether the nearest character that is not ignorable has case; nothing if all are ignorable. -/
def nearestCased? : List Char → Option Bool
  | [] => none
  | c :: rest =>
    if CaseTable.caseIgnorable.contains c.toNat then nearestCased? rest
    else some (CaseTable.cased.contains c.toNat)

theorem nextIsCased_eq (text : List Char) : nextIsCased text = (nearestCased? text).getD false := by
  induction text with
  | nil => rfl
  | cons c rest ih =>
      by_cases ignorable : CaseTable.caseIgnorable.contains c.toNat = true
      · rw [nextIsCased, nearestCased?, if_pos ignorable, if_pos ignorable, ih]
      · rw [nextIsCased, nearestCased?, if_neg ignorable, if_neg ignorable, Option.getD_some]

theorem nearestCased_append (near far : List Char) :
    nearestCased? (near ++ far) = (nearestCased? near).or (nearestCased? far) := by
  induction near with
  | nil => rfl
  | cons c rest ih =>
      by_cases ignorable : CaseTable.caseIgnorable.contains c.toNat = true
      · rw [List.cons_append, nearestCased?, if_pos ignorable, nearestCased?, if_pos ignorable, ih]
      · rw [List.cons_append, nearestCased?, if_neg ignorable, nearestCased?, if_neg ignorable,
          Option.some_or]

/-- The characters of a table as they are given, so that evaluation need not take them out of a
string one by one. -/
theorem ofHex_of_digits (text : String) (digits : List Char) (given : text = String.ofList digits) :
    Ranges.ofHex text = Ranges.readHex digits none none := by
  rw [given, Ranges.ofHex, String.toList_ofList]

/-- Some letters that are cased and not ignorable. -/
theorem nearestCased_letter (c : Char) (letter : c ∈ ['A', 'Ο', 'Τ']) (rest : List Char) :
    nearestCased? (c :: rest) = some true := by
  -- There are finitely many characters, and deciding for all that are in the list would try them all.
  have ordinary : ∀ d ∈ ['A', 'Ο', 'Τ'], CaseTable.caseIgnorable.contains d.toNat = false := by
    rw [CaseTable.caseIgnorable, ofHex_of_digits _ _ rfl]
    exact List.all_iff_forall_prop.mp (by decide +kernel)
  have cased : ∀ d ∈ ['A', 'Ο', 'Τ'], CaseTable.cased.contains d.toNat = true := by
    rw [CaseTable.cased, ofHex_of_digits _ _ rfl]
    exact List.all_iff_forall_prop.mp (by decide +kernel)
  rw [nearestCased?, ordinary c letter, cased c letter]
  rfl

theorem nearestCased_blank (rest : List Char) : nearestCased? (' ' :: rest) = some false := by
  have ordinary : CaseTable.caseIgnorable.contains ' '.toNat = false := by
    rw [CaseTable.caseIgnorable, ofHex_of_digits _ _ rfl]
    decide +kernel
  have uncased : CaseTable.cased.contains ' '.toNat = false := by
    rw [CaseTable.cased, ofHex_of_digits _ _ rfl]
    decide +kernel
  rw [nearestCased?, ordinary, uncased]
  rfl

/-- Whether a word ends between two parts of a text does not depend on what is beyond them: no word
ends behind a character without case or in front of one with case, and one that is not ignorable on
either side leaves nothing open. -/
def WordEndSettled (before after : List Char) : Prop :=
  nearestCased? before = some false ∨ nearestCased? after = some true ∨
    ((nearestCased? before).isSome = true ∧ (nearestCased? after).isSome = true)

instance (before after : List Char) : Decidable (WordEndSettled before after) :=
  inferInstanceAs (Decidable (_ ∨ _ ∨ (_ ∧ _)))

theorem endsWord_append (before after further behind : List Char)
    (settled : WordEndSettled before after) :
    endsWord (before ++ further) (after ++ behind) = endsWord before after := by
  simp only [endsWord, nextIsCased_eq, nearestCased_append]
  rcases settled with uncased | cased | ⟨near, next⟩
  · simp [uncased]
  · simp [cased]
  · obtain ⟨first, first_eq⟩ := Option.isSome_iff_exists.mp near
    obtain ⟨second, second_eq⟩ := Option.isSome_iff_exists.mp next
    simp [first_eq, second_eq]

theorem sigmaForm_eq_final_iff (before after : List Char) :
    sigmaForm before after = 'ς' ↔ endsWord before after = true := by
  cases ends : endsWord before after <;> simp [sigmaForm, ends]

theorem sigmaForm_eq_medial_iff (before after : List Char) :
    sigmaForm before after = 'σ' ↔ endsWord before after = false := by
  cases ends : endsWord before after <;> simp [sigmaForm, ends]

theorem endsWord_of_further (before after : List Char) (c : Char)
    (cased : nearestCased? [c] = some true) (ends : endsWord before after = true) :
    endsWord (before ++ [c]) after = true := by
  simp only [endsWord, nextIsCased_eq, nearestCased_append, cased, Bool.and_eq_true] at ends ⊢
  refine ⟨?_, ends.2⟩
  cases near : nearestCased? before <;> simp_all

theorem endsWord_of_behind (before after : List Char) (c : Char)
    (cased : nearestCased? [c] = some true) (ends : endsWord before (after ++ [c]) = true) :
    endsWord before after = true := by
  simp only [endsWord, nextIsCased_eq, nearestCased_append, cased, Bool.and_eq_true] at ends ⊢
  refine ⟨ends.1, ?_⟩
  cases next : nearestCased? after <;> simp_all

theorem exists_letter_of_not_settled (before after : List Char) (c : Char)
    (cased : nearestCased? [c] = some true) (unsettled : ¬ WordEndSettled before after) :
    (endsWord before after = true ∧ endsWord before (after ++ [c]) = false) ∨
      (endsWord before after = false ∧ endsWord (before ++ [c]) after = true) := by
  simp only [WordEndSettled, endsWord, nextIsCased_eq, nearestCased_append, cased] at unsettled ⊢
  cases near : nearestCased? before with
  | none =>
      refine .inr ⟨by simp, ?_⟩
      cases next : nearestCased? after <;> simp_all
  | some nearCased =>
      refine .inl ?_
      cases next : nearestCased? after <;> simp_all

/-! ## Capital sigmas -/

/-- The text settles the word ends at its capital sigmas; `before` precedes it, nearest first. -/
def SigmasSettledAfter (before : List Char) : List Char → Prop
  | [] => True
  | c :: rest =>
    (c = capitalSigma → WordEndSettled before rest) ∧ SigmasSettledAfter (c :: before) rest

/-- The text settles the word ends at its capital sigmas by itself. -/
def SigmasSettled (text : List Char) : Prop :=
  SigmasSettledAfter [] text

theorem within_of_settled (before further after part : List Char)
    (settled : SigmasSettledAfter before part) :
    within (before ++ further) after part = within before [] part := by
  induction part generalizing before with
  | nil => rfl
  | cons c rest ih =>
      have later := ih (c :: before) settled.2
      rw [List.cons_append] at later
      rw [within, within, later, List.append_nil]
      by_cases sigma : c = capitalSigma
      · simp only [form, if_pos sigma, sigmaForm, endsWord_append _ _ _ _ (settled.1 sigma)]
      · simp only [form, if_neg sigma]

/-- The form of a settled part stands in the form of every text with the part in it. -/
theorem text_infix_of_settled (front part back : List Char) (settled : SigmasSettled part) :
    text part <:+: text (front ++ part ++ back) := by
  have same := within_of_settled [] front.reverse back part settled
  rw [List.nil_append] at same
  rw [text_append_append, same, ← lowerAfter_eq_within]
  exact List.infix_append _ _ _

theorem exists_unsettled (before part : List Char) (unsettled : ¬ SigmasSettledAfter before part) :
    ∃ front back, part = front ++ capitalSigma :: back ∧
      ¬ WordEndSettled (front.reverse ++ before) back := by
  induction part generalizing before with
  | nil => exact absurd trivial unsettled
  | cons c rest ih =>
      by_cases here : c = capitalSigma → WordEndSettled before rest
      · have later : ¬ SigmasSettledAfter (c :: before) rest := fun tail => unsettled ⟨here, tail⟩
        obtain ⟨front, back, rfl, there⟩ := ih (c :: before) later
        refine ⟨c :: front, back, rfl, ?_⟩
        simpa using there
      · obtain ⟨rfl, there⟩ := Classical.not_imp.mp here
        exact ⟨[], rest, rfl, there⟩

/-! ## Counting forms of sigma -/

section Count
variable (sigma : Char) (further behind : List Char)
  (fewer : ∀ before after, sigmaForm (before ++ further) (after ++ behind) = sigma →
    sigmaForm before after = sigma)
include fewer

theorem count_form_le (before after : List Char) (c : Char) :
    (form (before ++ further) (after ++ behind) c).count sigma ≤
      (form before after c).count sigma := by
  by_cases isSigma : c = capitalSigma
  · simp only [form, if_pos isSigma]
    by_cases same : sigmaForm (before ++ further) (after ++ behind) = sigma
    · exact Nat.le_of_eq (by rw [same, fewer before after same])
    · have lost : [sigmaForm (before ++ further) (after ++ behind)].count sigma = 0 := by
        rw [List.count_singleton, if_neg (by simpa using same)]
      omega
  · simp only [form, if_neg isSigma]
    exact Nat.le_refl _

theorem count_within_le (before after part : List Char) :
    (within (before ++ further) (after ++ behind) part).count sigma ≤
      (within before after part).count sigma := by
  induction part generalizing before with
  | nil => exact Nat.le_refl _
  | cons c rest ih =>
      have here := count_form_le sigma further behind fewer before (rest ++ after) c
      have later := ih (c :: before)
      rw [List.append_assoc] at here
      rw [within, within, List.count_append, List.count_append]
      exact Nat.add_le_add here later

theorem count_within_lt (front back : List Char)
    (alone : sigmaForm front.reverse back = sigma)
    (between : sigmaForm (front.reverse ++ further) (back ++ behind) ≠ sigma) :
    (within further behind (front ++ capitalSigma :: back)).count sigma <
      (text (front ++ capitalSigma :: back)).count sigma := by
  have first := count_within_le sigma further behind fewer [] (capitalSigma :: back) front
  have last := count_within_le sigma further behind fewer (capitalSigma :: front.reverse) [] back
  have here : (form front.reverse back capitalSigma).count sigma = 1 := by
    rw [form_sigma, alone, List.count_singleton_self]
  have lost : (form (front.reverse ++ further) (back ++ behind) capitalSigma).count sigma = 0 := by
    rw [form_sigma, List.count_singleton, if_neg (by simpa using between)]
  rw [text, lowerAfter_eq_within, within_append, within_append, within, within]
  simp only [List.nil_append, List.append_nil, List.cons_append] at first last ⊢
  rw [List.count_append, List.count_append, List.count_append, List.count_append, here, lost]
  omega

end Count

theorem not_infix_of_count_lt (sigma : Char) (front part back : List Char)
    (nowhere : sigma ∉ within [] (part ++ back) front)
    (beyond : sigma ∉ lowerAfter (part.reverse ++ front.reverse) back)
    (fewer : (within front.reverse back part).count sigma < (text part).count sigma) :
    ¬ text part <:+: text (front ++ part ++ back) := by
  intro occurs
  have counted := occurs.sublist.count_le sigma
  rw [text_append_append, List.count_append, List.count_append,
    List.count_eq_zero_of_not_mem nowhere, List.count_eq_zero_of_not_mem beyond] at counted
  omega

/-- A text that does not settle its capital sigmas has another form in front of some letter or behind
it. -/
theorem exists_context_of_unsettled (part : List Char) (unsettled : ¬ SigmasSettled part) :
    ∃ front back, ¬ text part <:+: text (front ++ part ++ back) := by
  obtain ⟨front, back, rfl, there⟩ := exists_unsettled [] part unsettled
  rw [List.append_nil] at there
  rcases exists_letter_of_not_settled front.reverse back 'A'
      (nearestCased_letter 'A' (by decide) []) there with
    ⟨alone, between⟩ | ⟨alone, between⟩
  · -- In front of a letter the word does not end, so that a final form is missing.
    refine ⟨[], ['A'], not_infix_of_count_lt 'ς' _ _ _ (by simp [within]) ?_ ?_⟩
    · simp [lowerAfter, char, asciiChar, isAsciiCapital]
    · refine count_within_lt 'ς' [] ['A'] ?_ front back ?_ ?_
      · intro before after final
        rw [List.append_nil, sigmaForm_eq_final_iff] at final
        rw [sigmaForm_eq_final_iff]
        exact endsWord_of_behind before after 'A' (nearestCased_letter 'A' (by decide) []) final
      · exact (sigmaForm_eq_final_iff _ _).mpr alone
      · rw [List.append_nil, ne_eq, sigmaForm_eq_final_iff, between]
        simp
  · -- Behind a letter the word ends, so that a form inside of words is missing.
    refine ⟨['A'], [], not_infix_of_count_lt 'σ' _ _ _ ?_ (by simp [lowerAfter]) ?_⟩
    · simp [within, form, capitalSigma, char, asciiChar, isAsciiCapital]
    · refine count_within_lt 'σ' ['A'] [] ?_ front back ?_ ?_
      · intro before after medial
        rw [List.append_nil, sigmaForm_eq_medial_iff] at medial
        rw [sigmaForm_eq_medial_iff]
        by_contra ends
        rw [Bool.not_eq_false] at ends
        rw [endsWord_of_further before after 'A' (nearestCased_letter 'A' (by decide) []) ends] at medial
        cases medial
      · exact (sigmaForm_eq_medial_iff _ _).mpr alone
      · rw [List.append_nil, ne_eq, sigmaForm_eq_medial_iff, between]
        simp

end Lowercase

/-! ## Searching for literals -/

theorem occursIgnoringCase_iff (needle text : String) :
    occursIgnoringCase needle text = true ↔
      Lowercase.text needle.toList <:+: Lowercase.text text.toList := by
  rw [occursIgnoringCase, occursIn, beforeFirst_isSome_iff, lowercase, lowercase,
    String.toList_ofList, String.toList_ofList]

namespace SearchMode

theorem mem_literalHit_iff (mode : SearchMode) (text found : String) :
    found ∈ mode.literalHit text ↔
      found = mode.literal ∧ mode.literal ≠ "" ∧ occursIgnoringCase mode.literal text = true := by
  unfold literalHit
  by_cases hit : (!mode.literal.isEmpty && occursIgnoringCase mode.literal text) = true
  · rw [if_pos hit, List.mem_singleton]
    simp only [Bool.and_eq_true, Bool.not_eq_true', String.isEmpty_eq_false_iff] at hit
    exact (and_iff_left hit).symm
  · rw [if_neg hit]
    simp only [List.not_mem_nil, false_iff]
    rintro ⟨-, notEmpty, occurs⟩
    exact hit (by simp [notEmpty, occurs])

theorem mem_search_of_occurs (mode : SearchMode) (value : String) (regex : Option Regex)
    (compiled : mode.compiled = .ok regex) (notEmpty : mode.literal ≠ "")
    (occurs : occursIgnoringCase mode.literal value = true) :
    mode.literal ∈ (mode.search value).value := by
  simp only [search, compiled]
  refine List.mem_flatMap.mpr ⟨value, List.mem_cons_self, ?_⟩
  exact List.mem_append_left _ ((mode.mem_literalHit_iff value _).mpr ⟨rfl, notEmpty, occurs⟩)

theorem search_of_literal (mode : SearchMode) (value : String) (pattern : mode.pattern = "")
    (undecoded : mode.effectiveEncodings = []) :
    (mode.search value).value = mode.literalHit value := by
  have compiled : mode.compiled = .ok none := by
    simp [SearchMode.compiled, pattern]
  simp only [search, compiled, undecoded, candidates_nil, List.flatMap_singleton, hits]
  simp

end SearchMode

/-- A literal is found wherever it stands verbatim, by every search for it, exactly if it settles the
word ends at its capital sigmas. -/
theorem verbatim_literal_found_iff (literal : String) (notEmpty : literal ≠ "") :
    (∀ (mode : SearchMode) (front back : String), mode.literal = literal →
      (∃ regex, mode.compiled = .ok regex) →
        literal ∈ (mode.search (front ++ literal ++ back)).value) ↔
      Lowercase.SigmasSettled literal.toList := by
  constructor
  · intro found
    by_contra unsettled
    obtain ⟨front, back, differs⟩ := Lowercase.exists_context_of_unsettled _ unsettled
    have member := found { literal } (String.ofList front) (String.ofList back) rfl ⟨none, rfl⟩
    rw [SearchMode.search_of_literal _ _ rfl rfl, SearchMode.mem_literalHit_iff,
      occursIgnoringCase_iff] at member
    simp only [String.toList_append, String.toList_ofList] at member
    exact differs member.2.2
  · rintro settled mode front back rfl ⟨regex, compiled⟩
    refine mode.mem_search_of_occurs _ regex compiled notEmpty ?_
    rw [occursIgnoringCase_iff, String.toList_append, String.toList_append]
    exact Lowercase.text_infix_of_settled _ _ _ settled

/-- The word end of this literal is settled by the blank behind it. -/
theorem verbatim_literal_found_iff_settled :
    "ΟΔΟΣ 2" ≠ "" ∧ Lowercase.SigmasSettled "ΟΔΟΣ 2".toList ∧
      "ΟΔΟΣ 2" ∈ (SearchMode.search { literal := "ΟΔΟΣ 2", encodings := some [.url] }
        ("Α" ++ "ΟΔΟΣ 2" ++ "Α")).value := by
  have notEmpty : "ΟΔΟΣ 2" ≠ "" := by decide
  have settled : Lowercase.SigmasSettled "ΟΔΟΣ 2".toList := by
    change Lowercase.SigmasSettledAfter [] ['Ο', 'Δ', 'Ο', 'Σ', ' ', '2']
    have wordEnd : Lowercase.WordEndSettled ['Ο', 'Δ', 'Ο'] [' ', '2'] := by
      rw [Lowercase.WordEndSettled, Lowercase.nearestCased_letter 'Ο' (by decide),
        Lowercase.nearestCased_blank]
      decide
    refine ⟨?_, ?_, ?_, fun _ => wordEnd, ?_, ?_, trivial⟩ <;> exact fun same => absurd same (by decide)
  exact ⟨notEmpty, settled,
    (verbatim_literal_found_iff "ΟΔΟΣ 2" notEmpty).mpr settled
      { literal := "ΟΔΟΣ 2", encodings := some [.url] } "Α" "Α" rfl ⟨none, rfl⟩⟩

/-- A word that ends in a capital sigma is not found at the front of a longer word, where the sigma
has another form. -/
theorem word_not_found_in_longer_word :
    "ΟΔΟΣ" ≠ "" ∧ SearchMode.compiled { literal := "ΟΔΟΣ" } = .ok none ∧
      "ΟΔΟΣ" ∉ (SearchMode.search { literal := "ΟΔΟΣ" } ("" ++ "ΟΔΟΣ" ++ "ΤΡΩΜΑ")).value := by
  have ends : Lowercase.endsWord ['Ο', 'Δ', 'Ο'] [] = true := by
    rw [Lowercase.endsWord, Lowercase.nextIsCased_eq, Lowercase.nearestCased_letter 'Ο' (by decide)]
    rfl
  have goesOn : Lowercase.endsWord ['Ο', 'Δ', 'Ο'] ['Τ', 'Ρ', 'Ω', 'Μ', 'Α'] = false := by
    rw [Lowercase.endsWord, Lowercase.nextIsCased_eq, Lowercase.nextIsCased_eq,
      Lowercase.nearestCased_letter 'Ο' (by decide), Lowercase.nearestCased_letter 'Τ' (by decide)]
    rfl
  have word : Lowercase.text ['Ο', 'Δ', 'Ο', 'Σ'] = ['ο', 'δ', 'ο', 'ς'] := by
    have last : Lowercase.form ['Ο', 'Δ', 'Ο'] [] 'Σ' = ['ς'] :=
      (Lowercase.form_sigma _ _).trans
        (congrArg (fun c => [c]) ((Lowercase.sigmaForm_eq_final_iff _ _).mpr ends))
    simp only [Lowercase.text, Lowercase.lowerAfter_cons, last]
    decide +kernel
  have longer : Lowercase.text ['Ο', 'Δ', 'Ο', 'Σ', 'Τ', 'Ρ', 'Ω', 'Μ', 'Α'] =
      ['ο', 'δ', 'ο', 'σ', 'τ', 'ρ', 'ω', 'μ', 'α'] := by
    have inside : Lowercase.form ['Ο', 'Δ', 'Ο'] ['Τ', 'Ρ', 'Ω', 'Μ', 'Α'] 'Σ' = ['σ'] :=
      (Lowercase.form_sigma _ _).trans
        (congrArg (fun c => [c]) ((Lowercase.sigmaForm_eq_medial_iff _ _).mpr goesOn))
    simp only [Lowercase.text, Lowercase.lowerAfter_cons, inside]
    decide +kernel
  have literal : "ΟΔΟΣ".toList = ['Ο', 'Δ', 'Ο', 'Σ'] := by decide
  have value : ("" ++ "ΟΔΟΣ" ++ "ΤΡΩΜΑ").toList = ['Ο', 'Δ', 'Ο', 'Σ', 'Τ', 'Ρ', 'Ω', 'Μ', 'Α'] := by
    decide
  refine ⟨by decide, rfl, ?_⟩
  rw [SearchMode.search_of_literal _ _ rfl rfl, SearchMode.mem_literalHit_iff,
    occursIgnoringCase_iff, literal, value, word, longer, ← beforeFirst_isSome_iff]
  decide

end HttpInspection
