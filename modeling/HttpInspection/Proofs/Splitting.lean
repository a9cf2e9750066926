import HttpInspection.Text.Split

/-!
# Cutting texts into pieces

The pieces of a list between its separators.  What has no separator in it and occurs in the list
occurs in a piece, and what a function that respects the separators makes of a piece occurs in what
it makes of the list.
-/

set_option autoImplicit false

namespace HttpInspection

section Pieces
variable {α : Type} (isSeparator : α → Bool)

theorem splitAtEvery_ne_nil (text : List α) : splitAtEvery isSeparator text ≠ [] := by
  cases text with
  | nil => simp [splitAtEvery]
  | cons a rest =>
      simp only [splitAtEvery]
      split
      · simp
      · split <;> simp

theorem splitAtEvery_separator (a : α) (rest : List α) (separates : isSeparator a = true) :
    splitAtEvery isSeparator (a :: rest) = [] :: splitAtEvery isSeparator rest := by
  simp [splitAtEvery, separates]

theorem splitAtEvery_ordinary (a : α) (rest piece : List α) (pieces : List (List α))
    (ordinary : isSeparator a = false) (cut : splitAtEvery isSeparator rest = piece :: pieces) :
    splitAtEvery isSeparator (a :: rest) = (a :: piece) :: pieces := by
  simp [splitAtEvery, ordinary, cut]

theorem exists_first_piece (text : List α) :
    ∃ piece pieces, splitAtEvery isSeparator text = piece :: pieces :=
  List.exists_cons_of_ne_nil (splitAtEvery_ne_nil isSeparator text)

/-- What has no separator in it stays in one piece with what precedes the next separator. -/
theorem splitAtEvery_append (front back piece : List α) (pieces : List (List α))
    (ordinary : ∀ a ∈ front, isSeparator a = false)
    (cut : splitAtEvery isSeparator back = piece :: pieces) :
    splitAtEvery isSeparator (front ++ back) = (front ++ piece) :: pieces := by
  induction front with
  | nil => exact cut
  | cons a rest ih =>
      rw [List.cons_append]
      exact splitAtEvery_ordinary isSeparator a _ _ _ (ordinary a (by simp))
        (ih fun b member => ordinary b (by simp [member]))

/-- The pieces in front of a separator are those of what stands there, and so behind it. -/
theorem splitAtEvery_around (separator : α) (separates : isSeparator separator = true)
    (front back : List α) :
    splitAtEvery isSeparator (front ++ separator :: back) =
      splitAtEvery isSeparator front ++ splitAtEvery isSeparator back := by
  induction front with
  | nil => exact splitAtEvery_separator isSeparator separator back separates
  | cons a rest ih =>
      rw [List.cons_append]
      by_cases cuts : isSeparator a = true
      · rw [splitAtEvery_separator isSeparator a _ cuts,
          splitAtEvery_separator isSeparator a _ cuts, ih, List.cons_append]
      · have ordinary : isSeparator a = false := by simpa using cuts
        obtain ⟨piece, pieces, cut⟩ := exists_first_piece isSeparator rest
        rw [splitAtEvery_ordinary isSeparator a rest piece pieces ordinary cut]
        rw [cut, List.cons_append] at ih
        rw [splitAtEvery_ordinary isSeparator a _ piece _ ordinary ih, List.cons_append]

theorem exists_piece_containing (needle text : List α)
    (ordinary : ∀ a ∈ needle, isSeparator a = false) (occurs : needle <:+: text) :
    ∃ piece ∈ splitAtEvery isSeparator text, needle <:+: piece := by
  obtain ⟨front, back, rfl⟩ := occurs
  rw [List.append_assoc]
  induction front with
  | nil =>
      obtain ⟨piece, pieces, cut⟩ := exists_first_piece isSeparator back
      rw [List.nil_append, splitAtEvery_append isSeparator needle back piece pieces ordinary cut]
      exact ⟨needle ++ piece, by simp, List.infix_append' [] needle piece⟩
  | cons a rest ih =>
      obtain ⟨piece, member, inside⟩ := ih
      rw [List.cons_append]
      by_cases separates : isSeparator a = true
      · rw [splitAtEvery_separator isSeparator a _ separates]
        exact ⟨piece, List.mem_cons_of_mem _ member, inside⟩
      · obtain ⟨first, others, cut⟩ := exists_first_piece isSeparator (rest ++ (needle ++ back))
        rw [splitAtEvery_ordinary isSeparator a _ first others (by simpa using separates) cut]
        rw [cut] at member
        rcases List.mem_cons.mp member with rfl | later
        · exact ⟨a :: piece, by simp, List.infix_cons inside⟩
        · exact ⟨piece, by simp [later], inside⟩

theorem splitAtEvery_map (f : α → α) (kept : ∀ a, isSeparator (f a) = isSeparator a)
    (text : List α) :
    splitAtEvery isSeparator (text.map f) = (splitAtEvery isSeparator text).map (List.map f) := by
  induction text with
  | nil => rfl
  | cons a rest ih =>
      by_cases separates : isSeparator a = true
      · rw [List.map_cons, splitAtEvery_separator isSeparator _ _ ((kept a).trans separates),
          splitAtEvery_separator isSeparator a rest separates, ih]
        rfl
      · have ordinary : isSeparator a = false := by simpa using separates
        obtain ⟨piece, pieces, cut⟩ := exists_first_piece isSeparator rest
        rw [cut, List.map_cons] at ih
        rw [List.map_cons, splitAtEvery_ordinary isSeparator _ _ _ _ ((kept a).trans ordinary) ih,
          splitAtEvery_ordinary isSeparator a rest piece pieces ordinary cut]
        rfl

/-- A list has no separator, or it is cut at its first one. -/
theorem splitAtEvery_cases (text : List α) :
    splitAtEvery isSeparator text = [text] ∨
      ∃ front separator back, isSeparator separator = true ∧
        text = front ++ separator :: back ∧
        splitAtEvery isSeparator text = front :: splitAtEvery isSeparator back := by
  induction text with
  | nil => exact Or.inl rfl
  | cons a rest ih =>
      by_cases separates : isSeparator a = true
      · exact Or.inr
          ⟨[], a, rest, separates, rfl, splitAtEvery_separator isSeparator a rest separates⟩
      · have ordinary : isSeparator a = false := by simpa using separates
        rcases ih with whole | ⟨front, separator, back, found, rfl, cut⟩
        · exact Or.inl (splitAtEvery_ordinary isSeparator a rest rest [] ordinary whole)
        · exact Or.inr ⟨a :: front, separator, back, found, rfl,
            splitAtEvery_ordinary isSeparator a _ front _ ordinary cut⟩

/-- A function keeps the separators of its argument, with its values between them. -/
def RespectsSeparators {β : Type} (f : List α → List β) : Prop :=
  ∀ front separator back, isSeparator separator = true →
    ∃ kept, f (front ++ separator :: back) = f front ++ kept :: f back

theorem infix_of_mem_splitAtEvery {β : Type} (f : List α → List β)
    (respects : RespectsSeparators isSeparator f) (text piece : List α)
    (member : piece ∈ splitAtEvery isSeparator text) : f piece <:+: f text := by
  -- What stands behind the first separator is a shorter list, but no tail that `cases` would give.
  induction size : text.length using Nat.strongRecOn generalizing text with
  | _ n ih =>
      rcases splitAtEvery_cases isSeparator text with
        whole | ⟨front, separator, back, found, rfl, cut⟩
      · rw [whole, List.mem_singleton] at member
        subst member
        exact List.infix_refl _
      · obtain ⟨kept, image⟩ := respects front separator back found
        rw [cut] at member
        rw [image]
        rcases List.mem_cons.mp member with rfl | later
        · exact (List.prefix_append _ _).isInfix
        · have shorter : back.length < n := by
            simp only [List.length_append, List.length_cons] at size
            omega
          have inside := ih back.length shorter back later rfl
          exact inside.trans ((List.suffix_cons kept _).trans (List.suffix_append _ _)).isInfix

theorem cutAtFirst_eq (text front back : List α)
    (cut : cutAtFirst isSeparator text = some (front, back)) :
    ∃ separator, isSeparator separator = true ∧ text = front ++ separator :: back := by
  induction text generalizing front with
  | nil => cases cut
  | cons a rest ih =>
      by_cases separates : isSeparator a = true
      · rw [cutAtFirst, if_pos separates] at cut
        cases cut
        exact ⟨a, separates, rfl⟩
      · rw [cutAtFirst, if_neg separates] at cut
        obtain ⟨⟨front', back'⟩, inner, same⟩ := Option.map_eq_some_iff.mp cut
        cases same
        obtain ⟨separator, found, rfl⟩ := ih front' inner
        exact ⟨separator, found, rfl⟩

theorem cutAtFirst_append (front back : List α) (separator : α)
    (separates : isSeparator separator = true) (ordinary : ∀ a ∈ front, isSeparator a = false) :
    cutAtFirst isSeparator (front ++ separator :: back) = some (front, back) := by
  induction front with
  | nil => rw [List.nil_append, cutAtFirst, if_pos separates]
  | cons a rest ih =>
      have here : ¬ isSeparator a = true := by simp [ordinary a]
      have later := ih fun b member => ordinary b (by simp [member])
      rw [List.cons_append, cutAtFirst, if_neg here, later]
      rfl

end Pieces

theorem ordinary_of_notMem {α : Type} [BEq α] [LawfulBEq α] (separator : α) (text : List α)
    (absent : separator ∉ text) : ∀ a ∈ text, (a == separator) = false := by
  intro a inside
  rw [beq_eq_false_iff_ne]
  rintro rfl
  exact absent inside

end HttpInspection
