import HttpInspection.Proofs.PlaceWalks
import HttpInspection.Rule.Match
import Mathlib.Data.List.Flatten
import Mathlib.Data.List.Perm.Basic

/-!
# More encodings find more

The sequences of encodings that are undone are the arrangements of the declared list.  A list that
has more encodings, or has some of them more often, has the same arrangements and further ones, and
another order of the list gives another order of its arrangements.  So a declaration that is longer,
or is written in another order, never hides a match.
-/

set_option autoImplicit false

namespace HttpInspection

/-! ## Arrangements of related lists -/

section Elements
variable {α β : Type}

theorem selections_map (f : α → β) (items : List α) :
    selections (items.map f) =
      (selections items).map fun selected => (f selected.1, selected.2.map f) := by
  induction items with
  | nil => rfl
  | cons a rest ih =>
      rw [List.map_cons, selections_cons, selections_cons, ih, List.map_cons, List.map_map,
        List.map_map]
      rfl

theorem arrangements_map (f : α → β) (size : Nat) (items : List α) :
    arrangements size (items.map f) = (arrangements size items).map (List.map f) := by
  induction size generalizing items with
  | zero => rfl
  | succ size ih =>
      rw [arrangements_succ, arrangements_succ, selections_map, List.flatMap_map, List.map_flatMap]
      simp only [ih, List.map_map]
      rfl

/-- The induction is on the rearrangement.  What is made of a selection may depend on the order of
the elements that are left, but only up to a rearrangement. -/
theorem flatMap_selections_perm (one other : List α) (same : one.Perm other)
    (f : α × List α → List β)
    (respects : ∀ a left behind, left.Perm behind → (f (a, left)).Perm (f (a, behind))) :
    ((selections one).flatMap f).Perm ((selections other).flatMap f) := by
  induction same generalizing f with
  | nil => exact List.Perm.refl _
  | @cons a rest others same ih =>
      rw [selections_cons, selections_cons, List.flatMap_cons, List.flatMap_cons, List.flatMap_map,
        List.flatMap_map]
      refine (respects a rest others same).append (ih _ ?_)
      intro b left behind rearranged
      exact respects b _ _ (rearranged.cons a)
  | swap a b rest =>
      simp only [selections_cons, List.flatMap_cons, List.map_cons, List.flatMap_map, List.map_map]
      have later : ((selections rest).flatMap fun selected =>
            f (selected.1, b :: a :: selected.2)).Perm
          ((selections rest).flatMap fun selected => f (selected.1, a :: b :: selected.2)) :=
        List.Perm.flatMap_left _ fun selected _ => respects _ _ _ (List.Perm.swap a b selected.2)
      exact ((later.append_left _).append_left _).trans (List.perm_append_comm_assoc _ _ _)
  | trans _ _ first second => exact (first f respects).trans (second f respects)

theorem flatMap_selections_sublist (one other : List α) (within : one.Sublist other)
    (f : α × List α → List β)
    (respects : ∀ a left behind, left.Sublist behind → (f (a, left)).Sublist (f (a, behind))) :
    ((selections one).flatMap f).Sublist ((selections other).flatMap f) := by
  induction within generalizing f with
  | slnil => exact List.Sublist.refl _
  | @cons one other a within ih =>
      rw [selections_cons, List.flatMap_cons, List.flatMap_map]
      have kept : ((selections other).flatMap f).Sublist
          ((selections other).flatMap fun selected => f (selected.1, a :: selected.2)) :=
        List.Sublist.flatMap_right _ fun selected _ =>
          respects _ _ _ (List.sublist_cons_self a selected.2)
      exact ((ih f respects).trans kept).trans (List.sublist_append_right _ _)
  | @cons_cons one other a within ih =>
      rw [selections_cons, selections_cons, List.flatMap_cons, List.flatMap_cons, List.flatMap_map,
        List.flatMap_map]
      refine (respects a one other within).append (ih _ ?_)
      intro b left behind inside
      exact respects b _ _ (inside.cons_cons a)

theorem arrangements_perm (size : Nat) (one other : List α) (same : one.Perm other) :
    (arrangements size one).Perm (arrangements size other) := by
  induction size generalizing one other with
  | zero => exact List.Perm.refl _
  | succ size ih =>
      rw [arrangements_succ, arrangements_succ]
      refine flatMap_selections_perm one other same _ ?_
      intro a left behind rearranged
      exact (ih left behind rearranged).map _

theorem arrangements_sublist (size : Nat) (one other : List α) (within : one.Sublist other) :
    (arrangements size one).Sublist (arrangements size other) := by
  induction size generalizing one other with
  | zero => exact List.Sublist.refl _
  | succ size ih =>
      rw [arrangements_succ, arrangements_succ]
      refine flatMap_selections_sublist one other within _ ?_
      intro a left behind inside
      exact (ih left behind inside).map _

/-- Elements at arranged places are arranged elements. -/
theorem map_atPlaces_arrangements (size : Nat) (items : List α) :
    (arrangements size (List.range items.length)).map (atPlaces items) =
      arrangements size items := by
  have found : (List.range items.length).map (fun place => items[place]?) = items.map some := by
    apply List.ext_getElem?
    intro place
    rw [List.getElem?_map, List.getElem?_map]
    by_cases within : place < items.length
    · simp [within]
    · simp [within]
  have lifted := arrangements_map some size items
  rw [← found, arrangements_map] at lifted
  have taken := congrArg (List.map fun chosen => chosen.filterMap id) lifted
  change (arrangements size (List.range items.length)).map
    (fun places => places.filterMap fun place => items[place]?) = arrangements size items
  simpa [Function.comp_def, List.filterMap_map] using taken

end Elements

/-! ## Sequences of encodings -/

theorem decodeOrders_eq (encodings : List Encoding) :
    decodeOrders encodings =
      (List.range encodings.length).flatMap fun i => arrangements (i + 1) encodings := by
  have some (i : Nat) : ¬ i + 1 = 0 := Nat.succ_ne_zero i
  simp only [decodeOrders, permutations_eq, if_neg (some _), map_atPlaces_arrangements]

theorem decodeOrders_perm (one other : List Encoding) (same : one.Perm other) :
    (decodeOrders one).Perm (decodeOrders other) := by
  rw [decodeOrders_eq, decodeOrders_eq, same.length_eq]
  exact List.Perm.flatMap_left _ fun i _ => arrangements_perm (i + 1) one other same

theorem decodeOrders_sublist (one other : List Encoding) (within : one.Sublist other) :
    (decodeOrders one).Sublist (decodeOrders other) := by
  rw [decodeOrders_eq, decodeOrders_eq]
  have sizes : (List.range one.length).Sublist (List.range other.length) :=
    List.range_sublist.mpr within.length_le
  refine (sizes.flatMap _).trans ?_
  exact List.Sublist.flatMap_right _ fun i _ => arrangements_sublist (i + 1) one other within

/-! ## Candidates and searches -/

theorem candidates_perm (value : String) (one other : List Encoding) (same : one.Perm other) :
    (candidates value one).Perm (candidates value other) :=
  ((decodeOrders_perm one other same).map _).cons value

theorem candidates_sublist (value : String) (one other : List Encoding)
    (within : one.Sublist other) : (candidates value one).Sublist (candidates value other) :=
  ((decodeOrders_sublist one other within).map _).cons_cons value

theorem candidates_subperm (value : String) (fewer more : List Encoding)
    (contained : fewer.Subperm more) :
    (candidates value fewer).Subperm (candidates value more) := by
  obtain ⟨middle, same, within⟩ := contained
  exact ⟨candidates value middle, candidates_perm value middle fewer same,
    candidates_sublist value middle more within⟩

namespace SearchMode

/-- Searches that differ in their encodings find the same in the same candidate. -/
theorem exists_search_eq_flatMap (few many : SearchMode)
    (differ : many = { few with encodings := many.encodings }) :
    ∃ found : String → List String, ∀ value,
      (few.search value).value = (candidates value few.effectiveEncodings).flatMap found ∧
        (many.search value).value = (candidates value many.effectiveEncodings).flatMap found := by
  have literal : many.literal = few.literal := by rw [differ]
  have pattern : many.pattern = few.pattern := by rw [differ]
  have compiled : many.compiled = few.compiled := by simp only [SearchMode.compiled, pattern]
  have hits : many.hits = few.hits := by
    funext regex text
    simp only [SearchMode.hits, SearchMode.literalHit, literal]
  cases outcome : few.compiled with
  | error failure =>
      refine ⟨fun _ => [], fun value => ?_⟩
      simp [search, compiled, outcome]
  | ok regex =>
      refine ⟨few.hits regex, fun value => ?_⟩
      simp only [search, compiled, outcome, hits, and_self]

end SearchMode

/-- A list of encodings with more of them gives every candidate at least as often, and the same list
in another order gives the same candidates as often; so do the texts that are found in them. -/
theorem more_encodings_find_more (value : String) (fewer more : List Encoding)
    (contained : ∀ encoding, fewer.count encoding ≤ more.count encoding) :
    (candidates value fewer).Subperm (candidates value more) ∧
    (fewer.Perm more → (candidates value fewer).Perm (candidates value more)) ∧
    ∀ few many : SearchMode, many = { few with encodings := many.encodings } →
      few.effectiveEncodings = fewer → many.effectiveEncodings = more →
        (few.search value).value.Subperm (many.search value).value ∧
        (fewer.Perm more → (few.search value).value.Perm (many.search value).value) := by
  have part : fewer.Subperm more := List.subperm_ext_iff.mpr fun encoding _ => contained encoding
  have parts := candidates_subperm value fewer more part
  refine ⟨parts, candidates_perm value fewer more, ?_⟩
  rintro few many differ rfl rfl
  obtain ⟨found, ofCandidates⟩ := SearchMode.exists_search_eq_flatMap few many differ
  obtain ⟨fewFound, manyFound⟩ := ofCandidates value
  rw [fewFound, manyFound]
  constructor
  · obtain ⟨middle, same, within⟩ := parts
    exact ⟨middle.flatMap found, same.flatMap_right found, within.flatMap found⟩
  · intro same
    exact (candidates_perm value _ _ same).flatMap_right found

/-- A value on which base64 does not apply before the escape in it is undone. -/
theorem more_encodings_find_more_escaped :
    (∀ encoding, [Encoding.base64, .url].count encoding ≤
        [Encoding.url, .url, .base64].count encoding) ∧
      (candidates "YWI%3D" [.base64, .url]).Subperm (candidates "YWI%3D" [.url, .url, .base64]) ∧
      (SearchMode.search { literal := "AB", encodings := some [.base64, .url] } "YWI%3D").value =
        ["AB"] ∧
      ["AB"].Subperm (SearchMode.search
        { literal := "AB", encodings := some [.url, .url, .base64] } "YWI%3D").value ∧
      [Encoding.base64, .url].Perm [.url, .base64] ∧
      (candidates "YWI%3D" [.base64, .url]).Perm (candidates "YWI%3D" [.url, .base64]) := by
  have contained : ∀ encoding, [Encoding.base64, .url].count encoding ≤
      [Encoding.url, .url, .base64].count encoding := by
    intro encoding
    cases encoding <;> decide
  obtain ⟨parts, -, found⟩ := more_encodings_find_more "YWI%3D" _ _ contained
  have hit : (SearchMode.search { literal := "AB", encodings := some [.base64, .url] }
      "YWI%3D").value = ["AB"] := by
    decide +kernel
  have hits := (found { literal := "AB", encodings := some [.base64, .url] }
    { literal := "AB", encodings := some [.url, .url, .base64] } rfl rfl rfl).1
  rw [hit] at hits
  have swapped : [Encoding.base64, .url].Perm [.url, .base64] := List.Perm.swap _ _ _
  have rearranged := (more_encodings_find_more "YWI%3D" [.base64, .url] [.url, .base64]
    fun encoding => Nat.le_of_eq (swapped.count_eq encoding)).2.1 swapped
  exact ⟨contained, parts, hit, hits, swapped, rearranged⟩

end HttpInspection
