import HttpInspection.Proofs.MoreEncodings
import Mathlib.Algebra.BigOperators.Intervals
import Mathlib.Data.Nat.Factorial.Basic
import Mathlib.Tactic.MkIffOfInductiveProp

/-!
# The order and the number of decode orders

The places below a bound are arranged in lexicographic order, each arrangement once.  An arrangement
begins with one of the places and goes on with an arrangement of the others, which are as many as
before less one: the order of the arrangements and their number follow that recursion.
-/

set_option autoImplicit false

namespace HttpInspection

section Elements
variable {α : Type}

theorem map_fst_selections (items : List α) : (selections items).map Prod.fst = items := by
  induction items with
  | nil => rfl
  | cons a rest ih =>
      rw [selections_cons, List.map_cons, List.map_map]
      exact congrArg (a :: ·) ih

theorem sublist_of_mem_selections (items others : List α) (a : α)
    (selected : (a, others) ∈ selections items) : others.Sublist items := by
  induction items generalizing others with
  | nil => simp [selections] at selected
  | cons first rest ih =>
      rw [selections_cons] at selected
      rcases List.mem_cons.mp selected with here | later
      · cases here
        exact List.sublist_cons_self _ _
      · obtain ⟨⟨b, remaining⟩, inRest, same⟩ := List.mem_map.mp later
        cases same
        exact (ih remaining inRest).cons_cons first

theorem length_arrangements (size : Nat) (items : List α) :
    (arrangements size items).length = items.length.descFactorial size := by
  induction size generalizing items with
  | zero => simp [arrangements]
  | succ size ih =>
      cases items with
      | nil => simp [arrangements, selections]
      | cons first rest =>
          -- Whichever element comes first, as many are left as there are behind the first one.
          have each : ∀ selected ∈ selections (first :: rest),
              ((arrangements size selected.2).map (selected.1 :: ·)).length =
                rest.length.descFactorial size := by
            intro selected member
            have same := (perm_of_mem_selections _ _ _ member).length_eq
            rw [List.length_cons, List.length_cons] at same
            rw [List.length_map, ih, Nat.succ.inj same]
          have choices : (selections (first :: rest)).length = rest.length + 1 := by
            rw [← List.length_map (f := Prod.fst), map_fst_selections, List.length_cons]
          rw [arrangements_succ, List.length_flatMap, List.map_congr_left each, List.map_const',
            List.sum_replicate_nat, choices, List.length_cons, Nat.succ_descFactorial_succ]

end Elements

/-! ## Lexicographic order -/

theorem pairwise_fst_selections (items : List Nat) (ascending : items.Pairwise (· < ·)) :
    (selections items).Pairwise fun one other => one.1 < other.1 := by
  rw [← map_fst_selections items] at ascending
  exact List.pairwise_map.mp ascending

/-- Arrangements that begin alike are in the order of what follows, and others in the order of what
they begin with. -/
theorem pairwise_arrangements (size : Nat) (items : List Nat)
    (ascending : items.Pairwise (· < ·)) : (arrangements size items).Pairwise (· < ·) := by
  induction size generalizing items with
  | zero => simp [arrangements]
  | succ size ih =>
      rw [arrangements_succ]
      apply List.pairwise_flatMap.mpr
      constructor
      · intro selected member
        have left := sublist_of_mem_selections items selected.2 selected.1 member
        apply List.pairwise_map.mpr
        apply (ih selected.2 (ascending.sublist left)).imp
        intro one other less
        exact List.cons_lt_cons_self.mpr less
      · apply (pairwise_fst_selections items ascending).imp
        intro selected later less one inOne other inOther
        obtain ⟨tail, -, rfl⟩ := List.mem_map.mp inOne
        obtain ⟨behind, -, rfl⟩ := List.mem_map.mp inOther
        exact List.cons_lt_cons_iff.mpr (.inl less)

/-! ## Places -/

/-- A sequence of as many distinct places below a bound. -/
@[mk_iff]
structure IsPlaceOrder (n size : Nat) (places : List Nat) : Prop where
  length : places.length = size
  distinct : places.Nodup
  below : ∀ place ∈ places, place < n

instance (n size : Nat) (places : List Nat) : Decidable (IsPlaceOrder n size places) :=
  decidable_of_iff' _ (isPlaceOrder_iff n size places)

theorem mem_permutations_iff (n size : Nat) (some : 0 < size) (places : List Nat) :
    places ∈ permutations n size ↔ IsPlaceOrder n size places := by
  rw [mem_permutations, isPlaceOrder_iff]
  simp [some]

theorem pairwise_permutations (n size : Nat) : (permutations n size).Pairwise (· < ·) := by
  rw [permutations_eq]
  split
  · exact List.Pairwise.nil
  · exact pairwise_arrangements size (List.range n) List.pairwise_lt_range

theorem count_permutations (n size : Nat) (some : 0 < size) (places : List Nat) :
    (permutations n size).count places = if IsPlaceOrder n size places then 1 else 0 := by
  have once : (permutations n size).Nodup := (pairwise_permutations n size).nodup
  rw [once.count]
  simp only [mem_permutations_iff n size some]

theorem length_permutations (n size : Nat) (some : 0 < size) :
    (permutations n size).length = n.descFactorial size := by
  have notZero : size ≠ 0 := by omega
  rw [permutations_eq, if_neg notZero, length_arrangements, List.length_range]

theorem permutations_eq_nil (n size : Nat) (outside : size = 0 ∨ n < size) :
    permutations n size = [] := by
  rw [permutations, if_pos outside]

/-! ## Candidates -/

theorem length_decodeOrders (encodings : List Encoding) :
    (decodeOrders encodings).length =
      ∑ i ∈ Finset.range encodings.length, encodings.length.descFactorial (i + 1) := by
  rw [decodeOrders_eq, List.length_flatMap]
  simp only [length_arrangements]
  rfl

theorem length_candidates (value : String) (encodings : List Encoding) :
    (candidates value encodings).length =
      ∑ size ∈ Finset.range (encodings.length + 1), encodings.length.descFactorial size := by
  rw [candidates, List.length_cons, List.length_map, length_decodeOrders, Finset.sum_range_succ',
    Nat.descFactorial_zero]

/-- The permutations of a size are all sequences of so many distinct places, each once and in
lexicographic order, and there are none of size zero or of more places than there are.  So the
number of candidates depends on that of the encodings alone, and the value itself comes first. -/
theorem permutations_in_order :
    (∀ n size, 1 ≤ size → size ≤ n →
      (∀ places, (permutations n size).count places =
        if IsPlaceOrder n size places then 1 else 0) ∧
      (permutations n size).Pairwise (· < ·) ∧
      (permutations n size).length = n.factorial / (n - size).factorial) ∧
    (∀ n size, size = 0 ∨ n < size → permutations n size = []) ∧
    ∀ value encodings,
      (candidates value encodings).length =
        ∑ size ∈ Finset.range (encodings.length + 1),
          encodings.length.factorial / (encodings.length - size).factorial ∧
      (candidates value encodings).head? = some value := by
  refine ⟨?_, permutations_eq_nil, ?_⟩
  · intro n size some fits
    refine ⟨count_permutations n size some, pairwise_permutations n size, ?_⟩
    rw [length_permutations n size some, Nat.descFactorial_eq_div fits]
  · intro value encodings
    refine ⟨?_, rfl⟩
    rw [length_candidates]
    apply Finset.sum_congr rfl
    intro size within
    have fits : size ≤ encodings.length := Nat.lt_succ_iff.mp (Finset.mem_range.mp within)
    exact Nat.descFactorial_eq_div fits

theorem permutations_in_order_four :
    1 ≤ 3 ∧ 3 ≤ 4 ∧ IsPlaceOrder 4 3 [2, 0, 3] ∧ (permutations 4 3).count [2, 0, 3] = 1 ∧
      ¬ IsPlaceOrder 4 3 [2, 0, 2] ∧ (permutations 4 3).count [2, 0, 2] = 0 ∧
      (permutations 4 3).Pairwise (· < ·) ∧ (permutations 4 3).length = 24 ∧
      (3 < 4 ∧ permutations 3 4 = []) ∧
      (candidates "%41" [.url, .base64, .url, .url]).length = 65 := by
  have order : IsPlaceOrder 4 3 [2, 0, 3] := by decide
  have repeated : ¬ IsPlaceOrder 4 3 [2, 0, 2] := by decide
  obtain ⟨inside, outside, number⟩ := permutations_in_order
  obtain ⟨once, ascending, length⟩ := inside 4 3 (by decide) (by decide)
  refine ⟨by decide, by decide, order, ?_, repeated, ?_, ascending, length, ?_, ?_⟩
  · rw [once, if_pos order]
  · rw [once, if_neg repeated]
  · exact ⟨by decide, outside 3 4 (.inr (by decide))⟩
  · rw [(number "%41" [.url, .base64, .url, .url]).1]
    decide

end HttpInspection
