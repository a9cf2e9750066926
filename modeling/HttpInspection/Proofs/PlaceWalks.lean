import HttpInspection.Candidates
import HttpInspection.Proofs.Arrangements
import Mathlib.Data.List.Nodup

/-!
# A walk finds the arrangements of the places

The walk marks the places that it takes and unmarks them on its way back.  Whatever is marked when it
sets out, it comes back with the same marks and the same order, and has found the arrangements of the
places that were free, each of them behind that order.  So `permutations n size` holds exactly the
sequences of `size` distinct numbers below `n`.
-/

set_option autoImplicit false

namespace HttpInspection

theorem selections_of_nodup (items : List Nat) (distinct : items.Nodup) :
    selections items = items.map fun place => (place, items.erase place) := by
  induction items with
  | nil => rfl
  | cons first rest ih =>
      obtain ⟨absent, others⟩ := List.nodup_cons.mp distinct
      have behind : ∀ place ∈ rest, (first :: rest).erase place = first :: rest.erase place := by
        intro place member
        have other : first ≠ place := by
          rintro rfl
          exact absent member
        exact List.erase_cons_tail (by simpa using other)
      rw [selections_cons, ih others, List.map_cons, List.erase_cons_head, List.map_map]
      congr 1
      apply List.map_congr_left
      intro place member
      simp only [Function.comp_apply, behind place member]

namespace PlaceWalk

def free (walk : PlaceWalk) : List Nat :=
  (List.range walk.taken.length).filter walk.isFree

/-- A walk that has found further orders, each of them going on from where the walk is. -/
def finding (walk : PlaceWalk) (orders : List (List Nat)) : PlaceWalk :=
  { walk with found := (orders.map (walk.order.reverse ++ ·)).reverse ++ walk.found }

theorem nodup_free (walk : PlaceWalk) : walk.free.Nodup := List.nodup_range.filter _

@[simp] theorem isFree_finding (walk : PlaceWalk) (orders : List (List Nat)) :
    (walk.finding orders).isFree = walk.isFree := rfl

@[simp] theorem free_finding (walk : PlaceWalk) (orders : List (List Nat)) :
    (walk.finding orders).free = walk.free := rfl

theorem finding_finding (walk : PlaceWalk) (some more : List (List Nat)) :
    (walk.finding some).finding more = walk.finding (some ++ more) := by
  simp [finding]

theorem isFree_take (walk : PlaceWalk) (place other : Nat) :
    (walk.take place).isFree other = (walk.isFree other && other != place) := by
  unfold isFree take
  by_cases same : other = place
  · subst same
    rw [List.getElem?_set_self']
    cases walk.taken[other]? <;> simp
  · rw [List.getElem?_set_ne (Ne.symm same)]
    simp [same]

theorem free_take (walk : PlaceWalk) (place : Nat) :
    (walk.take place).free = walk.free.erase place := by
  rw [walk.nodup_free.erase_eq_filter, free, free, List.filter_filter]
  have length : (walk.take place).taken.length = walk.taken.length := List.length_set
  rw [length]
  apply List.filter_congr
  intro other _
  rw [isFree_take, Bool.and_comm]

/-- The marks and the order are afterwards what they were before. -/
theorem giveBack_finding_take (walk : PlaceWalk) (place : Nat) (free : walk.isFree place = true)
    (orders : List (List Nat)) :
    ((walk.take place).finding orders).giveBack place = walk.finding (orders.map (place :: ·)) := by
  have unmarked : walk.taken.set place false = walk.taken := by
    have marked : walk.taken[place]? = some false := by simpa [isFree] using free
    obtain ⟨within, same⟩ := List.getElem?_eq_some_iff.mp marked
    rw [← same, List.set_getElem_self]
  simp [giveBack, finding, take, unmarked, Function.comp_def]

section Loop
variable (missing : Nat)
  (explored : ∀ walk : PlaceWalk,
    walk.explore missing = walk.finding (arrangements missing walk.free))
include explored

theorem visit_eq (walk : PlaceWalk) (place : Nat) :
    visit (explore missing) walk place =
      walk.finding (if walk.isFree place then
        (arrangements missing (walk.free.erase place)).map (place :: ·) else []) := by
  unfold visit
  by_cases free : walk.isFree place = true
  · rw [if_pos free, if_pos free, explored, free_take, giveBack_finding_take walk place free]
  · rw [if_neg free, if_neg free]
    simp [finding]

/-- The induction is on the places that are still to be visited. -/
theorem foldl_visit (walk : PlaceWalk) (places : List Nat) :
    places.foldl (visit (explore missing)) walk =
      walk.finding ((places.filter walk.isFree).flatMap fun place =>
        (arrangements missing (walk.free.erase place)).map (place :: ·)) := by
  induction places generalizing walk with
  | nil => simp [finding]
  | cons place rest ih =>
      rw [List.foldl_cons, visit_eq missing explored, ih, isFree_finding, free_finding,
        finding_finding]
      by_cases free : walk.isFree place = true
      · rw [if_pos free, List.filter_cons_of_pos free, List.flatMap_cons]
      · rw [if_neg free, List.filter_cons_of_neg free, List.nil_append]

end Loop

/-- A walk finds the arrangements of the places that are there to be taken, and nothing else of it
changes. -/
theorem explore_eq (missing : Nat) (walk : PlaceWalk) :
    walk.explore missing = walk.finding (arrangements missing walk.free) := by
  induction missing generalizing walk with
  | zero => simp [explore, arrangements, finding]
  | succ missing ih =>
      rw [explore, foldl_visit missing ih, arrangements_succ,
        selections_of_nodup walk.free walk.nodup_free, List.flatMap_map]
      rfl

theorem free_start (n : Nat) : (start n).free = List.range n := by
  have length : (start n).taken.length = n := List.length_replicate
  rw [free, length, List.filter_eq_self]
  intro place member
  simp [isFree, start, List.mem_range.mp member]

theorem found_explore_start (n size : Nat) :
    ((start n).explore size).found.reverse = arrangements size (List.range n) := by
  rw [explore_eq, free_start]
  simp [finding, start]

end PlaceWalk

theorem permutations_eq (n size : Nat) :
    permutations n size = if size = 0 then [] else arrangements size (List.range n) := by
  rw [permutations, PlaceWalk.found_explore_start]
  by_cases more : n < size
  · have none : arrangements size (List.range n) = [] := by
      apply List.eq_nil_iff_forall_not_mem.mpr
      intro chosen member
      obtain ⟨length, fits⟩ := (mem_arrangements size (List.range n) chosen).mp member
      have bound := fits.length_le
      rw [length, List.length_range] at bound
      omega
    simp [none]
  · simp [more]

theorem mem_permutations (n size : Nat) (places : List Nat) :
    places ∈ permutations n size ↔
      0 < size ∧ places.length = size ∧ places.Nodup ∧ ∀ place ∈ places, place < n := by
  rw [permutations_eq]
  by_cases none : size = 0
  · simp [none]
  · rw [if_neg none, mem_arrangements, subperm_range_iff]
    exact ⟨fun found => ⟨Nat.pos_of_ne_zero none, found⟩, And.right⟩

/-- Every sequence of distinct places, at least one, is tried. -/
theorem atPlaces_mem_decodeOrders (encodings : List Encoding) (places : List Nat)
    (some : places ≠ []) (distinct : places.Nodup)
    (below : ∀ place ∈ places, place < encodings.length) :
    atPlaces encodings places ∈ decodeOrders encodings := by
  have fits : places.length ≤ encodings.length := by
    have bound := ((subperm_range_iff encodings.length places).mpr ⟨distinct, below⟩).length_le
    rwa [List.length_range] at bound
  have positive : 0 < places.length := List.length_pos_iff.mpr some
  have size : places.length - 1 + 1 = places.length := by omega
  refine List.mem_flatMap.mpr ⟨places.length - 1, List.mem_range.mpr (by omega), ?_⟩
  refine List.mem_map.mpr ⟨places, ?_, rfl⟩
  rw [size]
  exact (mem_permutations encodings.length places.length places).mpr
    ⟨positive, rfl, distinct, below⟩

end HttpInspection
