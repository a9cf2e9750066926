import Mathlib.Data.List.Perm.Subperm

/-!
# Arrangements are complete

An arrangement of some elements of a list begins with one of them and goes on with an arrangement of
the others.  `arrangements size items` holds exactly the sequences of `size` elements at distinct
places of the list.
-/

set_option autoImplicit false

namespace HttpInspection

/-- Every element of a list with the elements around it, from left to right. -/
def selections {α : Type} : List α → List (α × List α)
  | [] => []
  | a :: rest => (a, rest) :: (selections rest).map fun (b, others) => (b, a :: others)

/-- All sequences of `size` elements at distinct places of a list, in the lexicographic order of the
places. -/
def arrangements {α : Type} : Nat → List α → List (List α)
  | 0, _ => [[]]
  | size + 1, items =>
    (selections items).flatMap fun (a, others) => (arrangements size others).map (a :: ·)

section Elements
variable {α : Type}

theorem selections_cons (a : α) (rest : List α) :
    selections (a :: rest) =
      (a, rest) :: (selections rest).map fun selected => (selected.1, a :: selected.2) := rfl

theorem arrangements_succ (size : Nat) (items : List α) :
    arrangements (size + 1) items =
      (selections items).flatMap fun selected =>
        (arrangements size selected.2).map (selected.1 :: ·) := rfl

theorem perm_of_mem_selections (items others : List α) (a : α)
    (selected : (a, others) ∈ selections items) : (a :: others).Perm items := by
  induction items generalizing others with
  | nil => simp [selections] at selected
  | cons first rest ih =>
      rcases List.mem_cons.mp selected with here | later
      · cases here
        exact List.Perm.refl _
      · obtain ⟨⟨b, remaining⟩, inRest, same⟩ := List.mem_map.mp later
        cases same
        exact (List.Perm.swap first a remaining).trans ((ih remaining inRest).cons first)

theorem exists_selection (items : List α) (a : α) (member : a ∈ items) :
    ∃ others, (a, others) ∈ selections items := by
  induction items with
  | nil => simp at member
  | cons first rest ih =>
      rcases List.mem_cons.mp member with rfl | later
      · exact ⟨rest, List.mem_cons_self⟩
      · obtain ⟨others, selected⟩ := ih later
        exact ⟨first :: others, List.mem_cons_of_mem _ (List.mem_map.mpr ⟨_, selected, rfl⟩)⟩

theorem mem_arrangements (size : Nat) (items chosen : List α) :
    chosen ∈ arrangements size items ↔ chosen.length = size ∧ chosen.Subperm items := by
  induction size generalizing items chosen with
  | zero =>
      rw [arrangements, List.mem_singleton, List.length_eq_zero_iff]
      constructor
      · rintro rfl
        exact ⟨rfl, List.nil_subperm⟩
      · exact And.left
  | succ size ih =>
      constructor
      · intro member
        obtain ⟨⟨a, others⟩, selected, rest⟩ := List.mem_flatMap.mp member
        obtain ⟨tail, inOthers, rfl⟩ := List.mem_map.mp rest
        obtain ⟨length, fits⟩ := (ih others tail).mp inOthers
        refine ⟨congrArg (· + 1) length, ?_⟩
        exact ((List.subperm_cons a).mpr fits).trans
          (perm_of_mem_selections items others a selected).subperm
      · rintro ⟨length, fits⟩
        cases chosen with
        | nil => cases length
        | cons a tail =>
            obtain ⟨others, selected⟩ := exists_selection items a (fits.subset (by simp))
            have same := perm_of_mem_selections items others a selected
            have tailFits : tail.Subperm others :=
              (List.subperm_cons a).mp (same.subperm_left.mpr fits)
            have tailLength : tail.length = size := Nat.succ.inj length
            refine List.mem_flatMap.mpr ⟨(a, others), selected, List.mem_map.mpr ⟨tail, ?_, rfl⟩⟩
            exact (ih others tail).mpr ⟨tailLength, tailFits⟩

end Elements

theorem subperm_range_iff (n : Nat) (places : List Nat) :
    places.Subperm (List.range n) ↔ places.Nodup ∧ ∀ place ∈ places, place < n := by
  constructor
  · intro fits
    refine ⟨?_, fun place member => List.mem_range.mp (fits.subset member)⟩
    obtain ⟨middle, same, inside⟩ := fits
    exact same.nodup_iff.mp (inside.nodup List.nodup_range)
  · rintro ⟨distinct, below⟩
    exact distinct.subperm fun place member => List.mem_range.mpr (below place member)

end HttpInspection
