import HttpInspection.Proofs.ByteOrder
import HttpInspection.Proofs.FileNodes
import HttpInspection.Rule.Tree
import Mathlib.Data.List.TakeWhile

/-!
# Visits of a tree of rule files

The files that count are those that are named for rules and stand below no ignored directory.  A
visit meets them once each, in the order of the names that lead to them: depth first, and the entries
of each directory in the order of the bytes of their names.
-/

set_option autoImplicit false

namespace HttpInspection

/-! ## The files that count -/

/-- The names that lead to one file come before those that lead to another: at the first name in
which they differ, by its bytes. -/
def VisitedBefore (one other : List String) : Prop :=
  one.map bytesOf < other.map bytesOf

/-- A file of a tree counts: no directory on the way to it is ignored, and its name is that of a rule
file. -/
def FileNode.Counts (root : FileNode) (ignored names : List String) (bytes : List UInt8) : Prop :=
  root.find? names = some (.file bytes) ∧ (∀ directory ∈ names.dropLast, directory ∉ ignored) ∧
    ∃ stem, stem ≠ "" ∧ names.getLast? = some (stem ++ ".yaml")

theorem visitedBefore_cons_iff (name : String) (one other : List String) :
    VisitedBefore (name :: one) (name :: other) ↔ VisitedBefore one other := by
  simp [VisitedBefore]

theorem visitedBefore_of_name_lt (name later : String) (less : name < later)
    (one other : List String) : VisitedBefore (name :: one) (later :: other) := by
  rw [VisitedBefore, List.map_cons, List.map_cons, List.cons_lt_cons_iff]
  exact .inl (bytesOf_lt_of_lt name later less)

theorem visitedBefore_asymm (one other : List String) (before : VisitedBefore one other) :
    ¬ VisitedBefore other one :=
  List.lt_asymm before

/-! ## Names of rule files -/

theorem takeWhile_reverse_of_last_dot (front back : List Char) (last : '.' ∉ back) :
    ((front ++ '.' :: back).reverse.takeWhile (· != '.')).reverse = back := by
  have noDot : ∀ c ∈ back.reverse, (c != '.') = true := by
    intro c member
    rw [bne_iff_ne]
    rintro rfl
    exact last (List.mem_reverse.mp member)
  rw [List.reverse_append, List.reverse_cons, List.append_assoc,
    List.takeWhile_append_of_pos noDot]
  simp

theorem extension_eq_some_iff (name : String) :
    extension? name = some ruleExtension ↔ ∃ stem, stem ≠ "" ∧ name = stem ++ ".yaml" := by
  constructor
  · intro named
    simp only [extension?] at named
    split at named
    · rename_i longer
      have back := congrArg String.toList (Option.some.inj named)
      rw [String.toList_ofList] at back
      rw [back] at longer
      by_cases dotted : '.' ∈ name.toList
      · obtain ⟨behind, ahead, parts, last⟩ :=
          List.eq_append_cons_of_mem (List.mem_reverse.mpr dotted)
        have whole : name.toList = ahead.reverse ++ '.' :: behind.reverse := by
          rw [← List.reverse_reverse name.toList, parts]
          simp
        rw [whole, takeWhile_reverse_of_last_dot _ _ (by simpa using last)] at back
        rw [whole, back] at longer
        refine ⟨String.ofList ahead.reverse, ?_, ?_⟩
        · rintro empty
          have none := congrArg String.length empty
          simp at none
          simp [none] at longer
        · rw [← String.toList_inj, whole, back]
          simp [ruleExtension]
      · have all : (name.toList.reverse.takeWhile (· != '.')) = name.toList.reverse := by
          refine List.takeWhile_eq_self_iff.mpr ?_
          intro c member
          rw [bne_iff_ne]
          rintro rfl
          exact dotted (List.mem_reverse.mp member)
        rw [all, List.reverse_reverse] at back
        rw [back] at longer
        exact absurd longer (by decide)
    · cases named
  · rintro ⟨stem, notEmpty, rfl⟩
    have written : (stem ++ ".yaml").toList = stem.toList ++ '.' :: ['y', 'a', 'm', 'l'] := by simp
    have longer : 0 < stem.toList.length :=
      List.length_pos_iff.mpr (mt String.toList_eq_nil_iff.mp notEmpty)
    simp only [extension?, written]
    rw [takeWhile_reverse_of_last_dot _ _ (by decide), if_pos (by simp; omega)]
    rfl

/-! ## The order of visits -/

theorem visitsOfEntries_eq (ignored : List String) (path : String)
    (entries : List (String × FileNode)) :
    visitsOfEntries ignored path entries = entries.map fun entry =>
      (entry.1, entry.2.visits ignored entry.1 (joinPath path entry.1)) := by
  induction entries with
  | nil => rfl
  | cons entry rest ih => rw [visitsOfEntries, ih, List.map_cons]

theorem visitsBelow_eq (ignored : List String) (path : String)
    (entries : List (String × FileNode)) :
    visitsBelow ignored path entries = (sortedByName entries).flatMap fun entry =>
      entry.2.visits ignored entry.1 (joinPath path entry.1) := by
  rw [visitsBelow, visitsOfEntries_eq, sortedByName, sortedByName,
    ← List.map_mergeSort (r := fun a b => decide (a.1 ≤ b.1)) (by simp), List.flatMap_map]

theorem pairwise_sortedByName (entries : List (String × FileNode))
    (distinct : (entries.map Prod.fst).Nodup) :
    (sortedByName entries).Pairwise fun one other => one.1 < other.1 := by
  have ascending : (sortedByName entries).Pairwise fun one other => one.1 ≤ other.1 := by
    have sorted := @List.pairwise_mergeSort (String × FileNode)
      (fun one other => decide (one.1 ≤ other.1))
      (fun a b c first second => by
        simp only [decide_eq_true_eq] at *
        exact String.le_trans first second)
      (fun a b => by
        simp only [Bool.or_eq_true, decide_eq_true_eq]
        exact String.le_total a.1 b.1) entries
    exact sorted.imp fun le => of_decide_eq_true le
  have names : ((sortedByName entries).map Prod.fst).Nodup :=
    ((List.mergeSort_perm entries _).map Prod.fst).nodup_iff.mpr distinct
  have different := List.pairwise_map.mp names
  refine (ascending.and different).imp ?_
  rintro one other ⟨le, ne⟩
  exact String.not_le.mp fun ge => ne (String.le_antisymm le ge)

def Visit.ruleBytes? : Visit → Option (List UInt8)
  | ruleFile _ bytes => some bytes
  | _ => none

/-- The rule files that are met are those of some kind, each once and in order. -/
def Enumerates (visits : List Visit) (files : List String → List UInt8 → Prop) : Prop :=
  ∃ visited : List (List String × List UInt8),
    visits.filterMap Visit.ruleBytes? = visited.map Prod.snd ∧
      (visited.Pairwise fun one other => VisitedBefore one.1 other.1) ∧
      ∀ names bytes, (names, bytes) ∈ visited ↔ files names bytes

/-- Where the entries of a directory are visited in ascending order, so are all files below it. -/
theorem enumerates_flatMap (entries : List (String × FileNode))
    (sorted : entries.Pairwise fun one other => one.1 < other.1)
    (visits : String × FileNode → List Visit)
    (files : String × FileNode → List String → List UInt8 → Prop)
    (each : ∀ entry ∈ entries, Enumerates (visits entry) (files entry)) :
    Enumerates (entries.flatMap visits) fun names bytes =>
      ∃ entry ∈ entries, ∃ rest, names = entry.1 :: rest ∧ files entry rest bytes := by
  induction entries with
  | nil => exact ⟨[], rfl, List.Pairwise.nil, by simp⟩
  | cons first others ih =>
      obtain ⟨least, othersSorted⟩ := List.pairwise_cons.mp sorted
      obtain ⟨here, hereBytes, hereOrdered, inHere⟩ := each first List.mem_cons_self
      obtain ⟨later, laterBytes, laterOrdered, inLater⟩ :=
        ih othersSorted fun entry member => each entry (List.mem_cons_of_mem _ member)
      refine ⟨here.map (fun file => (first.1 :: file.1, file.2)) ++ later, ?_, ?_, ?_⟩
      · rw [List.flatMap_cons, List.filterMap_append, hereBytes, laterBytes, List.map_append,
          List.map_map]
        rfl
      · refine List.pairwise_append.mpr ⟨List.pairwise_map.mpr (hereOrdered.imp ?_), laterOrdered, ?_⟩
        · intro one other before
          exact (visitedBefore_cons_iff first.1 one.1 other.1).mpr before
        · intro one oneIn other otherIn
          obtain ⟨file, -, rfl⟩ := List.mem_map.mp oneIn
          obtain ⟨entry, member, rest, names, -⟩ := (inLater other.1 other.2).mp otherIn
          rw [names]
          exact visitedBefore_of_name_lt first.1 entry.1 (least entry member) file.1 rest
      · intro names bytes
        rw [List.mem_append, inLater]
        simp only [List.mem_map, Prod.mk.injEq, List.mem_cons, exists_eq_or_imp]
        refine or_congr ?_ Iff.rfl
        constructor
        · rintro ⟨file, member, rfl, rfl⟩
          exact ⟨file.1, rfl, (inHere file.1 file.2).mp member⟩
        · rintro ⟨rest, rfl, counts⟩
          exact ⟨(rest, bytes), (inHere rest bytes).mpr counts, rfl, rfl⟩

namespace FileNode

/-- A file below a node counts, where a name has led to the node. -/
def CountsUnder (node : FileNode) (ignored : List String) (name : String) (rest : List String)
    (bytes : List UInt8) : Prop :=
  node.find? rest = some (.file bytes) ∧
    (∀ directory ∈ (name :: rest).dropLast, directory ∉ ignored) ∧
    ∃ stem, stem ≠ "" ∧ (name :: rest).getLast? = some (stem ++ ".yaml")

theorem counts_directory_iff (entries : List (String × FileNode))
    (distinct : (entries.map Prod.fst).Nodup) (ignored names : List String) (bytes : List UInt8) :
    (directory entries).Counts ignored names bytes ↔
      ∃ entry ∈ entries, ∃ rest, names = entry.1 :: rest ∧
        entry.2.CountsUnder ignored entry.1 rest bytes := by
  cases names with
  | nil => simp [Counts]
  | cons name rest =>
      rw [Counts, find?_cons_eq_some_iff entries distinct]
      constructor
      · rintro ⟨⟨node, member, found⟩, passes, named⟩
        exact ⟨(name, node), member, rest, rfl, found, passes, named⟩
      · rintro ⟨⟨other, node⟩, member, _, same, found, passes, named⟩
        cases same
        exact ⟨⟨node, member, found⟩, passes, named⟩

theorem countsUnder_file_iff (content : List UInt8) (ignored : List String) (name : String)
    (rest : List String) (bytes : List UInt8) :
    (file content).CountsUnder ignored name rest bytes ↔
      (rest, bytes) = ([], content) ∧ extension? name = some ruleExtension := by
  rw [CountsUnder, find?_file_eq_some_iff, extension_eq_some_iff, Prod.mk.injEq, file.injEq]
  constructor
  · rintro ⟨⟨rfl, same⟩, -, stem, notEmpty, named⟩
    exact ⟨⟨rfl, same⟩, stem, notEmpty, Option.some.inj named⟩
  · rintro ⟨⟨rfl, same⟩, stem, notEmpty, rfl⟩
    exact ⟨⟨rfl, same⟩, by simp, stem, notEmpty, rfl⟩

theorem countsUnder_directory_iff (entries : List (String × FileNode)) (ignored : List String)
    (name : String) (rest : List String) (bytes : List UInt8) :
    (directory entries).CountsUnder ignored name rest bytes ↔
      name ∉ ignored ∧ (directory entries).Counts ignored rest bytes := by
  cases rest with
  | nil => simp [CountsUnder, Counts]
  | cons next rest =>
      simp only [CountsUnder, Counts, List.dropLast_cons_cons, List.mem_cons, forall_eq_or_imp,
        List.getLast?_cons_cons]
      constructor
      · rintro ⟨found, ⟨here, below⟩, named⟩
        exact ⟨here, found, below, named⟩
      · rintro ⟨here, found, below, named⟩
        exact ⟨found, ⟨here, below⟩, named⟩

theorem enumerates_visitsBelow (ignored : List String) (path : String)
    (entries : List (String × FileNode)) (distinct : (entries.map Prod.fst).Nodup)
    (each : ∀ entry ∈ entries, ∀ path,
      Enumerates (entry.2.visits ignored entry.1 path) (entry.2.CountsUnder ignored entry.1)) :
    Enumerates (visitsBelow ignored path entries) ((directory entries).Counts ignored) := by
  have perm : (sortedByName entries).Perm entries := List.mergeSort_perm entries _
  have below := enumerates_flatMap (sortedByName entries) (pairwise_sortedByName entries distinct)
    (fun entry => entry.2.visits ignored entry.1 (joinPath path entry.1))
    (fun entry => entry.2.CountsUnder ignored entry.1)
    (fun entry member => each entry (perm.mem_iff.mp member) _)
  rw [← visitsBelow_eq] at below
  obtain ⟨visited, bytes, ordered, inVisited⟩ := below
  refine ⟨visited, bytes, ordered, ?_⟩
  intro names bytes
  rw [inVisited, counts_directory_iff entries distinct]
  simp only [perm.mem_iff]

theorem enumerates_visits (ignored : List String) (node : FileNode) :
    node.DistinctNames → ∀ name path,
      Enumerates (node.visits ignored name path) (node.CountsUnder ignored name) := by
  induction node using induct with
  | file bytes =>
      intro _ name path
      by_cases named : extension? name = some ruleExtension
      · refine ⟨[([], bytes)], ?_, List.pairwise_singleton _ _, ?_⟩
        · simp [visits, visitFile, named, Visit.ruleBytes?]
        · intro rest other
          rw [countsUnder_file_iff, List.mem_singleton, and_iff_left named]
      · refine ⟨[], ?_, List.Pairwise.nil, ?_⟩
        · simp [visits, visitFile, named, Visit.ruleBytes?]
        · intro rest other
          simp [countsUnder_file_iff, named]
  | directory entries each =>
      intro distinct name path
      obtain ⟨names, within⟩ := (distinctNames_directory_iff entries).mp distinct
      by_cases skipped : name ∈ ignored
      · refine ⟨[], ?_, List.Pairwise.nil, ?_⟩
        · simp [visits, skipped, Visit.ruleBytes?]
        · intro rest bytes
          simp [countsUnder_directory_iff, skipped]
      · have all := enumerates_visitsBelow ignored path entries names fun entry member =>
          each entry member (within entry member) entry.1
        have same : (directory entries).visits ignored name path =
            visitsBelow ignored path entries := by
          rw [visits, if_neg (by simpa using skipped), visitsBelow]
        rw [same]
        obtain ⟨visited, bytes, ordered, inVisited⟩ := all
        refine ⟨visited, bytes, ordered, ?_⟩
        intro rest bytes
        rw [inVisited, countsUnder_directory_iff, and_iff_right skipped]

end FileNode

end HttpInspection
