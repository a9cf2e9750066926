import HttpInspection.FileTree

/-!
# Files and the names that lead to them

In a tree whose directories have distinct names, a file stands under the names that lead to it,
however the entries of the directories are listed.
-/

set_option autoImplicit false

namespace HttpInspection.FileNode

/-- A property of files that a directory has when all its entries do holds everywhere. -/
theorem induct {motive : FileNode → Prop} (file : ∀ bytes, motive (.file bytes))
    (directory : ∀ entries, (∀ entry ∈ entries, motive entry.2) → motive (.directory entries)) :
    ∀ node, motive node
  | .file bytes => file bytes
  | .directory entries => directory entries fun entry member =>
      have : sizeOf entry.2 < 1 + sizeOf entries := by
        have inEntries := List.sizeOf_lt_of_mem member
        obtain ⟨name, node⟩ := entry
        simp only [Prod.mk.sizeOf_spec] at inEntries ⊢
        omega
      induct file directory entry.2

theorem lookup_eq_some_iff_mem (entries : List (String × FileNode))
    (distinct : (entries.map Prod.fst).Nodup) (name : String) (node : FileNode) :
    entries.lookup name = some node ↔ (name, node) ∈ entries := by
  induction entries with
  | nil => simp
  | cons entry rest ih =>
      obtain ⟨other, otherNode⟩ := entry
      obtain ⟨fresh, restDistinct⟩ := List.nodup_cons.mp distinct
      by_cases same : name = other
      · subst same
        have absent : (name, node) ∉ rest := fun later =>
          fresh (List.mem_map.mpr ⟨_, later, rfl⟩)
        simp [absent, eq_comm]
      · rw [List.lookup_cons, beq_eq_false_iff_ne.mpr same, List.mem_cons, Prod.mk.injEq]
        simp [same, ih restDistinct]

@[simp] theorem find?_nil (node : FileNode) : node.find? [] = some node := by
  cases node <;> rfl

theorem find?_file_eq_some_iff (bytes : List UInt8) (names : List String) (found : FileNode) :
    (file bytes).find? names = some found ↔ names = [] ∧ found = file bytes := by
  cases names with
  | nil => simp [eq_comm]
  | cons name rest => simp [find?]

theorem find?_cons_eq_some_iff (entries : List (String × FileNode))
    (distinct : (entries.map Prod.fst).Nodup) (name : String) (rest : List String)
    (found : FileNode) :
    (directory entries).find? (name :: rest) = some found ↔
      ∃ node, (name, node) ∈ entries ∧ node.find? rest = some found := by
  simp only [← lookup_eq_some_iff_mem entries distinct, find?]
  cases entries.lookup name <;> simp

/-! ## Distinct names -/

/-- In every directory of a tree the names are distinct. -/
def DistinctNames (root : FileNode) : Prop :=
  ∀ names entries, root.find? names = some (directory entries) → (entries.map Prod.fst).Nodup

theorem distinctNames_file (bytes : List UInt8) : (file bytes).DistinctNames := by
  intro names entries found
  have same := ((find?_file_eq_some_iff bytes names _).mp found).2
  cases same

theorem distinctNames_directory_iff (entries : List (String × FileNode)) :
    (directory entries).DistinctNames ↔
      (entries.map Prod.fst).Nodup ∧ ∀ entry ∈ entries, entry.2.DistinctNames := by
  constructor
  · intro distinct
    have here := distinct [] entries (find?_nil _)
    refine ⟨here, ?_⟩
    rintro ⟨name, node⟩ member names below found
    refine distinct (name :: names) below ?_
    exact (find?_cons_eq_some_iff entries here name names _).mpr ⟨node, member, found⟩
  · rintro ⟨here, within⟩ names below found
    cases names with
    | nil =>
        rw [find?_nil, Option.some.injEq, directory.injEq] at found
        exact found ▸ here
    | cons name rest =>
        obtain ⟨node, member, inNode⟩ := (find?_cons_eq_some_iff entries here name rest _).mp found
        exact within (name, node) member rest below inNode

/-! ## Listing directories in another order -/

/-- One tree is another with directories listed in other orders. -/
inductive Relisted : FileNode → FileNode → Prop where
  | here {entries others : List (String × FileNode)} (reordered : entries.Perm others) :
      Relisted (directory entries) (directory others)
  | within {before after : List (String × FileNode)} {name : String} {node other : FileNode}
      (relisted : Relisted node other) :
      Relisted (directory (before ++ (name, node) :: after))
        (directory (before ++ (name, other) :: after))
  | trans {one middle other : FileNode} (first : Relisted one middle)
      (second : Relisted middle other) : Relisted one other

/-- The same names lead to the same files. -/
def SameFiles (one other : FileNode) : Prop :=
  ∀ names bytes, one.find? names = some (file bytes) ↔ other.find? names = some (file bytes)

theorem sameFiles_directories (entries others : List (String × FileNode))
    (distinct : (entries.map Prod.fst).Nodup) (othersDistinct : (others.map Prod.fst).Nodup)
    (below : ∀ name rest bytes,
      (∃ node, (name, node) ∈ entries ∧ node.find? rest = some (file bytes)) ↔
        ∃ node, (name, node) ∈ others ∧ node.find? rest = some (file bytes)) :
    SameFiles (directory entries) (directory others) := by
  intro names bytes
  cases names with
  | nil => simp
  | cons name rest =>
      rw [find?_cons_eq_some_iff entries distinct, find?_cons_eq_some_iff others othersDistinct]
      exact below name rest bytes

theorem sameFiles_of_relisted (one other : FileNode) (relisted : one.Relisted other)
    (distinct : one.DistinctNames) :
    one.isDirectory = true ∧ other.isDirectory = true ∧ other.DistinctNames ∧
      one.SameFiles other := by
  induction relisted with
  | @here entries others reordered =>
      obtain ⟨names, within⟩ := (distinctNames_directory_iff entries).mp distinct
      have otherNames := (reordered.map Prod.fst).nodup_iff.mp names
      refine ⟨rfl, rfl, (distinctNames_directory_iff others).mpr ⟨otherNames, ?_⟩,
        sameFiles_directories entries others names otherNames ?_⟩
      · intro entry member
        exact within entry (reordered.mem_iff.mpr member)
      · intro name rest bytes
        simp only [reordered.mem_iff]
  | @within before after name node other relisted ih =>
      obtain ⟨names, within⟩ := (distinctNames_directory_iff _).mp distinct
      have otherNames : ((before ++ (name, other) :: after).map Prod.fst).Nodup := by
        simpa using names
      obtain ⟨-, -, otherDistinct, same⟩ := ih (within (name, node) (by simp))
      refine ⟨rfl, rfl, (distinctNames_directory_iff _).mpr ⟨otherNames, ?_⟩,
        sameFiles_directories _ _ names otherNames ?_⟩
      · intro entry member
        simp only [List.mem_append, List.mem_cons] at member within
        rcases member with front | rfl | back
        · exact within entry (.inl front)
        · exact otherDistinct
        · exact within entry (.inr (.inr back))
      · intro place rest bytes
        simp only [List.mem_append, List.mem_cons, Prod.mk.injEq, or_and_right, exists_or]
        refine or_congr Iff.rfl (or_congr ?_ Iff.rfl)
        simp only [and_assoc, exists_and_left, exists_eq_left, same rest bytes]
  | @trans one middle other first second firstSame secondSame =>
      obtain ⟨here, -, middleDistinct, same⟩ := firstSame distinct
      obtain ⟨-, there, otherDistinct, again⟩ := secondSame middleDistinct
      exact ⟨here, there, otherDistinct, fun names bytes =>
        (same names bytes).trans (again names bytes)⟩

end HttpInspection.FileNode
