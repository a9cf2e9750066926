import HttpInspection.Proofs.FileNodes
import HttpInspection.Proofs.Utf8
import Mathlib.Data.List.DropRight

/-!
# Appending to files

Bytes that are written at the end of a file are read from it afterwards, and writing twice is writing
once.  Putting a file where there is no directory leaves every directory a directory with no name
less, so that a path that led to a place still leads there.
-/

set_option autoImplicit false

namespace HttpInspection

namespace FileNode

/-! ## Entries of a directory -/

theorem lookup_setEntry_self (name : String) (node : FileNode)
    (entries : List (String × FileNode)) :
    (setEntry name node entries).lookup name = some node := by
  induction entries with
  | nil => simp [setEntry]
  | cons entry rest ih =>
      obtain ⟨other, old⟩ := entry
      rw [setEntry]
      split
      next same => simp
      next different =>
        rw [List.lookup_cons, beq_eq_false_iff_ne.mpr (Ne.symm different)]
        exact ih

theorem lookup_setEntry_other (name other : String) (different : other ≠ name) (node : FileNode)
    (entries : List (String × FileNode)) :
    (setEntry name node entries).lookup other = entries.lookup other := by
  induction entries with
  | nil => simp [setEntry, List.lookup_cons, beq_eq_false_iff_ne.mpr different]
  | cons entry rest ih =>
      obtain ⟨key, old⟩ := entry
      rw [setEntry]
      split
      next same =>
        subst same
        simp [List.lookup_cons, beq_eq_false_iff_ne.mpr different]
      next => rw [List.lookup_cons, List.lookup_cons, ih]

theorem setEntry_setEntry (name : String) (first second : FileNode)
    (entries : List (String × FileNode)) :
    setEntry name second (setEntry name first entries) = setEntry name second entries := by
  induction entries with
  | nil => simp [setEntry]
  | cons entry rest ih =>
      obtain ⟨other, old⟩ := entry
      by_cases same : other = name
      · simp [setEntry, same]
      · simp [setEntry, same, ih]

/-! ## Nodes that are put somewhere -/

theorem find?_append (root : FileNode) (front back : List String) :
    root.find? (front ++ back) = (root.find? front).bind fun node => node.find? back := by
  induction front generalizing root with
  | nil => simp
  | cons name rest ih =>
      cases root with
      | file bytes => rfl
      | directory entries =>
          rw [List.cons_append, find?, find?]
          cases entries.lookup name with
          | none => rfl
          | some node => exact ih node

theorem find?_cons_of_some (root found : FileNode) (name : String) (rest : List String)
    (leads : root.find? (name :: rest) = some found) :
    ∃ entries child, root = directory entries ∧ entries.lookup name = some child ∧
      child.find? rest = some found := by
  cases root with
  | file bytes => cases leads
  | directory entries =>
      rw [find?] at leads
      cases listed : entries.lookup name with
      | none => rw [listed] at leads; cases leads
      | some child =>
          rw [listed] at leads
          exact ⟨entries, child, rfl, listed, leads⟩

@[simp] theorem insert_nil (node root : FileNode) : node.insert root [] = node := by
  cases root <;> rfl

theorem find?_insert_cons_self (node : FileNode) (name : String) (rest path : List String)
    (entries : List (String × FileNode)) :
    (node.insert (directory entries) (name :: rest)).find? (name :: path) =
      (node.insert ((entries.lookup name).getD (directory [])) rest).find? path := by
  rw [insert, find?, lookup_setEntry_self]

theorem insert_insert (first second root : FileNode) (names : List String) :
    second.insert (first.insert root names) names = second.insert root names := by
  induction names generalizing root with
  | nil => simp
  | cons name rest ih =>
      cases root with
      | file bytes => rfl
      | directory entries =>
          simp only [insert, lookup_setEntry_self, Option.getD_some, ih, setEntry_setEntry]

theorem find?_insert_self (node root : FileNode) (parent : List String) (last : String)
    (entries : List (String × FileNode)) (inside : root.find? parent = some (directory entries)) :
    (node.insert root (parent ++ [last])).find? (parent ++ [last]) = some node := by
  induction parent generalizing root with
  | nil =>
      rw [find?_nil] at inside
      cases inside
      rw [List.nil_append, find?_insert_cons_self, insert_nil, find?_nil]
  | cons name rest ih =>
      obtain ⟨siblings, child, rfl, listed, leads⟩ := find?_cons_of_some _ _ _ _ inside
      rw [List.cons_append, find?_insert_cons_self, listed, Option.getD_some]
      exact ih child leads

/-- A directory stays a directory with no name less. -/
theorem find?_insert_directory (node root : FileNode) (names here : List String)
    (entries : List (String × FileNode))
    (noDirectory : ∀ entries, root.find? names ≠ some (directory entries))
    (inside : root.find? here = some (directory entries)) :
    ∃ more, (node.insert root names).find? here = some (directory more) ∧
      ∀ name, (entries.lookup name).isSome = true → (more.lookup name).isSome = true := by
  induction names generalizing root here with
  | nil =>
      cases root with
      | directory entries => exact absurd (find?_nil _) (noDirectory entries)
      | file bytes => cases ((find?_file_eq_some_iff bytes here _).mp inside).2
  | cons name rest ih =>
      cases here with
      | nil =>
          rw [find?_nil] at inside
          cases inside
          refine ⟨_, find?_nil _, ?_⟩
          intro other listed
          by_cases same : other = name
          · rw [same, lookup_setEntry_self]
            rfl
          · rwa [lookup_setEntry_other name other same]
      | cons first path =>
          obtain ⟨siblings, child, rfl, listed, leads⟩ := find?_cons_of_some _ _ _ _ inside
          -- Only the directories on the way to the place change.
          by_cases same : first = name
          · subst same
            rw [find?_insert_cons_self, listed, Option.getD_some]
            refine ih child path (fun entries below => noDirectory entries ?_) leads
            rw [find?, listed]
            exact below
          · refine ⟨entries, ?_, fun _ listed => listed⟩
            rw [insert, find?, lookup_setEntry_other name first same, listed]
            exact leads

end FileNode

namespace FileTree

/-! ## Paths -/

theorem follow_insert (tree : FileTree) (node : FileNode) (names : List String)
    (noDirectory : ∀ entries, tree.root.find? names ≠ some (.directory entries))
    (here next : List String) (component : String) (leads : tree.follow here component = .ok next) :
    ({ tree with root := node.insert tree.root names } : FileTree).follow here component =
      .ok next := by
  unfold follow at leads ⊢
  cases found : tree.root.find? here with
  | none => simp [found] at leads
  | some place =>
      cases place with
      | file bytes => simp [found] at leads
      | directory entries =>
          obtain ⟨more, kept, listed⟩ :=
            FileNode.find?_insert_directory node tree.root names here entries noDirectory found
          rw [found] at leads
          rw [kept]
          dsimp only at leads ⊢
          by_cases known : (entries.lookup component).isSome = true
          · rw [if_pos (listed component known)]
            rwa [if_pos known] at leads
          · rw [if_neg known] at leads
            split_ifs at leads with stays rises long
            · rwa [if_pos stays]
            · rwa [if_neg stays, if_pos rises]

theorem foldlM_follow_insert (tree : FileTree) (node : FileNode) (names : List String)
    (noDirectory : ∀ entries, tree.root.find? names ≠ some (.directory entries))
    (components here final : List String)
    (leads : components.foldlM tree.follow here = .ok final) :
    components.foldlM ({ tree with root := node.insert tree.root names } : FileTree).follow here =
      .ok final := by
  induction components generalizing here with
  | nil => exact leads
  | cons component rest ih =>
      rw [List.foldlM_cons] at leads ⊢
      cases first : tree.follow here component with
      | error fault => simp [first, bind, Except.bind] at leads
      | ok next =>
          rw [first] at leads
          rw [follow_insert tree node names noDirectory here next component first]
          exact ih next leads

def placeIn (tree : FileTree) (last : String) (parent : List String) :
    Except FileFault (List String) :=
  match tree.root.find? parent with
  | some (.directory _) =>
    if last = "." ∨ last = ".." then .error .isADirectory
    else if fileNameLimit < (bytesOf last).length then .error .nameTooLong
    else .ok (parent ++ [last])
  | _ => .error .notADirectory

theorem placeIn_eq_ok_iff (tree : FileTree) (last : String) (parent places : List String) :
    tree.placeIn last parent = .ok places ↔
      (∃ entries, tree.root.find? parent = some (.directory entries)) ∧ last ≠ "." ∧ last ≠ ".." ∧
        ¬ fileNameLimit < (bytesOf last).length ∧ parent ++ [last] = places := by
  unfold placeIn
  split
  next entries inside =>
    split_ifs with special long
    · rcases special with here | above <;> simp_all
    · simp [long]
    · simp [inside, not_or.mp special, long]
  next outside =>
    constructor
    · exact fun same => nomatch same
    · rintro ⟨⟨entries, inside⟩, -⟩
      exact absurd inside (outside entries)

theorem resolveNew_of_filled (tree : FileTree) (path : String) (front : List String)
    (last : String) (fine : pathFault? path = none)
    (components : pathComponents path = front ++ [last]) (filled : last ≠ "") :
    tree.resolveNew path =
      (front.foldlM tree.follow (tree.startOf path)).bind (tree.placeIn last) := by
  have named : ((front ++ [last]).reverse.dropWhile (· == "")).reverse = front ++ [last] :=
    List.rdropWhile_concat_neg _ _ _ (by simpa using filled)
  rw [resolveNew, fine]
  dsimp only
  rw [components, named, List.getLast?_concat, List.dropLast_concat]
  simp only [lt_self_iff_false, false_or]
  rfl

/-- A path that ends with a separator names no file. -/
theorem resolveNew_of_open (tree : FileTree) (path : String) (front : List String)
    (fine : pathFault? path = none) (components : pathComponents path = front ++ [""])
    (places : List String) : tree.resolveNew path ≠ .ok places := by
  have fewer : ((front ++ [""]).reverse.dropWhile (· == "")).reverse.length <
      (front ++ [""]).length := by
    have shorter := (List.rdropWhile_prefix (· == "") front).length_le
    have same := List.rdropWhile_concat_pos (· == "") front "" rfl
    rw [List.rdropWhile] at same
    rw [same, List.length_append, List.length_singleton]
    omega
  rw [resolveNew, fine]
  dsimp only
  rw [components]
  split
  next => exact fun same => nomatch same
  next last final =>
    cases folded : (((front ++ [""]).reverse.dropWhile (· == "")).reverse.dropLast).foldlM
        tree.follow (tree.startOf path) with
    | error fault => exact fun same => nomatch same
    | ok parent =>
        simp only [bind, Except.bind, if_pos (Or.inl fewer)]
        split <;> exact fun same => nomatch same

/-- A path leads to a name in a directory, whether or not something has that name. -/
structure Names (tree : FileTree) (path : String) (front : List String) (last : String)
    (parent places : List String) : Prop where
  fine : pathFault? path = none
  components : pathComponents path = front ++ [last]
  filled : last ≠ ""
  leads : front.foldlM tree.follow (tree.startOf path) = .ok parent
  place : tree.placeIn last parent = .ok places

theorem resolveNew_of_names (tree : FileTree) (path : String) (front : List String)
    (last : String) (parent places : List String)
    (names : tree.Names path front last parent places) : tree.resolveNew path = .ok places := by
  rw [tree.resolveNew_of_filled path front last names.fine names.components names.filled,
    names.leads]
  exact names.place

theorem exists_names_of_resolveNew (tree : FileTree) (path : String) (places : List String)
    (resolved : tree.resolveNew path = .ok places) :
    ∃ front last parent, tree.Names path front last parent places := by
  cases fine : pathFault? path with
  | some fault => simp [resolveNew, fine] at resolved
  | none =>
      rcases List.eq_nil_or_concat' (pathComponents path) with none | ⟨front, last, components⟩
      · simp [resolveNew, fine, none] at resolved
      · by_cases filled : last = ""
        · subst filled
          exact absurd resolved (tree.resolveNew_of_open path front fine components places)
        · rw [tree.resolveNew_of_filled path front last fine components filled] at resolved
          cases leads : front.foldlM tree.follow (tree.startOf path) with
          | error fault =>
              rw [leads] at resolved
              cases resolved
          | ok parent =>
              rw [leads] at resolved
              exact ⟨front, last, parent, fine, components, filled, leads, resolved⟩

theorem resolveNew_insert (tree : FileTree) (node : FileNode) (path : String)
    (places : List String) (resolved : tree.resolveNew path = .ok places)
    (noDirectory : ∀ entries, tree.root.find? places ≠ some (.directory entries)) :
    ({ tree with root := node.insert tree.root places } : FileTree).resolveNew path =
      .ok places := by
  obtain ⟨front, last, parent, fine, components, filled, leads, place⟩ :=
    tree.exists_names_of_resolveNew path places resolved
  refine resolveNew_of_names _ path front last parent places ⟨fine, components, filled, ?_, ?_⟩
  · exact tree.foldlM_follow_insert node places noDirectory front _ parent leads
  · rw [placeIn_eq_ok_iff] at place ⊢
    obtain ⟨⟨entries, inside⟩, proper⟩ := place
    obtain ⟨more, kept, -⟩ :=
      FileNode.find?_insert_directory node tree.root places parent entries noDirectory inside
    exact ⟨⟨more, kept⟩, proper⟩

theorem find?_insert_of_resolveNew (tree : FileTree) (node : FileNode) (path : String)
    (places : List String) (resolved : tree.resolveNew path = .ok places) :
    (node.insert tree.root places).find? places = some node := by
  obtain ⟨front, last, parent, names⟩ := tree.exists_names_of_resolveNew path places resolved
  obtain ⟨⟨entries, inside⟩, -, -, -, rfl⟩ :=
    (tree.placeIn_eq_ok_iff last parent places).mp names.place
  exact FileNode.find?_insert_self node tree.root parent last entries inside

/-- A path that may be written leads to its place once something is there. -/
theorem resolve_of_resolveNew (tree : FileTree) (path : String) (places : List String)
    (resolved : tree.resolveNew path = .ok places) :
    tree.resolve path =
      if (tree.root.find? places).isSome then .ok places else .error .missing := by
  obtain ⟨front, last, parent, fine, components, filled, leads, place⟩ :=
    tree.exists_names_of_resolveNew path places resolved
  obtain ⟨⟨entries, inside⟩, notHere, notAbove, short, rfl⟩ :=
    (tree.placeIn_eq_ok_iff last parent places).mp place
  have found : tree.root.find? (parent ++ [last]) = entries.lookup last := by
    rw [FileNode.find?_append, inside, Option.bind_some, FileNode.find?]
    cases entries.lookup last <;> simp
  rw [resolve, fine, components, List.foldlM_append, leads, found]
  simp [follow, inside, filled, notHere, notAbove, short, bind, Except.bind, pure, Except.pure]
  cases (entries.lookup last).isSome <;> rfl

/-! ## Bytes -/

/-- The bytes of the file at a place; none if there is no file. -/
def bytesAt (tree : FileTree) (places : List String) : List UInt8 :=
  match tree.root.find? places with
  | some (.file bytes) => bytes
  | _ => []

theorem bytesAt_of_file (tree : FileTree) (places : List String) (bytes : List UInt8)
    (found : tree.root.find? places = some (.file bytes)) : tree.bytesAt places = bytes := by
  rw [bytesAt, found]

theorem readBytes_of_resolveNew (tree : FileTree) (path : String) (places : List String)
    (resolved : tree.resolveNew path = .ok places)
    (noDirectory : ∀ entries, tree.root.find? places ≠ some (.directory entries)) :
    tree.readBytes path =
      if (tree.root.find? places).isSome then .ok (tree.bytesAt places) else .error .missing := by
  rw [readBytes, node, tree.resolve_of_resolveNew path places resolved, bytesAt]
  cases found : tree.root.find? places with
  | none => rfl
  | some node =>
      cases node with
      | file bytes => simp [bind, Except.bind, found]
      | directory entries => exact absurd found (noDirectory entries)

theorem append_eq_ok_iff (tree grown : FileTree) (path : String) (bytes : List UInt8) :
    tree.append path bytes = .ok grown ↔
      ∃ places, tree.resolveNew path = .ok places ∧
        (∀ entries, tree.root.find? places ≠ some (.directory entries)) ∧
          { tree with
            root := (FileNode.file (tree.bytesAt places ++ bytes)).insert tree.root places } =
              grown := by
  unfold append bytesAt
  cases tree.resolveNew path with
  | error fault => simp [bind, Except.bind]
  | ok places =>
      cases found : tree.root.find? places with
      | none => simp [bind, Except.bind, found]
      | some node => cases node <;> simp [bind, Except.bind, found]

/-- A file that can be written at all can be written with any bytes. -/
theorem exists_append (tree grown : FileTree) (path : String) (bytes more : List UInt8)
    (written : tree.append path bytes = .ok grown) :
    ∃ other, tree.append path more = .ok other := by
  obtain ⟨places, resolved, noDirectory, -⟩ := (append_eq_ok_iff tree grown path bytes).mp written
  exact ⟨_, (append_eq_ok_iff tree _ path more).mpr ⟨places, resolved, noDirectory, rfl⟩⟩

/-- To append twice is to append at once. -/
theorem append_append (tree grown : FileTree) (path : String) (front back : List UInt8)
    (written : tree.append path front = .ok grown) :
    grown.append path back = tree.append path (front ++ back) := by
  obtain ⟨other, atOnce⟩ := exists_append tree grown path front (front ++ back) written
  rw [atOnce, append_eq_ok_iff]
  obtain ⟨places, resolved, noDirectory, rfl⟩ := (append_eq_ok_iff tree grown path front).mp written
  obtain ⟨same, resolvedToo, -, rfl⟩ :=
    (append_eq_ok_iff tree other path (front ++ back)).mp atOnce
  cases resolved.symm.trans resolvedToo
  have placed := tree.find?_insert_of_resolveNew (.file (tree.bytesAt places ++ front)) path places
    resolved
  refine ⟨places, tree.resolveNew_insert _ path places resolved noDirectory, ?_, ?_⟩
  · intro entries
    rw [placed]
    exact fun same => nomatch same
  · rw [bytesAt_of_file _ places _ placed, FileNode.insert_insert, List.append_assoc]

/-- What is appended to a file stands behind what was in it. -/
theorem readBytes_append (tree grown : FileTree) (path : String) (old bytes : List UInt8)
    (before : tree.readBytes path = .ok old ∨ tree.readBytes path = .error .missing ∧ old = [])
    (written : tree.append path bytes = .ok grown) :
    grown.readBytes path = .ok (old ++ bytes) := by
  obtain ⟨places, resolved, noDirectory, built⟩ :=
    (append_eq_ok_iff tree grown path bytes).mp written
  have resolvedToo : grown.resolveNew path = .ok places := by
    rw [← built]
    exact tree.resolveNew_insert _ path places resolved noDirectory
  have placed : grown.root.find? places = some (.file (tree.bytesAt places ++ bytes)) := by
    rw [← built]
    exact tree.find?_insert_of_resolveNew _ path places resolved
  have read := tree.readBytes_of_resolveNew path places resolved noDirectory
  have same : tree.bytesAt places = old := by
    rw [read] at before
    split_ifs at before with present
    · simpa using before
    · rw [Option.not_isSome_iff_eq_none] at present
      simpa [bytesAt, present, eq_comm] using before
  rw [grown.readBytes_of_resolveNew path places resolvedToo (by simp [placed]),
    grown.bytesAt_of_file places _ placed, same]
  simp [placed]

end FileTree

end HttpInspection
