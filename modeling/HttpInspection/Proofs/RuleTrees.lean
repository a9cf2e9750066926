import HttpInspection.Proofs.Loading
import HttpInspection.Proofs.RuleHistories
import HttpInspection.Proofs.RuleVisits
import Mathlib.Data.List.Sort

/-!
# What is loaded from a tree of rule files

The set that is loaded has the rules of the files that count, of each identifier the first one that
is sound, in the order of visits.  The order in which directories are listed has no influence on it,
and neither has a file that is skipped.
-/

set_option autoImplicit false

namespace HttpInspection

/-! ## The rules that count -/

/-- The bytes of a file give a sound rule. -/
def Rule.ReadFrom (rule : Rule) (bytes : List UInt8) : Prop :=
  ∃ text, strictText? bytes = some text ∧ Rule.parse text = .ok rule ∧ ¬ rule.IsFaulty

/-- The first file, in the order of visits, that counts and gives a sound rule of its identifier. -/
def FileNode.FirstOfId (root : FileNode) (ignored names : List String) (rule : Rule) : Prop :=
  ∃ bytes, root.Counts ignored names bytes ∧ rule.ReadFrom bytes ∧
    ∀ earlier otherBytes (other : Rule), root.Counts ignored earlier otherBytes →
      other.ReadFrom otherBytes → other.id = rule.id → ¬ VisitedBefore earlier names

/-! ## Loading -/

def ruleOf? (bytes : List UInt8) : Option Rule :=
  (strictText? bytes).bind fun text => (Rule.parse text).toOption

theorem toOption_readRuleFile (path : String) (bytes : List UInt8) :
    (readRuleFile path bytes).toOption = ruleOf? bytes := by
  unfold readRuleFile ruleOf? FileTree.textOf
  cases strictText? bytes with
  | none => rfl
  | some text =>
      simp only [Option.bind_some]
      cases Rule.parse text <;> rfl

theorem Rule.readFrom_iff (rule : Rule) (bytes : List UInt8) :
    rule.ReadFrom bytes ↔ ruleOf? bytes = some rule ∧ ¬ rule.IsFaulty := by
  simp only [ReadFrom, ruleOf?, Option.bind_eq_some_iff]
  constructor
  · rintro ⟨text, read, parsed, sound⟩
    exact ⟨⟨text, read, by rw [parsed]; rfl⟩, sound⟩
  · rintro ⟨⟨text, read, parsed⟩, sound⟩
    refine ⟨text, read, ?_, sound⟩
    cases result : Rule.parse text with
    | error fault => rw [result] at parsed; cases parsed
    | ok other =>
        rw [result] at parsed
        exact congrArg Except.ok (Option.some.inj parsed)

namespace Loaded

/-- A file that gives no rule leaves the rules as they are, and so does one whose rule is rejected. -/
theorem visit_rules (loaded : Loaded) (visit : Visit) :
    (loaded.visit visit).value.rules =
      (visit.ruleBytes?.bind ruleOf?).toList.foldl RuleSet.offer loaded.rules := by
  cases visit with
  | ignoredDirectory path => rfl
  | otherFile path => rfl
  | ruleFile path bytes =>
      simp only [Visit.ruleBytes?, Option.bind_some, ← toOption_readRuleFile path bytes,
        Loaded.visit, RuleSet.addFile]
      cases readRuleFile path bytes with
      | error failure => rfl
      | ok rule =>
          simp only [Except.toOption, Option.toList_some, List.foldl_cons, List.foldl_nil,
            RuleSet.offer, bind, Except.bind]
          cases loaded.rules.add rule <;> rfl

theorem visitAll_rules (loaded : Loaded) (visits : List Visit) :
    (loaded.visitAll visits).value.rules =
      ((visits.filterMap Visit.ruleBytes?).filterMap ruleOf?).foldl RuleSet.offer
        loaded.rules := by
  induction visits generalizing loaded with
  | nil => rfl
  | cons visit rest ih =>
      have next : (loaded.visitAll (visit :: rest)).value =
          ((loaded.visit visit).value.visitAll rest).value := rfl
      rw [next, ih, visit_rules]
      cases visit with
      | ignoredDirectory path => rfl
      | otherFile path => rfl
      | ruleFile path bytes => cases read : ruleOf? bytes <;> simp [Visit.ruleBytes?, read]

end Loaded

/-- The rules of a set are the first sound ones of their identifiers in a tree, in the order of
visits. -/
def RuleSet.FirstRulesOf (set : RuleSet) (root : FileNode) (ignored : List String) : Prop :=
  ∃ kept : List (List String × Rule),
    (kept.Pairwise fun one other => VisitedBefore one.1 other.1) ∧
      (∀ names rule, (names, rule) ∈ kept ↔ root.FirstOfId ignored names rule) ∧
      set.rules = kept.map fun entry => entry.2.inheritEncodings

/-- The rules that visited files give, with the names that lead to the files. -/
def placedRules (visited : List (List String × List UInt8)) : List (List String × Rule) :=
  visited.filterMap fun file => (ruleOf? file.2).map (file.1, ·)

theorem mem_placedRules_iff (visited : List (List String × List UInt8)) (names : List String)
    (rule : Rule) :
    (names, rule) ∈ placedRules visited ↔
      ∃ bytes, (names, bytes) ∈ visited ∧ ruleOf? bytes = some rule := by
  rw [placedRules, List.mem_filterMap]
  constructor
  · rintro ⟨file, member, given⟩
    obtain ⟨other, read, same⟩ := Option.map_eq_some_iff.mp given
    cases same
    exact ⟨file.2, member, read⟩
  · rintro ⟨bytes, member, read⟩
    exact ⟨(names, bytes), member, by simp [read]⟩

theorem map_snd_placedRules (visited : List (List String × List UInt8)) :
    (placedRules visited).map Prod.snd = (visited.map Prod.snd).filterMap ruleOf? := by
  rw [placedRules, List.filterMap_map, List.map_filterMap]
  refine List.filterMap_congr fun file _ => ?_
  rw [Option.map_map, Function.comp_apply]
  exact Option.map_id'

theorem pairwise_placedRules (visited : List (List String × List UInt8))
    (ordered : visited.Pairwise fun one other => VisitedBefore one.1 other.1) :
    (placedRules visited).Pairwise fun one other => VisitedBefore one.1 other.1 := by
  refine List.pairwise_filterMap.mpr (ordered.imp ?_)
  intro one other before oneRule oneGiven otherRule otherGiven
  obtain ⟨_, -, rfl⟩ := Option.map_eq_some_iff.mp oneGiven
  obtain ⟨_, -, rfl⟩ := Option.map_eq_some_iff.mp otherGiven
  exact before

theorem firstOffered_iff_firstOfId (root : FileNode) (ignored : List String)
    (visited : List (List String × List UInt8))
    (inVisited : ∀ names bytes, (names, bytes) ∈ visited ↔ root.Counts ignored names bytes)
    (names : List String) (rule : Rule) :
    RuleSet.FirstOffered VisitedBefore {} (placedRules visited) names rule ↔
      root.FirstOfId ignored names rule := by
  have unknown : RuleSet.contains {} rule.id = false := rfl
  simp only [RuleSet.FirstOffered, mem_placedRules_iff, inVisited, unknown, FileNode.FirstOfId,
    Rule.readFrom_iff]
  constructor
  · rintro ⟨⟨bytes, counts, read⟩, sound, -, none⟩
    exact ⟨bytes, counts, ⟨read, sound⟩, fun earlier otherBytes other otherCounts otherRead =>
      none earlier other ⟨otherBytes, otherCounts, otherRead.1⟩ otherRead.2⟩
  · rintro ⟨bytes, counts, ⟨read, sound⟩, none⟩
    refine ⟨⟨bytes, counts, read⟩, sound, trivial, ?_⟩
    rintro earlier other ⟨otherBytes, otherCounts, otherRead⟩ otherSound
    exact none earlier otherBytes other otherCounts ⟨otherRead, otherSound⟩

theorem RuleSource.load_of_directory (source : RuleSource) (files : FileTree)
    (entries : List (String × FileNode))
    (found : files.node source.directory = .ok (.directory entries))
    (distinct : (FileNode.directory entries).DistinctNames) :
    ∃ set, (source.load files).value = .ok set ∧ set.Built ∧
      set.FirstRulesOf (.directory entries) source.ignored := by
  obtain ⟨names, within⟩ := (FileNode.distinctNames_directory_iff entries).mp distinct
  obtain ⟨visited, bytes, ordered, inVisited⟩ := FileNode.enumerates_visitsBelow source.ignored
    source.directory entries names fun entry member =>
      FileNode.enumerates_visits source.ignored entry.2 (within entry member) entry.1
  have inOrder := pairwise_placedRules visited ordered
  obtain ⟨kept, accepted, part, inKept⟩ := RuleSet.exists_accepted_places VisitedBefore
    visitedBefore_asymm {} (placedRules visited) inOrder
  have rules := Loaded.visitAll_rules {} (visitsBelow source.ignored source.directory entries)
  rw [bytes, ← map_snd_placedRules] at rules
  refine ⟨((placedRules visited).map Prod.snd).foldl RuleSet.offer {}, ?_,
    RuleSet.built_offers {} .empty _, kept, inOrder.sublist part, ?_, ?_⟩
  · rw [load, found, ← rules]
    rfl
  · intro names rule
    rw [inKept]
    exact firstOffered_iff_firstOfId _ _ visited inVisited names rule
  · rw [RuleSet.foldl_offer_rules, accepted, List.map_map]
    rfl

/-- The first rules of their identifiers determine a set. -/
theorem RuleSet.eq_of_firstRulesOf (one other : RuleSet) (oneBuilt : one.Built)
    (otherBuilt : other.Built) (root otherRoot : FileNode) (ignored : List String)
    (oneRules : one.FirstRulesOf root ignored) (otherRules : other.FirstRulesOf otherRoot ignored)
    (same : ∀ names rule, root.FirstOfId ignored names rule ↔
      otherRoot.FirstOfId ignored names rule) : one = other := by
  obtain ⟨kept, ordered, inKept, rules⟩ := oneRules
  obtain ⟨otherKept, otherOrdered, inOther, otherRules⟩ := otherRules
  refine eq_of_rules_eq one other oneBuilt otherBuilt ?_
  have irreflexive : Std.Irrefl fun one other : List String × Rule =>
      VisitedBefore one.1 other.1 :=
    ⟨fun entry before => visitedBefore_asymm _ _ before before⟩
  have asymmetric : Std.Antisymm fun one other : List String × Rule =>
      VisitedBefore one.1 other.1 :=
    ⟨fun one other before after => absurd after (visitedBefore_asymm _ _ before)⟩
  have equal : kept = otherKept := ordered.eq_of_mem_iff otherOrdered fun entry => by
    rw [inKept, inOther, same]
  rw [rules, otherRules, equal]

/-! ## Other trees from which the same is loaded -/

namespace FileNode

theorem firstOfId_iff_of_sameFiles (root other : FileNode) (same : root.SameFiles other)
    (ignored names : List String) (rule : Rule) :
    root.FirstOfId ignored names rule ↔ other.FirstOfId ignored names rule := by
  have counts (names : List String) (bytes : List UInt8) :
      root.Counts ignored names bytes ↔ other.Counts ignored names bytes :=
    and_congr_left' (same names bytes)
  simp only [FirstOfId, counts]

/-- A file of a tree is skipped: a directory on the way to it is ignored, it is not named as a rule
file, it gives no sound rule, or a file that is visited before gives one of the same identifier. -/
def Skips (root : FileNode) (ignored names : List String) (bytes : List UInt8) : Prop :=
  (∃ directory ∈ names.dropLast, directory ∈ ignored) ∨
    (¬ ∃ stem, stem ≠ "" ∧ names.getLast? = some (stem ++ ".yaml")) ∨
    (¬ ∃ rule : Rule, rule.ReadFrom bytes) ∨
    ∃ rule other : Rule, ∃ earlier otherBytes, rule.ReadFrom bytes ∧
      root.Counts ignored earlier otherBytes ∧ other.ReadFrom otherBytes ∧ other.id = rule.id ∧
      VisitedBefore earlier names

/-- A directory is another one with more files in it, all of which are skipped. -/
structure ExtendsBySkipped (grown root : FileNode) (ignored : List String) : Prop where
  directory : grown.isDirectory = true
  distinct : grown.DistinctNames
  keeps : ∀ names bytes, root.find? names = some (.file bytes) →
    grown.find? names = some (.file bytes)
  skips : ∀ names bytes, grown.find? names = some (.file bytes) →
    root.find? names = some (.file bytes) ∨ grown.Skips ignored names bytes

theorem exists_first {Place : Type} (earlier : Place → Place → Prop)
    (asymmetric : ∀ one other, earlier one other → ¬ earlier other one) (places : List Place)
    (ordered : places.Pairwise earlier) (P : Place → Prop) (place : Place) (member : place ∈ places)
    (holds : P place) :
    ∃ first ∈ places, P first ∧ ∀ other ∈ places, P other → ¬ earlier other first := by
  induction places with
  | nil => exact absurd member List.not_mem_nil
  | cons head rest ih =>
      obtain ⟨least, restOrdered⟩ := List.pairwise_cons.mp ordered
      by_cases here : P head
      · refine ⟨head, List.mem_cons_self, here, ?_⟩
        intro other otherIn _ before
        rcases List.mem_cons.mp otherIn with rfl | later
        · exact asymmetric _ _ before before
        · exact asymmetric _ _ before (least other later)
      · have inRest : place ∈ rest := by
          rcases List.mem_cons.mp member with rfl | later
          · exact absurd holds here
          · exact later
        obtain ⟨first, firstIn, firstHolds, none⟩ := ih restOrdered inRest
        refine ⟨first, List.mem_cons_of_mem _ firstIn, firstHolds, ?_⟩
        intro other otherIn otherHolds
        rcases List.mem_cons.mp otherIn with rfl | later
        · exact absurd otherHolds here
        · exact none other later otherHolds

/-- Where a file counts and gives a sound rule, there is a first such file of its identifier. -/
theorem exists_firstOfId (entries : List (String × FileNode))
    (distinct : (directory entries).DistinctNames) (ignored names : List String)
    (bytes : List UInt8) (rule : Rule) (counts : (directory entries).Counts ignored names bytes)
    (read : rule.ReadFrom bytes) :
    ∃ first firstRule, (directory entries).FirstOfId ignored first firstRule ∧
      firstRule.id = rule.id ∧ ¬ VisitedBefore names first := by
  obtain ⟨here, within⟩ := (distinctNames_directory_iff entries).mp distinct
  obtain ⟨visited, -, ordered, inVisited⟩ := enumerates_visitsBelow ignored "" entries here
    fun entry member => enumerates_visits ignored entry.2 (within entry member) entry.1
  obtain ⟨⟨first, firstBytes⟩, firstIn, ⟨firstRule, firstRead, sameId⟩, none⟩ :=
    exists_first (fun one other => VisitedBefore one.1 other.1)
      (fun one other => visitedBefore_asymm one.1 other.1) visited ordered
      (fun file => ∃ other : Rule, other.ReadFrom file.2 ∧ other.id = rule.id) (names, bytes)
      ((inVisited names bytes).mpr counts) ⟨rule, read, rfl⟩
  refine ⟨first, firstRule, ⟨firstBytes, (inVisited first firstBytes).mp firstIn, firstRead, ?_⟩,
    sameId, none _ ((inVisited names bytes).mpr counts) ⟨rule, read, rfl⟩⟩
  intro earlier otherBytes other otherCounts otherRead otherId
  exact none (earlier, otherBytes) ((inVisited earlier otherBytes).mpr otherCounts)
    ⟨other, otherRead, otherId.trans sameId⟩

theorem readFrom_unique (rule other : Rule) (bytes : List UInt8) (read : rule.ReadFrom bytes)
    (otherRead : other.ReadFrom bytes) : rule = other := by
  have same := (rule.readFrom_iff bytes).mp read
  rw [((other.readFrom_iff bytes).mp otherRead).1] at same
  exact (Option.some.inj same.1).symm

theorem not_skips_of_firstOfId (root : FileNode) (ignored names : List String) (rule : Rule)
    (first : root.FirstOfId ignored names rule) (bytes : List UInt8)
    (found : root.find? names = some (.file bytes)) : ¬ root.Skips ignored names bytes := by
  obtain ⟨own, ⟨ownFound, passes, named⟩, read, none⟩ := first
  rw [ownFound, Option.some.injEq, file.injEq] at found
  subst found
  rintro (⟨directory, onTheWay, inIgnored⟩ | notNamed | noRule | ⟨again, other, earlier, otherBytes,
    againRead, otherCounts, otherRead, sameId, before⟩)
  · exact passes directory onTheWay inIgnored
  · exact notNamed named
  · exact noRule ⟨rule, read⟩
  · rw [readFrom_unique again rule own againRead read] at sameId
    exact none earlier otherBytes other otherCounts otherRead sameId before

theorem firstOfId_iff_of_extendsBySkipped (root grown : FileNode) (ignored : List String)
    (extended : grown.ExtendsBySkipped root ignored) (names : List String) (rule : Rule) :
    root.FirstOfId ignored names rule ↔ grown.FirstOfId ignored names rule := by
  obtain ⟨isDirectory, distinct, keeps, skips⟩ := extended
  have counts (names : List String) (bytes : List UInt8) :
      root.Counts ignored names bytes → grown.Counts ignored names bytes :=
    fun ⟨found, rest⟩ => ⟨keeps names bytes found, rest⟩
  have old (names : List String) (rule : Rule) (first : grown.FirstOfId ignored names rule) :
      ∃ bytes, root.Counts ignored names bytes ∧ rule.ReadFrom bytes := by
    have notSkipped := grown.not_skips_of_firstOfId ignored names rule first
    obtain ⟨bytes, ⟨found, rest⟩, read, -⟩ := first
    rcases skips names bytes found with inRoot | skipped
    · exact ⟨bytes, ⟨inRoot, rest⟩, read⟩
    · exact absurd skipped (notSkipped bytes found)
  constructor
  · rintro ⟨bytes, inRoot, read, none⟩
    refine ⟨bytes, counts names bytes inRoot, read, ?_⟩
    intro earlier otherBytes other otherCounts otherRead sameId before
    cases grown with
    | file content => cases isDirectory
    | directory entries =>
        -- The first file of the identifier is in the smaller tree and is visited before.
        obtain ⟨first, firstRule, isFirst, firstId, notBefore⟩ := exists_firstOfId entries distinct
          ignored earlier otherBytes other otherCounts otherRead
        obtain ⟨firstBytes, firstCounts, firstRead⟩ := old first firstRule isFirst
        have precedes : VisitedBefore first names := List.lt_of_le_of_lt notBefore before
        exact none first firstBytes firstRule firstCounts firstRead (firstId.trans sameId) precedes
  · rintro first
    obtain ⟨bytes, inRoot, read⟩ := old names rule first
    obtain ⟨_, -, -, none⟩ := first
    exact ⟨bytes, inRoot, read, fun earlier otherBytes other otherCounts =>
      none earlier otherBytes other (counts earlier otherBytes otherCounts)⟩

/-- An ignored subdirectory adds nothing but files that are skipped. -/
theorem extendsBySkipped_concat (entries below : List (String × FileNode)) (ignored : List String)
    (name : String) (inIgnored : name ∈ ignored)
    (distinct : (directory (entries ++ [(name, directory below)])).DistinctNames) :
    (directory (entries ++ [(name, directory below)])).ExtendsBySkipped (directory entries)
      ignored := by
  obtain ⟨allNames, -⟩ := (distinctNames_directory_iff _).mp distinct
  have oldNames : (entries.map Prod.fst).Nodup := by
    rw [List.map_append] at allNames
    exact (List.nodup_append.mp allNames).1
  refine ⟨rfl, distinct, ?_, ?_⟩
  · intro names bytes found
    cases names with
    | nil => simp at found
    | cons first rest =>
        obtain ⟨node, member, below⟩ := (find?_cons_eq_some_iff _ oldNames _ _ _).mp found
        exact (find?_cons_eq_some_iff _ allNames _ _ _).mpr
          ⟨node, List.mem_append_left _ member, below⟩
  · intro names bytes found
    cases names with
    | nil => simp at found
    | cons first rest =>
        obtain ⟨node, member, below⟩ := (find?_cons_eq_some_iff _ allNames _ _ _).mp found
        rcases List.mem_append.mp member with old | new
        · exact .inl ((find?_cons_eq_some_iff _ oldNames _ _ _).mpr ⟨node, old, below⟩)
        · cases List.mem_singleton.mp new
          refine .inr (.inl ⟨name, ?_, inIgnored⟩)
          cases rest with
          | nil => simp at below
          | cons next rest => exact List.mem_cons_self

end FileNode

theorem RuleSource.load_eq_of_firstOfId_iff (source : RuleSource) (set : RuleSet)
    (built : set.Built) (root : FileNode) (rules : set.FirstRulesOf root source.ignored)
    (files : FileTree) (other : FileNode) (found : files.node source.directory = .ok other)
    (isDirectory : other.isDirectory = true) (distinct : other.DistinctNames)
    (same : ∀ names rule, root.FirstOfId source.ignored names rule ↔
      other.FirstOfId source.ignored names rule) : (source.load files).value = .ok set := by
  cases other with
  | file bytes => cases isDirectory
  | directory entries =>
      obtain ⟨otherSet, loaded, otherBuilt, otherRules⟩ :=
        source.load_of_directory files entries found distinct
      rw [loaded, RuleSet.eq_of_firstRulesOf set otherSet built otherBuilt root _ source.ignored rules
        otherRules same]

/-- A directory is loaded to the first sound rules of their identifiers.  Neither the order in which
directories are listed nor files that are skipped have influence on the set, and nothing but a
missing directory keeps it from being loaded. -/
theorem load_keeps_first_rules (source : RuleSource) (files : FileTree)
    (distinct : ∀ root, files.node source.directory = .ok root → root.DistinctNames) :
    match (source.load files).value with
    | .error _ => files.isDirectory source.directory = false
    | .ok set => ∃ root, files.node source.directory = .ok root ∧ root.isDirectory = true ∧
        set.FirstRulesOf root source.ignored ∧
        (∀ otherFiles other, otherFiles.node source.directory = .ok other → root.Relisted other →
          (source.load otherFiles).value = .ok set) ∧
        ∀ otherFiles grown, otherFiles.node source.directory = .ok grown →
          grown.ExtendsBySkipped root source.ignored →
          (source.load otherFiles).value = .ok set := by
  cases found : files.node source.directory with
  | error fault => simp [RuleSource.load, FileTree.isDirectory, found]
  | ok root =>
      cases root with
      | file bytes =>
          simp [RuleSource.load, FileTree.isDirectory, FileNode.isDirectory, found]
      | directory entries =>
          obtain ⟨set, loaded, built, rules⟩ :=
            source.load_of_directory files entries found (distinct _ found)
          rw [loaded]
          refine ⟨_, rfl, rfl, rules, ?_, ?_⟩
          · intro otherFiles other otherFound relisted
            obtain ⟨-, isDirectory, otherDistinct, same⟩ :=
              FileNode.sameFiles_of_relisted _ other relisted (distinct _ found)
            exact source.load_eq_of_firstOfId_iff set built _ rules otherFiles other otherFound
              isDirectory otherDistinct fun names rule =>
                FileNode.firstOfId_iff_of_sameFiles _ other same source.ignored names rule
          · intro otherFiles grown grownFound extended
            exact source.load_eq_of_firstOfId_iff set built _ rules otherFiles grown grownFound
              extended.directory extended.distinct fun names rule =>
                FileNode.firstOfId_iff_of_extendsBySkipped _ grown source.ignored extended names rule

def gradedRuleFile (id severity : String) : FileNode :=
  .file (bytesOf ("\x7bid: " ++ id ++ ", info: \x7bseverity: " ++ severity ++ "\x7d\x7d"))

/-- A rule in a subdirectory, another of its identifier behind it, and a file that is no text. -/
def ruleEntries : List (String × FileNode) :=
  [("a", .directory [("z.yaml", gradedRuleFile "one" "low")]),
    ("b.yaml", gradedRuleFile "one" "high"),
    ("bad.yaml", .file [0xFF])]

/-- The same with a rule in a subdirectory that is ignored. -/
def moreRuleEntries : List (String × FileNode) :=
  ruleEntries ++ [("old", .directory [("x.yaml", gradedRuleFile "two" "high")])]

def ruleFiles (entries : List (String × FileNode)) : FileTree where
  root := .directory [("rules", .directory entries)]

def ruleFilesSource : RuleSource := ⟨"/rules", ["old"]⟩

theorem distinctNames_moreRuleEntries : (FileNode.directory moreRuleEntries).DistinctNames := by
  simp [moreRuleEntries, ruleEntries, gradedRuleFile, FileNode.distinctNames_directory_iff,
    FileNode.distinctNames_file]

theorem rules_of_ruleEntries :
    (({} : Loaded).visitAll (visitsBelow ["old"] "/rules" ruleEntries)).value.rules.rules.map
      (fun rule => rule.info.severity) = [.low] := by
  have visits : (visitsBelow ["old"] "/rules" ruleEntries).filterMap Visit.ruleBytes? =
      [bytesOf "\x7bid: one, info: \x7bseverity: low\x7d\x7d",
        bytesOf "\x7bid: one, info: \x7bseverity: high\x7d\x7d", [0xFF]] := by
    rw [visitsBelow_eq, sortedByName, List.mergeSort_of_pairwise (by simp [ruleEntries])]
    decide +kernel
  rw [Loaded.visitAll_rules, visits]
  decide +kernel

theorem load_keeps_first_rules_nested :
    (∀ root, (ruleFiles ruleEntries).node ruleFilesSource.directory = .ok root →
      root.DistinctNames) ∧
    ∃ set, (ruleFilesSource.load (ruleFiles ruleEntries)).value = .ok set ∧
      set.rules.map (fun rule => rule.info.severity) = [.low] ∧
      (ruleFilesSource.load (ruleFiles ruleEntries.reverse)).value = .ok set ∧
      (ruleFilesSource.load (ruleFiles moreRuleEntries)).value = .ok set := by
  have node (entries : List (String × FileNode)) :
      (ruleFiles entries).node ruleFilesSource.directory = .ok (.directory entries) := rfl
  have distinct : ∀ root, (ruleFiles ruleEntries).node ruleFilesSource.directory = .ok root →
      root.DistinctNames := by
    intro root found
    cases (node ruleEntries).symm.trans found
    obtain ⟨names, within⟩ :=
      (FileNode.distinctNames_directory_iff _).mp distinctNames_moreRuleEntries
    exact (FileNode.distinctNames_directory_iff _).mpr
      ⟨by decide, fun entry member => within entry (List.mem_append_left _ member)⟩
  have loads := load_keeps_first_rules ruleFilesSource (ruleFiles ruleEntries) distinct
  have loaded : (ruleFilesSource.load (ruleFiles ruleEntries)).value =
      .ok (({} : Loaded).visitAll (visitsBelow ["old"] "/rules" ruleEntries)).value.rules := rfl
  rw [loaded] at loads
  obtain ⟨root, found, -, -, relisted, extended⟩ := loads
  cases (node ruleEntries).symm.trans found
  refine ⟨distinct, _, loaded, rules_of_ruleEntries, ?_, ?_⟩
  · exact relisted _ _ (node ruleEntries.reverse) (.here (List.reverse_perm ruleEntries).symm)
  · exact extended _ _ (node moreRuleEntries) (FileNode.extendsBySkipped_concat ruleEntries _ ["old"]
      "old" (by simp) distinctNames_moreRuleEntries)

end HttpInspection
