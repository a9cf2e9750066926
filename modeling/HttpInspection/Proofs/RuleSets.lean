import HttpInspection.Decision

/-!
# Rule sets that additions lead to

The identifiers of such a set are distinct, and looking up the identifier of one of its rules gives
the rule.  A decision blocks when one of the findings does.
-/

set_option autoImplicit false

namespace HttpInspection

@[simp] theorem Rule.inheritEncodings_id (rule : Rule) : rule.inheritEncodings.id = rule.id := by
  unfold inheritEncodings
  split <;> rfl

@[simp] theorem Rule.inheritEncodings_info (rule : Rule) :
    rule.inheritEncodings.info = rule.info := by
  unfold inheritEncodings
  split <;> rfl

namespace RuleSet

/-! ## Additions -/

/-- The sets that additions lead to from the empty one. -/
inductive Built : RuleSet → Prop where
  | empty : Built {}
  | add {set grown : RuleSet} {rule : Rule} (built : Built set)
      (accepted : set.add rule = .ok grown) : Built grown

theorem add_eq_ok_iff (set grown : RuleSet) (rule : Rule) :
    set.add rule = .ok grown ↔
      rule.validate = .ok () ∧ set.contains rule.id = false ∧
        grown =
          { rules := set.rules ++ [rule.inheritEncodings]
            index := (rule.id, set.rules.length) :: set.index } := by
  unfold add
  cases valid : rule.validate with
  | error fault => simp [bind, Except.bind]
  | ok _ =>
      cases known : set.contains rule.id with
      | true => simp [bind, Except.bind]
      | false => simp [bind, Except.bind, eq_comm]

theorem built_offer (set : RuleSet) (built : set.Built) (rule : Rule) : (set.offer rule).Built := by
  unfold offer
  cases accepted : set.add rule with
  | ok grown => exact .add built accepted
  | error fault => exact built

theorem built_offers (set : RuleSet) (built : set.Built) (rules : List Rule) :
    (rules.foldl offer set).Built := by
  induction rules generalizing set with
  | nil => exact built
  | cons rule rest ih => exact ih _ (built_offer set built rule)

/-- The index has the places of the rules, each under the identifier of its rule, and nothing
else. -/
def Indexed (set : RuleSet) : Prop :=
  ∀ id place, set.index.lookup id = some place ↔ set.rules[place]?.map Rule.id = some id

theorem lookup_cons_eq_some_iff (index : List (String × Nat)) (key id : String) (n place : Nat) :
    ((key, n) :: index).lookup id = some place ↔
      (id = key ∧ n = place) ∨ (id ≠ key ∧ index.lookup id = some place) := by
  by_cases same : id = key
  · simp [same]
  · rw [List.lookup_cons, beq_eq_false_iff_ne.mpr same]
    simp [same]

theorem getElem?_concat_eq_some_iff (rules : List Rule) (last : Rule) (id : String) (place : Nat) :
    (rules ++ [last])[place]?.map Rule.id = some id ↔
      (id = last.id ∧ rules.length = place) ∨ rules[place]?.map Rule.id = some id := by
  rcases Nat.lt_trichotomy place rules.length with before | rfl | beyond
  · rw [List.getElem?_append_left before]
    simp [Nat.ne_of_gt before]
  · simp [eq_comm]
  · rw [List.getElem?_eq_none (Nat.le_of_lt beyond), List.getElem?_eq_none (by simp; omega)]
    simp [Nat.ne_of_lt beyond]

theorem indexed_add (set grown : RuleSet) (rule : Rule) (indexed : set.Indexed)
    (accepted : set.add rule = .ok grown) : grown.Indexed := by
  obtain ⟨-, unknown, rfl⟩ := (add_eq_ok_iff set grown rule).mp accepted
  have fresh : set.index.lookup rule.id = none := by simpa [contains] using unknown
  intro id place
  rw [lookup_cons_eq_some_iff, getElem?_concat_eq_some_iff, Rule.inheritEncodings_id, indexed]
  -- Only an identifier that the index has not known could stand under two places.
  by_cases same : id = rule.id
  · have absent := indexed rule.id place
    rw [fresh] at absent
    simp [same, ← absent]
  · simp [same]

theorem indexed_of_built (set : RuleSet) (built : set.Built) : set.Indexed := by
  induction built with
  | empty =>
      intro id place
      simp
  | @add set grown rule built accepted ih => exact indexed_add set grown rule ih accepted

theorem index_of_built (set : RuleSet) (built : set.Built) :
    set.index = (set.rules.zipIdx.map fun (rule, place) => (rule.id, place)).reverse := by
  induction built with
  | empty => rfl
  | @add set grown rule built accepted ih =>
      obtain ⟨-, -, rfl⟩ := (add_eq_ok_iff set grown rule).mp accepted
      simp [ih, List.zipIdx_append]

theorem eq_of_rules_eq (one other : RuleSet) (oneBuilt : one.Built) (otherBuilt : other.Built)
    (same : one.rules = other.rules) : one = other := by
  have index := one.index_of_built oneBuilt
  rw [same, ← other.index_of_built otherBuilt] at index
  cases one
  cases other
  simp_all

section Indexed
variable (set : RuleSet) (built : set.Built)
include built

theorem nodup_ids_of_built : (set.rules.map Rule.id).Nodup := by
  have indexed := set.indexed_of_built built
  refine List.pairwise_iff_getElem.mpr ?_
  intro place other inside within before same
  have placed (i : Nat) (bound : i < (set.rules.map Rule.id).length) :
      set.index.lookup (set.rules.map Rule.id)[i] = some i := by
    rw [indexed, ← List.getElem?_map, List.getElem?_eq_getElem bound]
  have first := placed place inside
  rw [same, placed other within] at first
  exact Nat.ne_of_gt before (Option.some.inj first)

/-! ## Looking up -/

theorem get_eq_some_iff (id : String) (rule : Rule) :
    set.get? id = some rule ↔ rule ∈ set.rules ∧ rule.id = id := by
  have indexed := set.indexed_of_built built
  rw [get?, Option.bind_eq_some_iff]
  constructor
  · rintro ⟨place, placed, found⟩
    have same := (indexed id place).mp placed
    rw [found, Option.map_some, Option.some.injEq] at same
    exact ⟨List.mem_of_getElem? found, same⟩
  · rintro ⟨member, rfl⟩
    obtain ⟨place, found⟩ := List.mem_iff_getElem?.mp member
    exact ⟨place, (indexed rule.id place).mpr (by rw [found, Option.map_some]), found⟩

theorem get_of_mem (rule : Rule) (member : rule ∈ set.rules) : set.get? rule.id = some rule :=
  (set.get_eq_some_iff built rule.id rule).mpr ⟨member, rfl⟩

/-- Whatever the index has is the place of a rule. -/
theorem contains_eq_isSome_get (id : String) : set.contains id = (set.get? id).isSome := by
  have indexed := set.indexed_of_built built
  rw [contains, get?]
  cases placed : set.index.lookup id with
  | none => rfl
  | some place =>
      obtain ⟨rule, found, -⟩ := Option.map_eq_some_iff.mp ((indexed id place).mp placed)
      rw [Option.bind_some, found]
      rfl

theorem contains_eq_true_iff (id : String) :
    set.contains id = true ↔ ∃ rule ∈ set.rules, rule.id = id := by
  rw [set.contains_eq_isSome_get built, Option.isSome_iff_exists]
  exact exists_congr fun rule => set.get_eq_some_iff built id rule

end Indexed

theorem action_of_mem (set : RuleSet) (built : set.Built) (rule : Rule)
    (member : rule ∈ set.rules) : set.action? rule.id = rule.info.action := by
  rw [action?, get_of_mem set built rule member, Option.bind_some]

/-! ## Decisions -/

theorem decide_blocked_iff (set : RuleSet) (findings : List Finding) :
    (set.decide findings).blocked = true ↔ ∃ finding ∈ findings, set.blocks finding = true := by
  simp [decide, Decision.blocked]

/-- A finding of a rule of the set blocks unless the rule allows. -/
theorem blocks_of_mem (set : RuleSet) (built : set.Built) (rule : Rule) (member : rule ∈ set.rules)
    (finding : Finding) (ofRule : finding.ruleId = rule.id) :
    set.blocks finding = true ↔ rule.info.action ≠ some .allow := by
  rw [blocks, ofRule, action_of_mem set built rule member, bne_iff_ne]

end RuleSet

end HttpInspection
