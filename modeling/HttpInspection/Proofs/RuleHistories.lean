import HttpInspection.Proofs.RuleSets
import Mathlib.Data.List.Forall2
import Mathlib.Data.List.TakeWhile

/-!
# Rules offered one after the other

Whatever rules are offered to the empty set, in whatever order, a rule is rejected exactly when its
identifier is blank, one of its patterns does not compile, or a rule that was accepted before has
its identifier.  The set has the accepted rules in their order, each with the encodings that it
declares for all of its searches where a search declares none, and the index finds each of them.
-/

set_option autoImplicit false

namespace HttpInspection

/-! ## The searches of a rule -/

def RequestMatchers.Holds (matchers : RequestMatchers) (mode : SearchMode) : Prop :=
  matchers.method = some mode ∨ mode ∈ matchers.url ∨
    (∃ header ∈ matchers.headers, header.mode = mode) ∨
    (∃ parameter ∈ matchers.parameters, parameter.mode = mode) ∨
    ∃ body ∈ matchers.body, body.mode = mode

def ResponseMatchers.Holds (matchers : ResponseMatchers) (mode : SearchMode) : Prop :=
  matchers.code = some mode ∨ (∃ header ∈ matchers.headers, header.mode = mode) ∨
    ∃ body ∈ matchers.body, body.mode = mode

def Rule.Holds (rule : Rule) (mode : SearchMode) : Prop :=
  (∃ matchers, rule.request = some matchers ∧ matchers.Holds mode) ∨
    ∃ matchers, rule.response = some matchers ∧ matchers.Holds mode

theorem RequestMatchers.mem_searchModes_iff (matchers : RequestMatchers) (mode : SearchMode) :
    (∃ path, (path, mode) ∈ matchers.searchModes) ↔ matchers.Holds mode := by
  have modes : matchers.searchModes.map Prod.snd =
      matchers.method.toList ++ matchers.url ++ matchers.headers.map HeaderMatcher.mode ++
        matchers.parameters.map ParameterMatcher.mode ++ matchers.body.map BodyMatcher.mode := by
    have urls := List.zipIdx_map_fst 0 matchers.url
    have bodies := congrArg (List.map BodyMatcher.mode) (List.zipIdx_map_fst 0 matchers.body)
    rw [List.map_map] at bodies
    simp only [searchModes, List.map_append, List.map_map, Function.comp_def, List.map_id'] at *
    rw [urls, bodies]
  have inModes : (∃ path, (path, mode) ∈ matchers.searchModes) ↔
      mode ∈ matchers.searchModes.map Prod.snd := by simp
  rw [inModes, modes]
  simp [Holds]

theorem ResponseMatchers.mem_searchModes_iff (matchers : ResponseMatchers) (mode : SearchMode) :
    (∃ path, (path, mode) ∈ matchers.searchModes) ↔ matchers.Holds mode := by
  have modes : matchers.searchModes.map Prod.snd =
      matchers.code.toList ++ matchers.headers.map HeaderMatcher.mode ++
        matchers.body.map BodyMatcher.mode := by
    have bodies := congrArg (List.map BodyMatcher.mode) (List.zipIdx_map_fst 0 matchers.body)
    rw [List.map_map] at bodies
    simp only [searchModes, List.map_append, List.map_map, Function.comp_def, List.map_id'] at *
    rw [bodies]
  have inModes : (∃ path, (path, mode) ∈ matchers.searchModes) ↔
      mode ∈ matchers.searchModes.map Prod.snd := by simp
  rw [inModes, modes]
  simp [Holds]

theorem Rule.mem_searchModes_iff (rule : Rule) (mode : SearchMode) :
    (∃ path, (path, mode) ∈ rule.searchModes) ↔ rule.Holds mode := by
  simp only [searchModes, List.mem_append, exists_or, Holds]
  refine or_congr ?_ ?_
  · cases rule.request with
    | none => simp
    | some matchers => simp [matchers.mem_searchModes_iff]
  · cases rule.response with
    | none => simp
    | some matchers => simp [matchers.mem_searchModes_iff]

/-! ## Changing all searches -/

theorem RequestMatchers.searchModes_mapModes (matchers : RequestMatchers)
    (f : SearchMode → SearchMode) :
    (matchers.mapModes f).searchModes =
      matchers.searchModes.map fun (path, mode) => (path, f mode) := by
  simp only [searchModes, mapModes, List.map_append, List.map_map, List.zipIdx_map,
    Option.toList_map]
  rfl

theorem ResponseMatchers.searchModes_mapModes (matchers : ResponseMatchers)
    (f : SearchMode → SearchMode) :
    (matchers.mapModes f).searchModes =
      matchers.searchModes.map fun (path, mode) => (path, f mode) := by
  simp only [searchModes, mapModes, List.map_append, List.map_map, List.zipIdx_map,
    Option.toList_map]
  rfl

namespace Rule

theorem searchModes_mapModes (rule : Rule) (f : SearchMode → SearchMode) :
    (rule.mapModes f).searchModes = rule.searchModes.map fun (path, mode) => (path, f mode) := by
  obtain ⟨id, info, request, response⟩ := rule
  cases request <;> cases response <;>
    simp [searchModes, mapModes, RequestMatchers.searchModes_mapModes,
      ResponseMatchers.searchModes_mapModes]

theorem mapModes_mapModes (rule : Rule) (f g : SearchMode → SearchMode) :
    (rule.mapModes f).mapModes g = rule.mapModes (g ∘ f) := by
  obtain ⟨id, info, request, response⟩ := rule
  cases request <;> cases response <;>
    simp [mapModes, RequestMatchers.mapModes, ResponseMatchers.mapModes]

theorem mapModes_self (rule : Rule) : rule.mapModes (fun mode => mode) = rule := by
  obtain ⟨id, info, request, response⟩ := rule
  cases request <;> cases response <;>
    simp [mapModes, RequestMatchers.mapModes, ResponseMatchers.mapModes]

theorem inheritEncodings_eq (rule : Rule) :
    rule.inheritEncodings =
      rule.mapModes fun mode => { mode with encodings := mode.encodings.or rule.info.encodings } := by
  unfold inheritEncodings
  cases rule.info.encodings with
  | none => simp [mapModes_self]
  | some encodings =>
      refine congrArg (rule.mapModes ·) (funext fun mode => ?_)
      rw [SearchMode.inherit, Option.or_some]

/-- A rule but for the encodings of its searches. -/
def withoutEncodings (rule : Rule) : Rule :=
  rule.mapModes fun mode => { mode with encodings := none }

/-- A rule is stored as it was given, but each of its searches has the encodings of the rule where it
declares none. -/
structure StoredAs (rule stored : Rule) : Prop where
  alike : stored.withoutEncodings = rule.withoutEncodings
  searches : stored.searchModes = rule.searchModes.map fun (path, mode) =>
    (path, { mode with encodings := mode.encodings.or rule.info.encodings })

theorem storedAs_inheritEncodings (rule : Rule) : rule.StoredAs rule.inheritEncodings := by
  rw [inheritEncodings_eq]
  refine ⟨?_, rule.searchModes_mapModes _⟩
  rw [withoutEncodings, mapModes_mapModes]
  rfl

end Rule

/-! ## Sound rules -/

theorem trimBlanks_eq_nil_iff (text : List Char) :
    trimBlanks text = [] ↔ ∀ c ∈ text, isBlank c = true := by
  rw [trimBlanks, List.reverse_eq_nil_iff, List.dropWhile_eq_nil_iff]
  simp only [List.mem_reverse]
  constructor
  · intro back c member
    rw [← List.takeWhile_append_dropWhile (p := isBlank) (l := text)] at member
    rcases List.mem_append.mp member with front | behind
    · exact List.mem_takeWhile_imp front
    · exact back c behind
  · intro all c member
    exact all c ((List.dropWhile_suffix isBlank).subset member)

theorem isBlankText_iff (s : String) : isBlankText s = true ↔ trim s = "" := by
  rw [isBlankText, List.all_eq_true, ← trimBlanks_eq_nil_iff, trim, ← String.toList_inj,
    String.toList_ofList]
  rfl

theorem SearchMode.compiles_eq_false_iff (mode : SearchMode) :
    mode.compiles = false ↔ mode.pattern ≠ "" ∧ Regex.compile? mode.pattern = none := by
  unfold compiles compiled
  by_cases empty : mode.pattern = ""
  · simp [empty, Except.isOk, Except.toBool]
  · cases Regex.compile? mode.pattern <;> simp [empty, Except.isOk, Except.toBool]

namespace Rule

/-- A rule that is not acceptable by itself: its identifier is blank, or a pattern does not
compile. -/
def IsFaulty (rule : Rule) : Prop :=
  trim rule.id = "" ∨
    ∃ mode, rule.Holds mode ∧ mode.pattern ≠ "" ∧ Regex.compile? mode.pattern = none

theorem validate_eq_error_iff (rule : Rule) :
    (∃ fault, rule.validate = .error fault) ↔ rule.IsFaulty := by
  unfold validate IsFaulty
  by_cases blank : isBlankText rule.id = true
  · simp [blank, (isBlankText_iff rule.id).mp blank]
  · rw [if_neg blank]
    have named : trim rule.id ≠ "" := mt (isBlankText_iff rule.id).mpr blank
    cases found : rule.searchModes.find? fun entry => !entry.2.compiles with
    | none =>
        have sound := List.find?_eq_none.mp found
        simp only [reduceCtorEq, exists_false, named, false_or, false_iff]
        rintro ⟨mode, holds, bad⟩
        obtain ⟨path, member⟩ := (rule.mem_searchModes_iff mode).mpr holds
        have broken := mode.compiles_eq_false_iff.mpr bad
        exact sound _ member (by simp [broken])
    | some entry =>
        obtain ⟨path, mode⟩ := entry
        have broken : mode.compiles = false := by simpa using List.find?_some found
        have holds := (rule.mem_searchModes_iff mode).mp ⟨path, List.mem_of_find?_eq_some found⟩
        simp only [Except.error.injEq, exists_eq', true_iff]
        exact .inr ⟨mode, holds, mode.compiles_eq_false_iff.mp broken⟩

end Rule

/-! ## Histories -/

namespace RuleSet

/-- The rules that are accepted of those that are offered one after the other. -/
def accepted (set : RuleSet) : List Rule → List Rule
  | [] => []
  | rule :: rest =>
    match set.add rule with
    | .ok grown => rule :: grown.accepted rest
    | .error _ => set.accepted rest

theorem add_eq_error_iff (set : RuleSet) (rule : Rule) :
    (∃ fault, set.add rule = .error fault) ↔ rule.IsFaulty ∨ set.contains rule.id = true := by
  rw [← rule.validate_eq_error_iff]
  unfold add
  cases rule.validate with
  | error fault => simp [bind, Except.bind]
  | ok _ => cases set.contains rule.id <;> simp [bind, Except.bind]

theorem accepted_concat (set : RuleSet) (offered : List Rule) (rule : Rule) :
    set.accepted (offered ++ [rule]) =
      set.accepted offered ++ (offered.foldl offer set).accepted [rule] := by
  induction offered generalizing set with
  | nil => rfl
  | cons first rest ih =>
      rw [List.cons_append, accepted, accepted, List.foldl_cons, offer]
      cases set.add first with
      | ok grown => simp [ih]
      | error fault => simp [ih]

/-- What was accepted is what the set has grown by. -/
theorem foldl_offer_rules (set : RuleSet) (offered : List Rule) :
    (offered.foldl offer set).rules =
      set.rules ++ (set.accepted offered).map Rule.inheritEncodings := by
  induction offered generalizing set with
  | nil => simp [accepted]
  | cons rule rest ih =>
      rw [List.foldl_cons, ih, accepted, offer]
      cases added : set.add rule with
      | error fault => rfl
      | ok grown =>
          obtain ⟨-, -, rfl⟩ := (add_eq_ok_iff set grown rule).mp added
          simp

theorem contains_add_iff (set grown : RuleSet) (rule : Rule) (taken : set.add rule = .ok grown)
    (id : String) : grown.contains id = true ↔ rule.id = id ∨ set.contains id = true := by
  obtain ⟨-, -, rfl⟩ := (add_eq_ok_iff set grown rule).mp taken
  by_cases same : rule.id = id
  · simp [contains, same]
  · rw [contains, List.lookup_cons, beq_eq_false_iff_ne.mpr (Ne.symm same)]
    simp [contains, same]

section Places
variable {Place : Type} (earlier : Place → Place → Prop)

/-- A rule is the first of its identifier that a set can accept, of those offered at some places. -/
def FirstOffered (set : RuleSet) (offered : List (Place × Rule)) (place : Place) (rule : Rule) :
    Prop :=
  (place, rule) ∈ offered ∧ ¬ rule.IsFaulty ∧ set.contains rule.id = false ∧
    ∀ before other, (before, other) ∈ offered → ¬ other.IsFaulty → other.id = rule.id →
      ¬ earlier before place

theorem firstOffered_cons_of_rejected (set : RuleSet) (rest : List (Place × Rule))
    (firstPlace : Place) (first : Rule) (rejected : first.IsFaulty ∨ set.contains first.id = true)
    (place : Place) (rule : Rule) :
    FirstOffered earlier set ((firstPlace, first) :: rest) place rule ↔
      FirstOffered earlier set rest place rule := by
  constructor
  · rintro ⟨offered, sound, fresh, none⟩
    rcases List.mem_cons.mp offered with here | inRest
    · cases here
      rcases rejected with faulty | known
      · exact absurd faulty sound
      · exact absurd (fresh.symm.trans known) Bool.false_ne_true
    · exact ⟨inRest, sound, fresh, fun before other later =>
        none before other (List.mem_cons_of_mem _ later)⟩
  · rintro ⟨inRest, sound, fresh, none⟩
    refine ⟨List.mem_cons_of_mem _ inRest, sound, fresh, ?_⟩
    intro before other offered otherSound sameId
    rcases List.mem_cons.mp offered with here | later
    · cases here
      rcases rejected with faulty | known
      · exact absurd faulty otherSound
      · rw [sameId, fresh] at known
        exact absurd known Bool.false_ne_true
    · exact none before other later otherSound sameId

theorem firstOffered_cons_of_accepted
    (asymmetric : ∀ one other, earlier one other → ¬ earlier other one) (set grown : RuleSet)
    (rest : List (Place × Rule)) (firstPlace : Place) (first : Rule)
    (taken : set.add first = .ok grown) (least : ∀ entry ∈ rest, earlier firstPlace entry.1)
    (place : Place) (rule : Rule) :
    FirstOffered earlier set ((firstPlace, first) :: rest) place rule ↔
      (place, rule) = (firstPlace, first) ∨ FirstOffered earlier grown rest place rule := by
  obtain ⟨sound, unknown⟩ := not_or.mp (mt (set.add_eq_error_iff first).mpr (by simp [taken]))
  have known := set.contains_add_iff grown first taken rule.id
  constructor
  · rintro ⟨offered, ruleSound, fresh, none⟩
    rcases List.mem_cons.mp offered with here | inRest
    · exact .inl here
    · have different : first.id ≠ rule.id := fun sameId =>
        none firstPlace first List.mem_cons_self sound sameId (least _ inRest)
      have notGrown : grown.contains rule.id = false := by
        rw [← Bool.not_eq_true, known, fresh]
        simp [different]
      exact .inr ⟨inRest, ruleSound, notGrown, fun before other later =>
        none before other (List.mem_cons_of_mem _ later)⟩
  · rintro (here | ⟨inRest, ruleSound, notGrown, none⟩)
    · cases here
      refine ⟨List.mem_cons_self, sound, by simpa using unknown, ?_⟩
      intro before other offered _ _ precedes
      rcases List.mem_cons.mp offered with here | later
      · cases here
        exact asymmetric _ _ precedes precedes
      · exact asymmetric _ _ precedes (least _ later)
    · rw [← Bool.not_eq_true, known, not_or, Bool.not_eq_true] at notGrown
      refine ⟨List.mem_cons_of_mem _ inRest, ruleSound, notGrown.2, ?_⟩
      intro before other offered otherSound sameId
      rcases List.mem_cons.mp offered with here | later
      · cases here
        exact absurd sameId notGrown.1
      · exact none before other later otherSound sameId

/-- Of rules that are offered in the order of their places, exactly the first sound ones of each
identifier are accepted. -/
theorem exists_accepted_places
    (asymmetric : ∀ one other, earlier one other → ¬ earlier other one) (set : RuleSet)
    (offered : List (Place × Rule))
    (ordered : offered.Pairwise fun one other => earlier one.1 other.1) :
    ∃ kept : List (Place × Rule),
      set.accepted (offered.map Prod.snd) = kept.map Prod.snd ∧ kept.Sublist offered ∧
        ∀ place rule, (place, rule) ∈ kept ↔ FirstOffered earlier set offered place rule := by
  induction offered generalizing set with
  | nil => exact ⟨[], rfl, List.nil_sublist _, by simp [FirstOffered]⟩
  | cons first rest ih =>
      obtain ⟨firstPlace, firstRule⟩ := first
      obtain ⟨least, restOrdered⟩ := List.pairwise_cons.mp ordered
      rw [List.map_cons, accepted]
      cases added : set.add firstRule with
      | error fault =>
          obtain ⟨kept, same, part, member⟩ := ih set restOrdered
          have rejected := (set.add_eq_error_iff firstRule).mp ⟨fault, added⟩
          refine ⟨kept, same, part.cons _, ?_⟩
          intro place rule
          rw [member, firstOffered_cons_of_rejected earlier set rest firstPlace firstRule rejected]
      | ok grown =>
          obtain ⟨kept, same, part, member⟩ := ih grown restOrdered
          refine ⟨(firstPlace, firstRule) :: kept, congrArg (firstRule :: ·) same,
            part.cons_cons _, ?_⟩
          intro place rule
          rw [List.mem_cons, member, firstOffered_cons_of_accepted earlier asymmetric set grown rest
            firstPlace firstRule added least]

end Places

/-- What a set is once rules have been accepted in order. -/
structure Keeps (set : RuleSet) (accepted : List Rule) : Prop where
  stored : List.Forall₂ Rule.StoredAs accepted set.rules
  distinct : (set.rules.map Rule.id).Nodup
  size : set.size = accepted.length
  get : ∀ id rule, set.get? id = some rule ↔ rule ∈ set.rules ∧ rule.id = id
  contains : ∀ id, set.contains id = (set.get? id).isSome
  action : ∀ id action, set.action? id = some action ↔
    ∃ rule ∈ accepted, rule.id = id ∧ rule.info.action = some action
  rejects : ∀ rule, (∃ fault, set.add rule = .error fault) ↔
    rule.IsFaulty ∨ ∃ earlier ∈ accepted, earlier.id = rule.id

theorem keeps_accepted (offered : List Rule) :
    (offered.foldl offer {}).Keeps (accepted {} offered) := by
  have built := built_offers {} .empty offered
  have rules := foldl_offer_rules {} offered
  rw [List.nil_append] at rules
  have find := get_eq_some_iff _ built
  refine ⟨?_, nodup_ids_of_built _ built, ?_, find, contains_eq_isSome_get _ built, ?_, ?_⟩
  · rw [rules, List.forall₂_map_right_iff]
    exact List.forall₂_same.mpr fun rule _ => rule.storedAs_inheritEncodings
  · rw [size, rules, List.length_map]
  · intro id action
    rw [action?, Option.bind_eq_some_iff]
    simp only [find, rules, List.mem_map]
    constructor
    · rintro ⟨_, ⟨⟨rule, member, rfl⟩, same⟩, declared⟩
      rw [Rule.inheritEncodings_id] at same
      rw [Rule.inheritEncodings_info] at declared
      exact ⟨rule, member, same, declared⟩
    · rintro ⟨rule, member, same, declared⟩
      refine ⟨_, ⟨⟨rule, member, rfl⟩, ?_⟩, ?_⟩
      · rw [Rule.inheritEncodings_id, same]
      · rw [Rule.inheritEncodings_info, declared]
  · intro rule
    rw [add_eq_error_iff, contains_eq_true_iff _ built, rules]
    simp

end RuleSet

/-- A set keeps the rules that are accepted of those that it is offered, whatever they are.  A rule
that is rejected leaves no trace, not even its identifier. -/
theorem offered_rules_kept (offered : List Rule) :
    let set := offered.foldl RuleSet.offer {}
    let accepted := RuleSet.accepted {} offered
    set.Keeps accepted ∧ ∀ rule : Rule,
      let after := (offered ++ [rule]).foldl RuleSet.offer {}
      let acceptedAfter := RuleSet.accepted {} (offered ++ [rule])
      match set.add rule with
      | .error _ => after = set ∧ acceptedAfter = accepted
      | .ok grown => after = grown ∧ acceptedAfter = accepted ++ [rule] := by
  intro set accepted
  refine ⟨RuleSet.keeps_accepted offered, ?_⟩
  intro rule after acceptedAfter
  have afterwards : after = set.offer rule := List.foldl_concat _ _ _ _
  have more : acceptedAfter = accepted ++ set.accepted [rule] :=
    RuleSet.accepted_concat {} offered rule
  rw [RuleSet.offer] at afterwards
  rw [RuleSet.accepted] at more
  cases added : set.add rule with
  | error fault =>
      rw [added] at afterwards more
      exact ⟨afterwards, more.trans (List.append_nil _)⟩
  | ok grown =>
      rw [added] at afterwards more
      exact ⟨afterwards, more⟩

end HttpInspection
