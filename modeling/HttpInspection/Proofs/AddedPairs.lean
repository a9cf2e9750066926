import HttpInspection.Proofs.Blocking
import HttpInspection.Proofs.QuerySegments

/-!
# A pair more in a query

A rule that looks at parameters reports the first match that it has in them.  With one more pair in
the query that match is the one that it was, or it is the first one in the added pair.  The raw text
keeps what stands in front of the added pair and what stands behind it.  A request that such rules
block stays blocked, therefore, unless each of them loses the place of its first match.
-/

set_option autoImplicit false

namespace HttpInspection

open Http

/-! ## Matches in pairs -/

theorem head?_flatMap_more {α β : Type} (items : List α) (front more back : α → List β) :
    (items.flatMap fun item => front item ++ (more item ++ back item)).head? =
        (items.flatMap fun item => front item ++ back item).head? ∨
      ∃ first, (items.flatMap more).head? = some first ∧
        (items.flatMap fun item => front item ++ (more item ++ back item)).head? = some first := by
  -- The first item that gives anything decides; what it gives in front comes before what is added.
  induction items with
  | nil => exact .inl rfl
  | cons item rest ih =>
      cases inFront : front item with
      | cons first others => exact .inl (by simp [inFront])
      | nil =>
          cases inMore : more item with
          | cons first others => exact .inr ⟨first, by simp [inMore], by simp [inFront, inMore]⟩
          | nil =>
              cases inBack : back item with
              | cons first others => exact .inl (by simp [inFront, inMore, inBack])
              | nil => simpa [inFront, inMore, inBack] using ih

def ParameterMatcher.texts (matcher : ParameterMatcher) (pairs : List (String × String)) :
    List String :=
  (pairs.filter fun (name, _) => matcher.appliesTo name).flatMap fun (_, value) =>
    (matcher.mode.search value).value

theorem ParameterMatcher.texts_append (matcher : ParameterMatcher)
    (front back : List (String × String)) :
    matcher.texts (front ++ back) = matcher.texts front ++ matcher.texts back := by
  rw [texts, List.filter_append, List.flatMap_append]
  rfl

theorem matchParameters_value (pairs : List (String × String)) (matchers : List ParameterMatcher) :
    (matchParameters pairs matchers).value = matchers.flatMap fun matcher => matcher.texts pairs := by
  simp only [matchParameters, searchAll, Traced.collect, List.map_map, ← List.flatMap_def,
    List.flatMap_assoc, List.flatMap_map]
  rfl

/-- With one more pair, the first match is the one that it was, or the first one in that pair. -/
theorem matchParameters_more (front back : List (String × String)) (pair : String × String)
    (matchers : List ParameterMatcher) :
    (matchParameters (front ++ pair :: back) matchers).value.head? =
        (matchParameters (front ++ back) matchers).value.head? ∨
      ∃ text, (matchParameters [pair] matchers).value.head? = some text ∧
        (matchParameters (front ++ pair :: back) matchers).value.head? = some text := by
  have cut (matcher : ParameterMatcher) : matcher.texts (front ++ pair :: back) =
      matcher.texts front ++ (matcher.texts [pair] ++ matcher.texts back) := by
    rw [← matcher.texts_append, ← matcher.texts_append, List.singleton_append]
  simp only [matchParameters_value, cut, ParameterMatcher.texts_append _ front back]
  exact head?_flatMap_more matchers _ _ _

theorem RequestMatchers.headMatches_parameters (parameters : List ParameterMatcher)
    (view : RequestView) :
    ({ parameters } : RequestMatchers).headMatches view =
      (matchParameters view.query parameters).value ++
        (matchParameters view.form parameters).value := by
  have noHeaders : (matchHeaders view.headers []).value = [] := by
    simp [matchHeaders, headerMatcher?, searchAll, Traced.collect]
  rw [headMatches, noHeaders]
  rfl

/-! ## Places in parts of a text -/

theorem occursInLine_of_part (part raw text : String) (inside : part.toList <:+: raw.toList)
    (occurs : OccursInLine part text) : OccursInLine raw text := by
  obtain ⟨notEmpty, line, member, inLine⟩ := occurs
  have ordinary : '\n' ∉ line := fun newline => by
    simpa using ordinary_of_mem_splitAtEvery (· == '\n') part.toList line member '\n' newline
  have oneLine : '\n' ∉ text.toList :=
    newline_notMem_of_occurs text (String.ofList line) (by rwa [String.toList_ofList])
      (by rwa [OccursIgnoringAsciiCase, String.toList_ofList])
  have respects : RespectsSeparators (· == '\n') (id : List Char → List Char) :=
    fun front separator back _ => ⟨separator, rfl⟩
  have lineInside : line <:+: raw.toList :=
    (infix_of_mem_splitAtEvery (· == '\n') id respects part.toList line member).trans inside
  exact occursInLine_of_occurs raw text notEmpty oneLine
    (inLine.trans (lineInside.map Lowercase.asciiChar))

/-- A text stands clear of a place between the segments of a query: it has a place in front of it
or behind it, so that nothing that is added there can part it. -/
def Http.Request.StandsClear (request : Request) (place : Nat) (text : String) : Prop :=
  OccursInLine (request.rawBefore place) text ∨ OccursInLine (request.rawBehind place) text

theorem Http.Request.occursInLine_of_standsClear (request : Request) (place : Nat)
    (pair : WrittenPair) (text : String) (clear : request.StandsClear place text) :
    OccursInLine request.rawText text ∧ OccursInLine (request.addPair place pair).rawText text := by
  rcases clear with before | behind
  · have parts := request.rawBefore_prefix_rawText place pair
    exact ⟨occursInLine_of_part _ _ text parts.1.isInfix before,
      occursInLine_of_part _ _ text parts.2.isInfix before⟩
  · have parts := request.rawBehind_suffix_rawText place pair
    exact ⟨occursInLine_of_part _ _ text parts.1.isInfix behind,
      occursInLine_of_part _ _ text parts.2.isInfix behind⟩

/-! ## Rules that look at parameters -/

namespace Rule

/-- In requests a rule looks at nothing but parameters. -/
def OnlyParameters (rule : Rule) : Prop :=
  ∀ matchers, rule.request = some matchers → matchers = { parameters := matchers.parameters }

/-- The first match of a rule in front of the body of a request: the only one that is reported. -/
def firstMatch? (rule : Rule) (request : Request) : Option String :=
  rule.request.bind fun matchers => (matchers.headMatches request.capture.value.1).head?

def firstMatchIn? (rule : Rule) (pair : WrittenPair) : Option String :=
  rule.request.bind fun matchers =>
    (matchParameters [(pair.name, pair.value)] matchers.parameters).value.head?

/-- With one more pair in the query the first match of a rule has no place. -/
inductive LosesPlace (rule : Rule) (request : Request) (place : Nat) (pair : WrittenPair) : Prop where
  /-- It is in the added pair, and does not stand in the raw text as it is found there. -/
  | shadowed (text : String) (first : rule.firstMatch? (request.addPair place pair) = some text)
      (inPair : rule.firstMatchIn? pair = some text)
      (unseen : ¬ OccursInLine (request.addPair place pair).dump.1 text)
  /-- It is the one that it was, and the added pair parts it. -/
  | parted (text : String) (first : rule.firstMatch? (request.addPair place pair) = some text)
      (before : rule.firstMatch? request = some text) (across : ¬ request.StandsClear place text)
      (unseen : ¬ OccursInLine (request.addPair place pair).dump.1 text)

section Parameters
variable (rule : Rule) (only : rule.OnlyParameters)
include only

theorem blocksRequest_iff_of_onlyParameters (request : Request) :
    rule.BlocksRequest request ↔ rule.info.action ≠ some .allow ∧
      ∃ text, rule.firstMatch? request = some text ∧ OccursInLine request.dump.1 text := by
  have nothing : ¬ (matchBody request.capture.value.1.body []).value.Kept request.dump.1 := by
    rintro (⟨text, member, -⟩ | hashes)
    · exact absurd member List.not_mem_nil
    · exact hashes rfl
  unfold BlocksRequest firstMatch?
  cases given : rule.request with
  | none => simp
  | some matchers =>
      rw [only matchers given]
      simp [nothing]

theorem firstMatch_addPair (request : Request) (place : Nat) (pair : WrittenPair) :
    rule.firstMatch? (request.addPair place pair) = rule.firstMatch? request ∨
      ∃ text, rule.firstMatchIn? pair = some text ∧
        rule.firstMatch? (request.addPair place pair) = some text := by
  unfold firstMatch? firstMatchIn?
  cases given : rule.request with
  | none => exact .inl rfl
  | some matchers =>
      have sameForm : (request.addPair place pair).view.form = request.view.form := rfl
      have query : (request.addPair place pair).view.query = _ :=
        request.queryParameters_addPair place pair
      have queryBefore : request.view.query = _ := request.queryParameters_around place
      rw [only matchers given]
      simp only [Option.bind_some, Request.capture_eq, RequestMatchers.headMatches_parameters,
        List.head?_append, sameForm, query, queryBefore]
      rcases matchParameters_more (pairsOf (request.segments.take place))
        (pairsOf (request.segments.drop place)) (pair.name, pair.value) matchers.parameters with
        same | ⟨text, inPair, first⟩
      · exact .inl (by rw [same])
      · exact .inr ⟨text, inPair, by rw [first, Option.some_or]⟩

/-- A rule that blocks a request blocks it with one more pair, or loses its place. -/
theorem blocksRequest_addPair (request : Request) (place : Nat) (pair : WrittenPair)
    (blocks : rule.BlocksRequest request) :
    rule.BlocksRequest (request.addPair place pair) ∨ rule.LosesPlace request place pair := by
  rw [rule.blocksRequest_iff_of_onlyParameters only] at blocks ⊢
  obtain ⟨action, text, before, -⟩ := blocks
  by_cases seen : ∃ text, rule.firstMatch? (request.addPair place pair) = some text ∧
      OccursInLine (request.addPair place pair).dump.1 text
  · exact .inl ⟨action, seen⟩
  · have unseen (text : String)
        (first : rule.firstMatch? (request.addPair place pair) = some text) :
        ¬ OccursInLine (request.addPair place pair).dump.1 text :=
      fun occurs => seen ⟨text, first, occurs⟩
    right
    -- What stands clear of the place is not parted, so a first match that is still the same does not.
    rcases rule.firstMatch_addPair only request place pair with same | ⟨other, inPair, first⟩
    · have first := same.trans before
      refine .parted text first before (fun clear => unseen text first ?_) (unseen text first)
      rw [Request.dump_eq]
      exact (request.occursInLine_of_standsClear place pair text clear).2
    · exact .shadowed other first inPair (unseen other first)

end Parameters

end Rule

/-- One more pair in the query of a request that is blocked leaves it blocked, where rules look at
nothing but parameters, unless each of the rules that block it loses the place of its first match. -/
theorem added_pair_keeps_block (agent : Agent) (around : Surroundings) (request : Request)
    (place : Nat) (pair : WrittenPair) (mode : agent.settings.mode = .waf)
    (built : agent.rules.Built) (leaving : ∀ validator ∈ agent.validators, validator.LeavesMessages)
    (only : ∀ rule ∈ agent.rules.rules, rule.OnlyParameters)
    (blocked : (agent.handle around request).outcome.blocked = true ∧
      (agent.handle around request).forwarded = []) :
    ((agent.handle around (request.addPair place pair)).outcome.blocked = true ∧
        (agent.handle around (request.addPair place pair)).forwarded = []) ∨
      ((∃ rule ∈ agent.rules.rules, rule.BlocksRequest request) ∧
        ∀ rule ∈ agent.rules.rules, rule.BlocksRequest request →
          rule.LosesPlace request place pair) := by
  rw [agent.blocked_first_iff, agent.stops_request_iff _ mode built leaving] at blocked ⊢
  by_cases kept : ∃ rule ∈ agent.rules.rules, rule.BlocksRequest (request.addPair place pair)
  · exact .inl kept
  · refine .inr ⟨blocked, ?_⟩
    intro rule member blocks
    rcases rule.blocksRequest_addPair (only rule member) request place pair blocks with
      still | loses
    · exact absurd ⟨rule, member, still⟩ kept
    · exact loses

def parameterGuard (matchers : List ParameterMatcher) : Agent where
  agentId := "parameters"
  settings := { mode := .waf }
  rules :=
    { rules := [{ id := "parameters"
                  info := { severity := .high, action := some .drop }
                  request := some { parameters := matchers } }] }

theorem parameterGuard_onlyParameters (matchers : List ParameterMatcher) :
    ∀ rule ∈ (parameterGuard matchers).rules.rules, rule.OnlyParameters := by
  intro rule member searched given
  rw [List.mem_singleton.mp member] at given
  cases given
  rfl

def queryRequest (query : String) : Request where
  uri := { path := "/", query := some query }

def harmlessPair : WrittenPair where
  name := "w"
  value := "3"
  segment := ['w', '=', '3']
  notEmpty := by decide
  oneSegment := by decide
  read := eq_ok_of_toOption _ _ (by decide +kernel)

def selectGuard : Agent :=
  parameterGuard [{ name := "any", mode := { literal := "select" } }]

def selectRequest : Request :=
  queryRequest "q=Select&r=1"

theorem added_pair_keeps_block_behind :
    selectGuard.settings.mode = .waf ∧ selectGuard.rules.Built ∧
      (∀ validator ∈ selectGuard.validators, validator.LeavesMessages) ∧
      (∀ rule ∈ selectGuard.rules.rules, rule.OnlyParameters) ∧
      ((selectGuard.handle { forward := fun _ => .ok {} } selectRequest).outcome.blocked = true ∧
        (selectGuard.handle { forward := fun _ => .ok {} } selectRequest).forwarded = []) ∧
      (selectGuard.handle { forward := fun _ => .ok {} }
        (selectRequest.addPair 1 harmlessPair)).outcome.blocked = true := by
  have accepted : RuleSet.add {} selectGuard.rules.rules[0] = .ok selectGuard.rules := rfl
  have built : selectGuard.rules.Built := .add .empty accepted
  have leaving : ∀ validator ∈ selectGuard.validators, validator.LeavesMessages := by
    intro validator member
    exact absurd member List.not_mem_nil
  have only : ∀ rule ∈ selectGuard.rules.rules, rule.OnlyParameters :=
    parameterGuard_onlyParameters _
  have blocked :
      (selectGuard.handle { forward := fun _ => .ok {} } selectRequest).outcome.blocked = true ∧
        (selectGuard.handle { forward := fun _ => .ok {} } selectRequest).forwarded = [] :=
    ⟨by decide +kernel, List.isEmpty_iff.mp (by decide +kernel)⟩
  refine ⟨rfl, built, leaving, only, blocked, ?_⟩
  rcases added_pair_keeps_block selectGuard { forward := fun _ => .ok {} } selectRequest 1
    harmlessPair rfl built leaving only blocked with kept | ⟨⟨rule, member, blocks⟩, lost⟩
  · exact kept.1
  · have loses := lost rule member blocks
    rw [List.mem_singleton.mp member] at loses
    exfalso
    cases loses with
    | shadowed text first inPair unseen =>
        have nothing : selectGuard.rules.rules[0].firstMatchIn? harmlessPair = none := by
          decide +kernel
        exact Option.some_ne_none text (inPair.symm.trans nothing)
    | parted text first before across unseen =>
        have found : selectGuard.rules.rules[0].firstMatch? selectRequest = some "select" := by
          decide +kernel
        cases before.symm.trans found
        refine across (.inl ((locate_isSome_iff _ _).mp ?_))
        decide +kernel

/-- The value is that of `abc` in Base64. -/
def encodedPair : WrittenPair where
  name := "p"
  value := "YWJj"
  segment := ['p', '=', 'Y', 'W', 'J', 'j']
  notEmpty := by decide
  oneSegment := by decide
  read := eq_ok_of_toOption _ _ (by decide +kernel)

/-- An agent that looks for one text in Base64 before it looks for another. -/
def decodingGuard : Agent :=
  parameterGuard
    [{ name := "any", mode := { literal := "abc", encodings := some [.base64] } },
      { name := "any", mode := { literal := "select" } }]

def ampersandGuard : Agent :=
  parameterGuard [{ name := "any", mode := { literal := "1&y", encodings := some [.base64] } }]

/-- The text `1&y` stands in Base64 in the last parameter, and as it is across the others. -/
def ampersandRequest : Request :=
  queryRequest "x=1&y=2&z=MSZ5"

/-- One pair in front lets a request through because the first match is in it and only decoded, and
one between two others because it parts the first match. -/
theorem added_pair_lets_through :
    (∀ agent ∈ [decodingGuard, ampersandGuard], agent.settings.mode = .waf ∧ agent.rules.Built ∧
        ∀ rule ∈ agent.rules.rules, rule.OnlyParameters) ∧
      ((decodingGuard.handle { forward := fun _ => .ok {} } (queryRequest "q=select")).outcome.blocked =
          true ∧
        (decodingGuard.handle { forward := fun _ => .ok {} } (queryRequest "q=select")).forwarded =
          []) ∧
      (decodingGuard.handle { forward := fun _ => .ok {} }
        ((queryRequest "q=select").addPair 0 encodedPair)).outcome.blocked = false ∧
      ((ampersandGuard.handle { forward := fun _ => .ok {} } ampersandRequest).outcome.blocked =
          true ∧
        (ampersandGuard.handle { forward := fun _ => .ok {} } ampersandRequest).forwarded = []) ∧
      (ampersandGuard.handle { forward := fun _ => .ok {} }
        (ampersandRequest.addPair 1 harmlessPair)).outcome.blocked = false := by
  have decoding : RuleSet.add {} decodingGuard.rules.rules[0] = .ok decodingGuard.rules := rfl
  have ampersand : RuleSet.add {} ampersandGuard.rules.rules[0] = .ok ampersandGuard.rules := rfl
  refine ⟨?_, ⟨?_, List.isEmpty_iff.mp ?_⟩, ?_, ⟨?_, List.isEmpty_iff.mp ?_⟩, ?_⟩
  · intro agent member
    rcases List.mem_cons.mp member with rfl | other
    · exact ⟨rfl, .add .empty decoding, parameterGuard_onlyParameters _⟩
    · rw [List.mem_singleton.mp other]
      exact ⟨rfl, .add .empty ampersand, parameterGuard_onlyParameters _⟩
  all_goals decide +kernel

end HttpInspection
