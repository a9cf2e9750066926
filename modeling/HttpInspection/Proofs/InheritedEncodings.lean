import HttpInspection.Proofs.RuleBlocks

/-!
# Encodings that a rule gives to its searches

A rule gives its encodings to all of its searches, wherever they stand, that declare none.  Nothing
else of the rule changes, and a rule that was accepted has them.
-/

set_option autoImplicit false

namespace HttpInspection

/-! ## What it means to take encodings over -/

/-- A search takes encodings over where it declares none, not even an empty list of them. -/
structure SearchMode.TakesOver (encodings : Option (List Encoding)) (before after : SearchMode) :
    Prop where
  literal : after.literal = before.literal
  pattern : after.pattern = before.pattern
  declared : ∀ own, before.encodings = some own → after.encodings = some own
  undeclared : before.encodings = none → after.encodings = encodings

structure HeaderMatcher.TakesOver (encodings : Option (List Encoding))
    (before after : HeaderMatcher) : Prop where
  name : after.name = before.name
  mode : before.mode.TakesOver encodings after.mode

structure ParameterMatcher.TakesOver (encodings : Option (List Encoding))
    (before after : ParameterMatcher) : Prop where
  name : after.name = before.name
  mode : before.mode.TakesOver encodings after.mode

structure BodyMatcher.TakesOver (encodings : Option (List Encoding)) (before after : BodyMatcher) :
    Prop where
  mode : before.mode.TakesOver encodings after.mode
  md5sum : after.md5sum = before.md5sum
  sha256sum : after.sha256sum = before.sha256sum

structure RequestMatchers.TakesOver (encodings : Option (List Encoding))
    (before after : RequestMatchers) : Prop where
  method : Option.Rel (SearchMode.TakesOver encodings) before.method after.method
  url : List.Forall₂ (SearchMode.TakesOver encodings) before.url after.url
  headers : List.Forall₂ (HeaderMatcher.TakesOver encodings) before.headers after.headers
  parameters :
    List.Forall₂ (ParameterMatcher.TakesOver encodings) before.parameters after.parameters
  body : List.Forall₂ (BodyMatcher.TakesOver encodings) before.body after.body

structure ResponseMatchers.TakesOver (encodings : Option (List Encoding))
    (before after : ResponseMatchers) : Prop where
  code : Option.Rel (SearchMode.TakesOver encodings) before.code after.code
  headers : List.Forall₂ (HeaderMatcher.TakesOver encodings) before.headers after.headers
  body : List.Forall₂ (BodyMatcher.TakesOver encodings) before.body after.body

/-- Every search of a rule takes encodings over, and the rule is the same in all else. -/
structure Rule.TakesOver (encodings : Option (List Encoding)) (before after : Rule) : Prop where
  id : after.id = before.id
  info : after.info = before.info
  request : Option.Rel (RequestMatchers.TakesOver encodings) before.request after.request
  response : Option.Rel (ResponseMatchers.TakesOver encodings) before.response after.response
  searches : List.Forall₂
    (fun entry later => later.1 = entry.1 ∧ entry.2.TakesOver encodings later.2)
    before.searchModes after.searchModes

/-! ## Changing all searches -/

theorem optionRel_map {α β : Type} {R : α → β → Prop} {f : α → β} (related : ∀ a, R a (f a))
    (given : Option α) : Option.Rel R given (given.map f) := by
  cases given with
  | none => exact .none
  | some a => exact .some (related a)

theorem forall₂_map {α β : Type} {R : α → β → Prop} {f : α → β} (related : ∀ a, R a (f a))
    (items : List α) : List.Forall₂ R items (items.map f) :=
  List.forall₂_map_right_iff.mpr (List.forall₂_same.mpr fun a _ => related a)

section Changed
variable {encodings : Option (List Encoding)} {f : SearchMode → SearchMode}
  (takes : ∀ mode : SearchMode, mode.TakesOver encodings (f mode))
include takes

theorem RequestMatchers.takesOver_mapModes (matchers : RequestMatchers) :
    matchers.TakesOver encodings (matchers.mapModes f) where
  method := optionRel_map takes _
  url := forall₂_map takes _
  headers := forall₂_map (fun header => ⟨rfl, takes header.mode⟩) _
  parameters := forall₂_map (fun parameter => ⟨rfl, takes parameter.mode⟩) _
  body := forall₂_map (fun body => ⟨takes body.mode, rfl, rfl⟩) _

theorem ResponseMatchers.takesOver_mapModes (matchers : ResponseMatchers) :
    matchers.TakesOver encodings (matchers.mapModes f) where
  code := optionRel_map takes _
  headers := forall₂_map (fun header => ⟨rfl, takes header.mode⟩) _
  body := forall₂_map (fun body => ⟨takes body.mode, rfl, rfl⟩) _

theorem Rule.takesOver_mapModes (rule : Rule) : rule.TakesOver encodings (rule.mapModes f) where
  id := rfl
  info := rfl
  request := optionRel_map (RequestMatchers.takesOver_mapModes takes) _
  response := optionRel_map (ResponseMatchers.takesOver_mapModes takes) _
  searches := by
    rw [rule.searchModes_mapModes]
    exact forall₂_map (fun entry => ⟨rfl, takes entry.2⟩) _

end Changed

theorem SearchMode.takesOver_or (mode : SearchMode) (encodings : Option (List Encoding)) :
    mode.TakesOver encodings { mode with encodings := mode.encodings.or encodings } where
  literal := rfl
  pattern := rfl
  declared := by
    intro own declares
    simp [declares]
  undeclared := by
    intro declaresNone
    simp [declaresNone]

namespace Rule

theorem takesOver_inheritEncodings (rule : Rule) :
    rule.TakesOver rule.info.encodings rule.inheritEncodings := by
  rw [inheritEncodings_eq]
  exact takesOver_mapModes (fun mode => mode.takesOver_or rule.info.encodings) rule

theorem effectiveEncodings_inheritEncodings (rule : Rule) :
    rule.inheritEncodings.searchModes.map (fun (path, mode) => (path, mode.effectiveEncodings)) =
      rule.searchModes.map fun (path, mode) =>
        (path, (mode.encodings.or rule.info.encodings).getD []) := by
  rw [inheritEncodings_eq, searchModes_mapModes, List.map_map]
  rfl

end Rule

/-! ## Rules that are stored -/

namespace RuleSet

theorem get_of_add (set grown : RuleSet) (rule : Rule) (accepted : set.add rule = .ok grown) :
    grown.rules = set.rules ++ [rule.inheritEncodings] ∧
      grown.get? rule.id = some rule.inheritEncodings := by
  obtain ⟨-, -, rfl⟩ := (add_eq_ok_iff set grown rule).mp accepted
  simp [get?]

end RuleSet

/-- The encodings of a rule reach all of its searches that declare none, and change nothing else;
to give them twice is to give them once.  In a set that has accepted the rule, every search has its
own encodings, else those of the rule, else none. -/
theorem encodings_reach_every_search (rule : Rule) :
    rule.TakesOver rule.info.encodings rule.inheritEncodings ∧
      rule.inheritEncodings.inheritEncodings = rule.inheritEncodings ∧
      ∀ set grown : RuleSet, set.add rule = .ok grown →
        ∃ stored, grown.rules = set.rules ++ [stored] ∧ grown.get? rule.id = some stored ∧
          rule.TakesOver rule.info.encodings stored ∧
          stored.searchModes.map (fun (path, mode) => (path, mode.effectiveEncodings)) =
            rule.searchModes.map fun (path, mode) =>
              (path, (mode.encodings.or rule.info.encodings).getD []) := by
  have takes := rule.takesOver_inheritEncodings
  refine ⟨takes, rule.inheritEncodings_inheritEncodings, ?_⟩
  intro set grown accepted
  obtain ⟨rules, found⟩ := set.get_of_add grown rule accepted
  exact ⟨_, rules, found, takes, rule.effectiveEncodings_inheritEncodings⟩

/-- A rule with a search at every place that can hold one, some of them with encodings of their
own. -/
def searchingRule : Rule where
  id := "every"
  info := { severity := .low, encodings := some [.url] }
  request := some
    { method := some { literal := "get" }
      url := [{ literal := "a", encodings := some [] }, { literal := "b" }]
      headers := [{ name := "tag", mode := { literal := "c" } }]
      parameters :=
        [{ name := "any", mode := { literal := "d", encodings := some [.base64, .url] } }]
      body := [{ mode := { literal := "e" }, md5sum := some "0cc1" }] }
  response := some
    { code := some { literal := "200" }
      headers := [{ name := "server", mode := { pattern := "f+", encodings := some [.base64] } }]
      body := [{ sha256sum := some "ca97" }] }

theorem encodings_reach_every_search_eight :
    ∃ grown, RuleSet.add {} searchingRule = .ok grown ∧
      ∃ stored, grown.get? "every" = some stored ∧
        stored.searchModes.map (fun (path, mode) => (path, mode.effectiveEncodings)) =
          [("request.method", [.url]), ("request.url[0]", []), ("request.url[1]", [.url]),
            ("request.headers[tag]", [.url]), ("request.params[any]", [.base64, .url]),
            ("request.body[0]", [.url]), ("response.code", [.url]),
            ("response.headers[server]", [.base64]), ("response.body[0]", [.url])] := by
  have accepted := (RuleSet.add_eq_ok_iff {} _ searchingRule).mpr
    ⟨by decide +kernel, rfl, rfl⟩
  obtain ⟨-, -, stores⟩ := encodings_reach_every_search searchingRule
  obtain ⟨stored, -, found, -, searches⟩ := stores {} _ accepted
  exact ⟨_, accepted, stored, found, searches.trans (by decide +kernel)⟩

end HttpInspection
