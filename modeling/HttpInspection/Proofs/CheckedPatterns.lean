import HttpInspection.Proofs.BodyMatching
import HttpInspection.Proofs.Loading
import HttpInspection.Proofs.RuleBlocks
import HttpInspection.Proofs.RuleVisits

/-!
# Patterns that were checked

A rule is accepted only if the patterns of all its searches compile.  Whatever message is scanned, the
searches that are made of it are among those that were checked, so that none of them is ever skipped.
-/

set_option autoImplicit false

namespace HttpInspection

open Http

/-! ## The searches that are made of a message -/

/-- A search is made of a value when matchers are applied to a request. -/
inductive RequestMatchers.Searches (matchers : RequestMatchers) (view : RequestView) :
    SearchMode → String → Prop where
  | method {mode : SearchMode} (asked : matchers.method = some mode) :
      Searches matchers view mode view.method
  | url {mode : SearchMode} (asked : mode ∈ matchers.url) : Searches matchers view mode view.target
  | header {name value : String} {values : List String} {matcher : HeaderMatcher}
      (shown : (name, values) ∈ view.headers)
      (asked : headerMatcher? matchers.headers name = some matcher) (within : value ∈ values) :
      Searches matchers view matcher.mode value
  | query {name value : String} {matcher : ParameterMatcher} (shown : (name, value) ∈ view.query)
      (asked : matcher ∈ matchers.parameters) (applies : matcher.appliesTo name = true) :
      Searches matchers view matcher.mode value
  | form {name value : String} {matcher : ParameterMatcher} (shown : (name, value) ∈ view.form)
      (asked : matcher ∈ matchers.parameters) (applies : matcher.appliesTo name = true) :
      Searches matchers view matcher.mode value
  | body {matcher : BodyMatcher} (asked : matcher ∈ matchers.body) :
      Searches matchers view matcher.mode (lossyText view.body)

/-- A search is made of a value when matchers are applied to a response; the status code is not
searched. -/
inductive ResponseMatchers.Searches (matchers : ResponseMatchers) (view : ResponseView) :
    SearchMode → String → Prop where
  | header {name value : String} {values : List String} {matcher : HeaderMatcher}
      (shown : (name, values) ∈ view.headers)
      (asked : headerMatcher? matchers.headers name = some matcher) (within : value ∈ values) :
      Searches matchers view matcher.mode value
  | body {matcher : BodyMatcher} (asked : matcher ∈ matchers.body) :
      Searches matchers view matcher.mode (lossyText view.body)

section Parts
variable (notice : Notice)

theorem mem_notices_searchAll_iff (searches : List (SearchMode × String)) :
    notice ∈ (searchAll searches).notices ↔
      ∃ mode value, (mode, value) ∈ searches ∧ notice ∈ (mode.search value).notices := by
  simp [searchAll, Traced.collect]

theorem mem_notices_matchMethod_iff (method : String) (asked : Option SearchMode) :
    notice ∈ (matchMethod method asked).notices ↔
      ∃ mode, asked = some mode ∧ notice ∈ (mode.search method).notices := by
  simp [matchMethod, mem_notices_searchAll_iff]

theorem mem_notices_matchUrl_iff (target : String) (modes : List SearchMode) :
    notice ∈ (matchUrl target modes).notices ↔
      ∃ mode ∈ modes, notice ∈ (mode.search target).notices := by
  simp [matchUrl, mem_notices_searchAll_iff]

theorem mem_notices_matchHeaders_iff (headers : List (String × List String))
    (matchers : List HeaderMatcher) :
    notice ∈ (matchHeaders headers matchers).notices ↔
      ∃ name values matcher value, (name, values) ∈ headers ∧
        headerMatcher? matchers name = some matcher ∧ value ∈ values ∧
        notice ∈ (matcher.mode.search value).notices := by
  simp only [matchHeaders, mem_notices_searchAll_iff, List.mem_flatMap]
  constructor
  · rintro ⟨mode, value, ⟨⟨name, values⟩, shown, made⟩, told⟩
    cases asked : headerMatcher? matchers name with
    | none => simp [asked] at made
    | some matcher =>
        simp only [asked, List.mem_map, Prod.mk.injEq] at made
        obtain ⟨other, within, rfl, rfl⟩ := made
        exact ⟨name, values, matcher, other, shown, asked, within, told⟩
  · rintro ⟨name, values, matcher, value, shown, asked, within, told⟩
    refine ⟨matcher.mode, value, ⟨(name, values), shown, ?_⟩, told⟩
    simp only [asked]
    exact List.mem_map_of_mem within

theorem mem_notices_matchParameters_iff (parameters : List (String × String))
    (matchers : List ParameterMatcher) :
    notice ∈ (matchParameters parameters matchers).notices ↔
      ∃ matcher ∈ matchers, ∃ name value, (name, value) ∈ parameters ∧
        matcher.appliesTo name = true ∧ notice ∈ (matcher.mode.search value).notices := by
  simp only [matchParameters, mem_notices_searchAll_iff, List.mem_flatMap, List.mem_map,
    List.mem_filter]
  constructor
  · rintro ⟨mode, value, ⟨matcher, asked, ⟨name, other⟩, ⟨shown, applies⟩, made⟩, told⟩
    cases made
    exact ⟨matcher, asked, name, other, shown, applies, told⟩
  · rintro ⟨matcher, asked, name, value, shown, applies, told⟩
    exact ⟨matcher.mode, value, ⟨matcher, asked, (name, value), ⟨shown, applies⟩, rfl⟩, told⟩

theorem mem_notices_matchBody_iff (body : List UInt8) (matchers : List BodyMatcher) :
    notice ∈ (matchBody body matchers).notices ↔
      ∃ matcher ∈ matchers, notice ∈ (matcher.mode.search (lossyText body)).notices := by
  rw [matchBody_notices, List.mem_flatMap]

/-- What is told while a rule is applied to a request is told by the searches that are made. -/
theorem RequestMatchers.mem_notices_findings_iff (matchers : RequestMatchers) (rule : Rule)
    (view : RequestView) :
    notice ∈ (matchers.findings rule view).notices ↔
      ∃ mode value, matchers.Searches view mode value ∧ notice ∈ (mode.search value).notices := by
  have parts : (matchers.findings rule view).notices =
      ((matchMethod view.method matchers.method).notices ++
        ((matchUrl view.target matchers.url).notices ++
          ((matchHeaders view.headers matchers.headers).notices ++
            ((matchParameters view.query matchers.parameters).notices ++
              ((matchParameters view.form matchers.parameters).notices ++ []))))) ++
        ((matchBody view.body matchers.body).notices ++ []) := rfl
  simp only [parts, List.append_nil, List.mem_append, mem_notices_matchMethod_iff,
    mem_notices_matchUrl_iff, mem_notices_matchHeaders_iff, mem_notices_matchParameters_iff,
    mem_notices_matchBody_iff]
  constructor
  · rintro ((⟨mode, asked, told⟩ | ⟨mode, asked, told⟩ |
        ⟨name, values, matcher, value, shown, asked, within, told⟩ |
        ⟨matcher, asked, name, value, shown, applies, told⟩ |
        ⟨matcher, asked, name, value, shown, applies, told⟩) | ⟨matcher, asked, told⟩)
    · exact ⟨_, _, .method asked, told⟩
    · exact ⟨_, _, .url asked, told⟩
    · exact ⟨_, _, .header shown asked within, told⟩
    · exact ⟨_, _, .query shown asked applies, told⟩
    · exact ⟨_, _, .form shown asked applies, told⟩
    · exact ⟨_, _, .body asked, told⟩
  · rintro ⟨mode, value, made, told⟩
    cases made with
    | method asked => exact .inl (.inl ⟨_, asked, told⟩)
    | url asked => exact .inl (.inr (.inl ⟨_, asked, told⟩))
    | header shown asked within =>
        exact .inl (.inr (.inr (.inl ⟨_, _, _, _, shown, asked, within, told⟩)))
    | query shown asked applies =>
        exact .inl (.inr (.inr (.inr (.inl ⟨_, asked, _, _, shown, applies, told⟩))))
    | form shown asked applies =>
        exact .inl (.inr (.inr (.inr (.inr ⟨_, asked, _, _, shown, applies, told⟩))))
    | body asked => exact .inr ⟨_, asked, told⟩

theorem ResponseMatchers.mem_notices_findings_iff (matchers : ResponseMatchers) (rule : Rule)
    (view : ResponseView) :
    notice ∈ (matchers.findings rule view).notices ↔
      ∃ mode value, matchers.Searches view mode value ∧ notice ∈ (mode.search value).notices := by
  have parts : (matchers.findings rule view).notices =
      (matchHeaders view.headers matchers.headers).notices ++
        ((matchBody view.body matchers.body).notices ++ []) := rfl
  simp only [parts, List.append_nil, List.mem_append, mem_notices_matchHeaders_iff,
    mem_notices_matchBody_iff]
  constructor
  · rintro (⟨name, values, matcher, value, shown, asked, within, told⟩ | ⟨matcher, asked, told⟩)
    · exact ⟨_, _, .header shown asked within, told⟩
    · exact ⟨_, _, .body asked, told⟩
  · rintro ⟨mode, value, made, told⟩
    cases made with
    | header shown asked within => exact .inl ⟨_, _, _, _, shown, asked, within, told⟩
    | body asked => exact .inr ⟨_, asked, told⟩

end Parts

/-! ## Every search that is made stands in its rule -/

theorem RequestMatchers.Searches.holds {matchers : RequestMatchers} {view : RequestView}
    {mode : SearchMode} {value : String} (made : matchers.Searches view mode value) :
    matchers.Holds mode := by
  cases made with
  | method asked => exact .inl asked
  | url asked => exact .inr (.inl asked)
  | header _ asked _ => exact .inr (.inr (.inl ⟨_, List.mem_of_find?_eq_some asked, rfl⟩))
  | query _ asked _ => exact .inr (.inr (.inr (.inl ⟨_, asked, rfl⟩)))
  | form _ asked _ => exact .inr (.inr (.inr (.inl ⟨_, asked, rfl⟩)))
  | body asked => exact .inr (.inr (.inr (.inr ⟨_, asked, rfl⟩)))

theorem ResponseMatchers.Searches.holds {matchers : ResponseMatchers} {view : ResponseView}
    {mode : SearchMode} {value : String} (made : matchers.Searches view mode value) :
    matchers.Holds mode := by
  cases made with
  | header _ asked _ => exact .inr (.inl ⟨_, List.mem_of_find?_eq_some asked, rfl⟩)
  | body asked => exact .inr (.inr ⟨_, asked, rfl⟩)

/-! ## Searches of rules that were accepted -/

namespace SearchMode

theorem compiled_congr (one other : SearchMode) (same : one.pattern = other.pattern) :
    one.compiled = other.compiled := by
  rw [compiled, compiled, same]

theorem exists_compiled_of_compiles (mode : SearchMode) (compiles : mode.compiles = true) :
    ∃ regex, mode.compiled = .ok regex := by
  unfold SearchMode.compiles at compiles
  cases given : mode.compiled with
  | ok regex => exact ⟨regex, rfl⟩
  | error failure =>
      rw [given] at compiles
      cases compiles

theorem search_of_compiled (mode : SearchMode) (regex : Option Regex)
    (compiled : mode.compiled = .ok regex) (value : String) :
    mode.search value =
      ⟨(candidates value mode.effectiveEncodings).flatMap (mode.hits regex), []⟩ := by
  rw [search, compiled]

/-- A search was checked with the rule that was offered: a search with its pattern stood at a path of
that rule, and the pattern that was compiled there is the one that is searched with. -/
def CheckedIn (mode : SearchMode) (offered : Rule) : Prop :=
  ∃ path checked regex, (path, checked) ∈ offered.searchModes ∧ checked.pattern = mode.pattern ∧
    checked.compiled = .ok regex ∧
    ∀ value, mode.search value =
      ⟨(candidates value mode.effectiveEncodings).flatMap (mode.hits regex), []⟩

/-- Searches that were checked have nothing to tell. -/
theorem notices_eq_nil_of_checked (offered : Rule) (notices : List Notice)
    (told : ∀ notice ∈ notices, ∃ (mode : SearchMode) (value : String),
      mode.CheckedIn offered ∧ notice ∈ (mode.search value).notices) : notices = [] := by
  refine List.eq_nil_iff_forall_not_mem.mpr ?_
  intro notice member
  obtain ⟨mode, value, ⟨-, -, regex, -, -, -, finds⟩, here⟩ := told notice member
  rw [finds value] at here
  exact List.not_mem_nil here

end SearchMode

namespace Rule

theorem compiles_of_validate (rule : Rule) (valid : rule.validate = .ok ()) (path : String)
    (mode : SearchMode) (member : (path, mode) ∈ rule.searchModes) : mode.compiles = true := by
  have sound : ¬ rule.IsFaulty := mt rule.validate_eq_error_iff.mpr (by simp [valid])
  by_contra broken
  have bad := mode.compiles_eq_false_iff.mp (by simpa using broken)
  exact sound (.inr ⟨mode, (rule.mem_searchModes_iff mode).mp ⟨path, member⟩, bad⟩)

/-- To inherit encodings leaves the patterns as they were checked. -/
theorem checkedIn_of_holds (offered : Rule) (valid : offered.validate = .ok ()) (mode : SearchMode)
    (holds : offered.inheritEncodings.Holds mode) : mode.CheckedIn offered := by
  obtain ⟨path, member⟩ := (offered.inheritEncodings.mem_searchModes_iff mode).mpr holds
  rw [inheritEncodings_eq, searchModes_mapModes, List.mem_map] at member
  obtain ⟨⟨path, checked⟩, stood, same⟩ := member
  cases same
  obtain ⟨regex, compiled⟩ :=
    checked.exists_compiled_of_compiles (offered.compiles_of_validate valid path checked stood)
  refine ⟨path, checked, regex, stood, rfl, compiled, ?_⟩
  have same := SearchMode.compiled_congr
    { checked with encodings := checked.encodings.or offered.info.encodings } checked rfl
  exact SearchMode.search_of_compiled _ regex (same.trans compiled)

/-- A rule is what became of a rule that was offered and accepted.  Every search that it holds was
checked then, and so was every search that it makes of a message. -/
structure SearchesAsChecked (rule offered : Rule) : Prop where
  valid : offered.validate = .ok ()
  stored : rule = offered.inheritEncodings
  held : ∀ mode, rule.Holds mode → mode.CheckedIn offered
  request : ∀ matchers view mode value, rule.request = some matchers →
    matchers.Searches view mode value → mode.CheckedIn offered
  response : ∀ matchers view mode value, rule.response = some matchers →
    matchers.Searches view mode value → mode.CheckedIn offered

theorem searchesAsChecked_of_validate (offered : Rule) (valid : offered.validate = .ok ()) :
    offered.inheritEncodings.SearchesAsChecked offered where
  valid := valid
  stored := rfl
  held := offered.checkedIn_of_holds valid
  request := by
    intro matchers view mode value given made
    exact offered.checkedIn_of_holds valid mode (.inl ⟨matchers, given, made.holds⟩)
  response := by
    intro matchers view mode value given made
    exact offered.checkedIn_of_holds valid mode (.inr ⟨matchers, given, made.holds⟩)

section Checked
variable {rule offered : Rule} (checked : rule.SearchesAsChecked offered)
include checked

theorem SearchesAsChecked.scanRequest_notices (view : RequestView) (result : RuleResult)
    (scanned : rule.scanRequest view = some result) : result.notices = [] := by
  obtain ⟨matchers, given, rfl⟩ := Option.map_eq_some_iff.mp scanned
  refine SearchMode.notices_eq_nil_of_checked offered _ ?_
  intro notice told
  obtain ⟨mode, value, made, here⟩ := (matchers.mem_notices_findings_iff notice rule view).mp told
  exact ⟨mode, value, checked.request matchers view mode value given made, here⟩

theorem SearchesAsChecked.scanResponse_notices (view : ResponseView) (result : RuleResult)
    (scanned : rule.scanResponse view = some result) : result.notices = [] := by
  obtain ⟨matchers, given, rfl⟩ := Option.map_eq_some_iff.mp scanned
  refine SearchMode.notices_eq_nil_of_checked offered _ ?_
  intro notice told
  obtain ⟨mode, value, made, here⟩ := (matchers.mem_notices_findings_iff notice rule view).mp told
  exact ⟨mode, value, checked.response matchers view mode value given made, here⟩

end Checked

end Rule

theorem RuleSet.exists_searchesAsChecked (set : RuleSet) (built : set.Built) (rule : Rule)
    (member : rule ∈ set.rules) : ∃ offered, rule.SearchesAsChecked offered := by
  induction built with
  | empty => simp at member
  | @add set grown added built accepted ih =>
      obtain ⟨valid, -, rfl⟩ := (add_eq_ok_iff set grown added).mp accepted
      rcases List.mem_append.mp member with before | last
      · exact ih before
      · rw [List.mem_singleton.mp last]
        exact ⟨added, added.searchesAsChecked_of_validate valid⟩

/-! ## What a pass tells -/

theorem searchSkipped_notMem_parsePairs (raw : String) (failure : Failure) :
    .searchSkipped failure ∉ (parsePairs raw).notices := by
  simp only [parsePairs, Traced.collect, List.mem_flatMap, List.mem_map]
  rintro ⟨_, ⟨segment, -, rfl⟩, told⟩
  unfold segmentPairs at told
  split at told
  · exact List.not_mem_nil told
  · split at told
    · exact List.not_mem_nil told
    · cases List.mem_singleton.mp told

theorem Http.Request.searchSkipped_notMem_capture (request : Request) (failure : Failure) :
    .searchSkipped failure ∉ request.capture.notices := by
  have parts : request.capture.notices =
      request.formParameters.notices ++
        (request.formParameters.value.2.queryParameters.notices ++ []) := rfl
  rw [parts, List.append_nil, List.mem_append, not_or]
  constructor
  · unfold formParameters
    split
    · rw [readBody_eq]
      exact searchSkipped_notMem_parsePairs _ failure
    · exact List.not_mem_nil
  · unfold queryParameters
    split
    · exact searchSkipped_notMem_parsePairs _ failure
    · exact List.not_mem_nil

namespace Scanner

theorem searchSkipped_notMem_finish (scanner : Scanner) (results : List RuleResult)
    (silent : ∀ result ∈ results, result.notices = []) (failure : Failure) (count : Nat) :
    .searchSkipped failure ∉ (scanner.finish count results).notices := by
  have undelivered (delivery : Delivery) :
      .searchSkipped failure ∉ deliveryNotices delivery := by
    unfold deliveryNotices
    split
    · exact List.not_mem_nil
    · exact fun told => nomatch List.mem_singleton.mp told
  induction results generalizing scanner count with
  | nil => exact List.not_mem_nil
  | cons result rest ih =>
      have here := silent result List.mem_cons_self
      have rest := fun other member => silent other (List.mem_cons_of_mem _ member)
      by_cases raises : result.raisesAlert = true
      · simp only [finish, if_pos raises, here, List.nil_append, List.mem_append, not_or]
        exact ⟨undelivered _, ih _ rest _⟩
      · simp only [finish, if_neg raises, here, List.nil_append]
        exact ih _ rest _

end Scanner

/-! ## Sets that are in use -/

/-- The rules of a set make no search but such as were checked when they were accepted, and no pass
over a message skips a search. -/
structure RuleSet.SkipsNoSearch (set : RuleSet) : Prop where
  checked : ∀ rule ∈ set.rules, ∃ offered, rule.SearchesAsChecked offered
  requests : ∀ (scanner : Scanner) (count : Nat) (request : Request) (failure : Failure),
    .searchSkipped failure ∉ (scanner.passRequest count set request).1.notices
  responses : ∀ (scanner : Scanner) (count : Nat) (response : Response) (failure : Failure),
    .searchSkipped failure ∉ (scanner.passResponse count set response).1.notices

theorem RuleSet.skipsNoSearch_of_built (set : RuleSet) (built : set.Built) :
    set.SkipsNoSearch where
  checked := set.exists_searchesAsChecked built
  requests := by
    intro scanner count request failure told
    rcases List.mem_append.mp told with captured | scanned
    · exact request.searchSkipped_notMem_capture failure captured
    · refine scanner.searchSkipped_notMem_finish _ ?_ failure count scanned
      intro result member
      obtain ⟨rule, inSet, given⟩ := List.mem_filterMap.mp member
      obtain ⟨offered, checked⟩ := set.exists_searchesAsChecked built rule inSet
      exact checked.scanRequest_notices _ result given
  responses := by
    intro scanner count response failure
    refine scanner.searchSkipped_notMem_finish _ ?_ failure count
    intro result member
    obtain ⟨rule, inSet, given⟩ := List.mem_filterMap.mp member
    obtain ⟨offered, checked⟩ := set.exists_searchesAsChecked built rule inSet
    exact checked.scanResponse_notices _ result given

/-- Whatever rules are offered to a set, and whatever is loaded, no search is ever skipped because its
pattern does not compile. -/
theorem loaded_rules_skip_no_search :
    (∀ offered : List Rule, (offered.foldl RuleSet.offer {}).SkipsNoSearch) ∧
      ∀ (source : RuleSource) (files : FileTree) (set : RuleSet),
        (source.load files).value = .ok set → set.SkipsNoSearch := by
  constructor
  · intro offered
    exact RuleSet.skipsNoSearch_of_built _ (RuleSet.built_offers {} .empty offered)
  · intro source files set loaded
    exact set.skipsNoSearch_of_built (source.built_load files set loaded)

def patternRuleBytes (id pattern : String) : List UInt8 :=
  bytesOf ("\x7bid: " ++ id ++ ", info: \x7bseverity: low\x7d, request: \x7burl: [\x7bregex: " ++
    pattern ++ "\x7d]\x7d\x7d")

/-- A rule with a pattern that does not compile, and behind it one with a pattern that does. -/
def patternFiles : List (String × FileNode) :=
  [("a.yaml", .file (patternRuleBytes "a" "(")), ("b.yaml", .file (patternRuleBytes "b" "x+y"))]

def patternTree : FileTree where
  root := .directory [("rules", .directory patternFiles)]

theorem loaded_rules_skip_no_search_broken :
    ∃ set, ((⟨"/rules", []⟩ : RuleSource).load patternTree).value = .ok set ∧
      set.rules.map Rule.searchModes = [[("request.url[0]", { pattern := "x+y" })]] ∧
      set.SkipsNoSearch := by
  have visits : visitsBelow [] "/rules" patternFiles =
      [.ruleFile "/rules/a.yaml" (patternRuleBytes "a" "("),
        .ruleFile "/rules/b.yaml" (patternRuleBytes "b" "x+y")] := by
    rw [visitsBelow_eq, sortedByName, List.mergeSort_of_pairwise (by simp [patternFiles])]
    rfl
  have loaded : ((⟨"/rules", []⟩ : RuleSource).load patternTree).value =
      .ok (({} : Loaded).visitAll (visitsBelow [] "/rules" patternFiles)).value.rules := rfl
  refine ⟨_, loaded, ?_, loaded_rules_skip_no_search.2 _ _ _ loaded⟩
  rw [visits]
  decide +kernel

end HttpInspection
