import HttpInspection.Proofs.Messages
import HttpInspection.Proofs.Occurrence
import HttpInspection.Scan

/-!
# What a pass over a message finds

A pass finds what its rules find one by one, whatever becomes of the alerts, and leaves the message
with its body at its start.  A textual finding is kept exactly if its text occurs in a line of the
raw exchange, a hash finding always is.
-/

set_option autoImplicit false

namespace HttpInspection

open Http

/-! ## Findings that are kept -/

namespace Finding

theorem resolve_ruleId (raw : String) (finding kept : Finding)
    (resolved : finding.resolve? raw = some kept) : kept.ruleId = finding.ruleId := by
  unfold resolve? at resolved
  by_cases done : finding.isResolved = true
  · rw [if_pos done] at resolved
    cases resolved
    rfl
  · rw [if_neg done] at resolved
    obtain ⟨place, -, rfl⟩ := Option.map_eq_some_iff.mp resolved
    rfl

theorem resolve_ofRule_isSome_iff (raw : String) (rule : Rule) (text : String) :
    ((ofRule rule text).resolve? raw).isSome = true ↔ OccursInLine raw text := by
  have unresolved : (ofRule rule text).isResolved = false := by
    simp [isResolved, isHash, ofRule, ofText]
  rw [resolve?, if_neg (by simp [unresolved]), Option.isSome_map]
  exact locate_isSome_iff raw text

theorem resolve_ofHash_isSome (raw : String) (rule : Rule) (algorithm : HashAlgorithm)
    (digest : String) : ((ofHash rule algorithm digest).resolve? raw).isSome = true := by
  have resolved : (ofHash rule algorithm digest).isResolved = true := by
    simp [isResolved, isHash, ofHash]
  rw [resolve?, if_pos resolved, Option.isSome_some]

end Finding

theorem mem_resolveAll_iff (raw : String) (findings : List Finding) (kept : Finding) :
    kept ∈ (resolveAll raw findings).value ↔
      ∃ finding ∈ findings, finding.resolve? raw = some kept :=
  List.mem_filterMap

/-! ## Findings of one rule -/

/-- What is found in a body is kept: one of its texts occurs in a line, or there is a digest. -/
def BodyMatches.Kept (found : BodyMatches) (raw : String) : Prop :=
  (∃ text ∈ found.text, OccursInLine raw text) ∨ found.hashes ≠ []

namespace Rule

theorem exists_kept_text_iff (rule : Rule) (texts : List String) (raw : String) :
    (∃ finding ∈ texts.map (Finding.ofRule rule), (finding.resolve? raw).isSome = true) ↔
      ∃ text ∈ texts, OccursInLine raw text := by
  constructor
  · rintro ⟨finding, member, kept⟩
    obtain ⟨text, given, rfl⟩ := List.mem_map.mp member
    exact ⟨text, given, (Finding.resolve_ofRule_isSome_iff raw rule text).mp kept⟩
  · rintro ⟨text, given, occurs⟩
    exact ⟨_, List.mem_map_of_mem given,
      (Finding.resolve_ofRule_isSome_iff raw rule text).mpr occurs⟩

theorem exists_kept_hash_iff (rule : Rule) (hashes : List (HashAlgorithm × String)) (raw : String) :
    (∃ finding ∈ hashes.map fun (algorithm, digest) => Finding.ofHash rule algorithm digest,
      (finding.resolve? raw).isSome = true) ↔ hashes ≠ [] := by
  constructor
  · rintro ⟨finding, member, -⟩
    obtain ⟨hash, given, -⟩ := List.mem_map.mp member
    exact List.ne_nil_of_mem given
  · intro some
    obtain ⟨hash, given⟩ := List.exists_mem_of_ne_nil _ some
    exact ⟨_, List.mem_map_of_mem given,
      Finding.resolve_ofHash_isSome raw rule hash.1 hash.2⟩

/-- Which findings of a rule are kept: those in front of the body and those in it are the same kind
of findings, except for the digests. -/
theorem exists_kept_finding_iff (rule : Rule) (texts : List String) (found : BodyMatches)
    (raw : String) :
    (∃ finding ∈ texts.map (Finding.ofRule rule) ++ rule.bodyFindings found,
      (finding.resolve? raw).isSome = true) ↔
      (∃ text ∈ texts, OccursInLine raw text) ∨ found.Kept raw := by
  rw [BodyMatches.Kept, ← rule.exists_kept_text_iff texts, ← rule.exists_kept_text_iff found.text,
    ← rule.exists_kept_hash_iff found.hashes raw]
  simp only [bodyFindings, List.mem_append, or_and_right, exists_or]

theorem ruleId_of_mem (rule : Rule) (texts : List String) (found : BodyMatches) (finding : Finding)
    (member : finding ∈ texts.map (Finding.ofRule rule) ++ rule.bodyFindings found) :
    finding.ruleId = rule.id := by
  simp only [bodyFindings, List.mem_append, List.mem_map] at member
  rcases member with ⟨text, -, rfl⟩ | ⟨text, -, rfl⟩ | ⟨hash, -, rfl⟩ <;> rfl

end Rule

namespace RequestMatchers

/-- What is found in the parts of a request in front of its body, in the order of the parts. -/
def headMatches (matchers : RequestMatchers) (view : RequestView) : List String :=
  (matchMethod view.method matchers.method).value ++ (matchUrl view.target matchers.url).value ++
    (matchHeaders view.headers matchers.headers).value ++
    (matchParameters view.query matchers.parameters).value ++
    (matchParameters view.form matchers.parameters).value

end RequestMatchers

namespace Rule

theorem exists_scanRequest_iff (rule : Rule) (view : RequestView) (p : List Finding → Prop) :
    (∃ result, rule.scanRequest view = some result ∧ p result.findings) ↔
      ∃ matchers, rule.request = some matchers ∧
        p ((matchers.headMatches view).head?.toList.map (Finding.ofRule rule) ++
          rule.bodyFindings (matchBody view.body matchers.body).value) := by
  cases given : rule.request with
  | none => simp [scanRequest, given]
  | some matchers =>
      simp only [scanRequest, given, Option.map_some, Option.some.injEq, exists_eq_left',
        ← List.take_one]
      exact Iff.rfl

theorem exists_scanResponse_iff (rule : Rule) (view : ResponseView) (p : List Finding → Prop) :
    (∃ result, rule.scanResponse view = some result ∧ p result.findings) ↔
      ∃ matchers, rule.response = some matchers ∧
        p ((matchHeaders view.headers matchers.headers).value.map (Finding.ofRule rule) ++
          rule.bodyFindings (matchBody view.body matchers.body).value) := by
  cases given : rule.response with
  | none => simp [scanResponse, given]
  | some matchers =>
      simp only [scanResponse, given, Option.map_some, Option.some.injEq, exists_eq_left']
      exact Iff.rfl

theorem ruleId_of_mem_scanRequest (rule : Rule) (view : RequestView) (result : RuleResult)
    (scanned : rule.scanRequest view = some result) (finding : Finding)
    (member : finding ∈ result.findings) : finding.ruleId = rule.id := by
  obtain ⟨matchers, -, inParts⟩ :=
    (rule.exists_scanRequest_iff view (finding ∈ ·)).mp ⟨result, scanned, member⟩
  exact rule.ruleId_of_mem _ _ finding inParts

theorem ruleId_of_mem_scanResponse (rule : Rule) (view : ResponseView) (result : RuleResult)
    (scanned : rule.scanResponse view = some result) (finding : Finding)
    (member : finding ∈ result.findings) : finding.ruleId = rule.id := by
  obtain ⟨matchers, -, inParts⟩ :=
    (rule.exists_scanResponse_iff view (finding ∈ ·)).mp ⟨result, scanned, member⟩
  exact rule.ruleId_of_mem _ _ finding inParts

end Rule

/-! ## Passes -/

namespace Scanner

/-- The findings of a pass are those of its rules, whatever becomes of the alerts. -/
theorem finish_findings (scanner : Scanner) (results : List RuleResult) (count : Nat) :
    (scanner.finish count results).findings = results.flatMap RuleResult.findings := by
  induction results generalizing scanner count with
  | nil => rfl
  | cons result rest ih =>
      by_cases raises : result.raisesAlert = true
      · simp only [finish, if_pos raises, ih, List.flatMap_cons]
      · simp only [finish, if_neg raises, ih, List.flatMap_cons]

theorem passRequest_findings (scanner : Scanner) (count : Nat) (rules : RuleSet)
    (request : Request) :
    (scanner.passRequest count rules request).1.findings =
      (rules.scanRequest request.view).flatMap RuleResult.findings := by
  simp only [passRequest, request.capture_eq, finish_findings]

theorem passRequest_message (scanner : Scanner) (count : Nat) (rules : RuleSet)
    (request : Request) : (scanner.passRequest count rules request).2 = request.rewound := by
  simp only [passRequest, request.capture_eq]

theorem passResponse_findings (scanner : Scanner) (count : Nat) (rules : RuleSet)
    (response : Response) :
    (scanner.passResponse count rules response).1.findings =
      (rules.scanResponse response.view).flatMap RuleResult.findings := by
  simp only [passResponse, response.capture_eq, finish_findings]

theorem passResponse_message (scanner : Scanner) (count : Nat) (rules : RuleSet)
    (response : Response) : (scanner.passResponse count rules response).2 = response.rewound := by
  simp only [passResponse, response.capture_eq]

end Scanner

end HttpInspection
