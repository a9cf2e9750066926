import HttpInspection.Proofs.ByteOffsets
import HttpInspection.Proofs.Lifecycle

/-!
# The coordinates of logged findings

Whatever validators do to a message, the place of a finding of a rule is taken in the raw text that
is logged.  A textual finding points at the first occurrence of its text there, by line and by byte,
and is as long as its text; a hash finding points nowhere and is as long as its digest.
-/

set_option autoImplicit false

namespace HttpInspection

open Http

/-! ## The place that is located -/

/-- Bytes stand in some lines for the first time: at an offset in a line, at no smaller offset of
it, and in no line before it. -/
structure FirstStandsAt (needle : List UInt8) (lines : List (List UInt8)) (number offset : Nat) :
    Prop where
  here : ∃ line, lines[number]? = some line ∧ StandsAt needle line offset ∧
    ∀ smaller < offset, ¬ StandsAt needle line smaller
  before : ∀ earlier < number, ∀ line, lines[earlier]? = some line →
    ∀ anywhere, ¬ StandsAt needle line anywhere

theorem locateInLines_eq_some (needle : List Char) (lines : List (List Char))
    (first number offset : Nat)
    (found : locateInLines needle first lines = some (number, offset)) :
    ∃ place line, number = first + place ∧ lines[place]? = some line ∧
      offsetIn? needle line = some offset ∧
      ∀ earlier < place, ∀ other, lines[earlier]? = some other → offsetIn? needle other = none := by
  induction lines generalizing first with
  | nil => cases found
  | cons line rest ih =>
      cases here : offsetIn? needle line with
      | some start =>
          simp only [locateInLines, here, Option.some.injEq, Prod.mk.injEq] at found
          obtain ⟨rfl, rfl⟩ := found
          exact ⟨0, line, rfl, rfl, here, by simp⟩
      | none =>
          simp only [locateInLines, here] at found
          obtain ⟨place, behind, rfl, there, stands, missed⟩ := ih (first + 1) found
          refine ⟨place + 1, behind, by omega, there, stands, ?_⟩
          intro earlier less other same
          cases earlier with
          | zero =>
              cases same
              exact here
          | succ earlier => exact missed earlier (by omega) other same

theorem getElem?_byteLines_bytesOf (raw : String) (number : Nat) :
    (byteLines (bytesOf raw))[number]? = (splitLines raw.toList)[number]?.map Utf8.encode := by
  rw [bytesOf, Utf8.byteLines_encode, List.getElem?_map]

theorem locate_eq_some (raw needle : String) (number offset : Nat)
    (found : locate raw needle = some (number, offset)) :
    needle ≠ "" ∧ FirstStandsAt (bytesOf needle) (byteLines (bytesOf raw)) number offset := by
  have notEmpty : needle ≠ "" := by
    rintro rfl
    cases found
  have letters : needle.toList ≠ [] := by simpa using notEmpty
  have passed : ¬ needle.isEmpty = true := by simpa using notEmpty
  rw [locate, if_neg passed] at found
  obtain ⟨place, line, rfl, there, stands, missed⟩ := locateInLines_eq_some _ _ _ _ _ found
  have first := standsAt_of_offsetIn needle.toList line letters offset stands
  refine ⟨notEmpty, ⟨Utf8.encode line, ?_, first⟩, ?_⟩
  · rw [getElem?_byteLines_bytesOf, Nat.zero_add, there, Option.map_some]
  · intro earlier less bytes same anywhere
    rw [getElem?_byteLines_bytesOf] at same
    obtain ⟨other, given, rfl⟩ := Option.map_eq_some_iff.mp same
    have nothing := missed earlier (by omega) other given
    exact not_standsAt_of_offsetIn needle.toList other letters nothing anywhere

-- Offsets count bytes, and the case of letters beyond ASCII counts.
example : locate "GET /sqlma\nHost: Äsqlmap-sqlmap\n" "SQLMAP" = some (1, 8) := by
  decide +kernel

theorem locate_eq_none_iff (raw needle : String) :
    locate raw needle = none ↔
      needle = "" ∨ ∀ line ∈ byteLines (bytesOf raw), ∀ offset,
        ¬ StandsAt (bytesOf needle) line offset := by
  constructor
  · intro missed
    by_cases empty : needle = ""
    · exact .inl empty
    · right
      have letters : needle.toList ≠ [] := by simpa using empty
      have nowhere : ¬ OccursInLine raw needle := by
        rw [← locate_isSome_iff, missed]
        exact Bool.false_ne_true
      intro bytes member offset
      rw [bytesOf, Utf8.byteLines_encode] at member
      obtain ⟨line, inText, rfl⟩ := List.mem_map.mp member
      refine not_standsAt_of_offsetIn needle.toList line letters ?_ offset
      rw [← Option.not_isSome_iff_eq_none, offsetIn_isSome_iff]
      exact fun occurs => nowhere ⟨empty, line, inText, occurs⟩
  · rintro (rfl | nowhere)
    · rfl
    · cases found : locate raw needle with
      | none => rfl
      | some place =>
          obtain ⟨-, ⟨line, there, stands, -⟩, -⟩ := locate_eq_some raw needle _ _ found
          exact absurd stands (nowhere line (List.mem_of_getElem? there) _)

/-! ## The coordinates of one finding -/

namespace Finding

/-- A textual finding has the place of its text in some lines. -/
structure PlacedIn (finding : Finding) (lines : List (List UInt8)) : Prop where
  notEmpty : finding.matchedString ≠ ""
  length : finding.length = (bytesOf finding.matchedString).length
  place : ∃ number offset : Nat, finding.line = number ∧ finding.lineIndex = offset ∧
    FirstStandsAt (bytesOf finding.matchedString) lines number offset

structure PlacedNowhere (finding : Finding) : Prop where
  line : finding.line = -1
  lineIndex : finding.lineIndex = -1
  length : ∃ digest, finding.matchedBodyHash = some digest ∧
    finding.length = (bytesOf digest).length

def RightIn (finding : Finding) (text : List UInt8) : Prop :=
  if finding.isHash then finding.PlacedNowhere else finding.PlacedIn (byteLines text)

/-- A finding as a rule gives it. -/
def IsFresh (finding : Finding) : Prop :=
  ∃ rule, (∃ text, finding = ofRule rule text) ∨
    ∃ algorithm digest, finding = ofHash rule algorithm digest

theorem rightIn_of_resolve (raw : String) (finding kept : Finding) (fresh : finding.IsFresh)
    (resolved : finding.resolve? raw = some kept) : kept.RightIn (bytesOf raw) := by
  obtain ⟨rule, ⟨text, rfl⟩ | ⟨algorithm, digest, rfl⟩⟩ := fresh
  · have unresolved : ¬ (ofRule rule text).isResolved = true := by
      simp [isResolved, isHash, ofRule, ofText]
    rw [resolve?, if_neg unresolved] at resolved
    obtain ⟨⟨number, offset⟩, found, rfl⟩ := Option.map_eq_some_iff.mp resolved
    obtain ⟨notEmpty, stands⟩ := locate_eq_some raw text number offset found
    have textual : ¬ ((ofRule rule text).placed number offset).isHash = true := by
      simp [isHash, placed, ofRule, ofText]
    rw [RightIn, if_neg textual]
    exact ⟨notEmpty, rfl, number, offset, rfl, rfl, stands⟩
  · cases resolved
    exact ⟨rfl, rfl, digest, rfl, rfl⟩

end Finding

/-! ## What rules give -/

namespace Rule

theorem isFresh_of_mem (rule : Rule) (texts : List String) (found : BodyMatches)
    (finding : Finding)
    (member : finding ∈ texts.map (Finding.ofRule rule) ++ rule.bodyFindings found) :
    finding.IsFresh := by
  simp only [bodyFindings, List.mem_append, List.mem_map] at member
  rcases member with ⟨text, -, rfl⟩ | ⟨text, -, rfl⟩ | ⟨hash, -, rfl⟩
  · exact ⟨rule, .inl ⟨text, rfl⟩⟩
  · exact ⟨rule, .inl ⟨text, rfl⟩⟩
  · exact ⟨rule, .inr ⟨hash.1, hash.2, rfl⟩⟩

end Rule

namespace Scanner

theorem isFresh_of_mem_passRequest (scanner : Scanner) (count : Nat) (rules : RuleSet)
    (request : Request) (finding : Finding)
    (member : finding ∈ (scanner.passRequest count rules request).1.findings) :
    finding.IsFresh := by
  rw [passRequest_findings] at member
  obtain ⟨result, scanned, inResult⟩ := List.mem_flatMap.mp member
  obtain ⟨rule, -, same⟩ := List.mem_filterMap.mp scanned
  obtain ⟨matchers, -, inParts⟩ :=
    (rule.exists_scanRequest_iff request.view (finding ∈ ·)).mp ⟨result, same, inResult⟩
  exact rule.isFresh_of_mem _ _ finding inParts

theorem isFresh_of_mem_passResponse (scanner : Scanner) (count : Nat) (rules : RuleSet)
    (response : Response) (finding : Finding)
    (member : finding ∈ (scanner.passResponse count rules response).1.findings) :
    finding.IsFresh := by
  rw [passResponse_findings] at member
  obtain ⟨result, scanned, inResult⟩ := List.mem_flatMap.mp member
  obtain ⟨rule, -, same⟩ := List.mem_filterMap.mp scanned
  obtain ⟨matchers, -, inParts⟩ :=
    (rule.exists_scanResponse_iff response.view (finding ∈ ·)).mp ⟨result, same, inResult⟩
  exact rule.isFresh_of_mem _ _ finding inParts

end Scanner

/-! ## What an inspection keeps -/

theorem inspect_rightIn {μ : Type} (raw : String) (message : μ)
    (validators : μ → Traced (List Finding × μ)) (rules : μ → Pass × μ)
    (fresh : ∀ left, ∀ finding ∈ (rules left).1.findings, finding.IsFresh) (kept : Finding)
    (member : kept ∈ (inspect raw message validators rules).ruleFindings) :
    kept.RightIn (bytesOf (inspect raw message validators rules).raw) := by
  obtain ⟨finding, found, resolved⟩ := (mem_resolveAll_iff raw _ kept).mp member
  exact Finding.rightIn_of_resolve raw finding kept (fresh _ finding found) resolved

namespace Agent

theorem inspectRequest_rightIn (agent : Agent) (sink : AlertSink) (request : Request)
    (kept : Finding) (member : kept ∈ (agent.inspectRequest sink request).ruleFindings) :
    kept.RightIn (bytesOf (agent.inspectRequest sink request).raw) :=
  inspect_rightIn _ _ _ _ (fun left => Scanner.isFresh_of_mem_passRequest _ _ _ left) kept member

theorem inspectResponse_rightIn (agent : Agent) (sink : AlertSink) (count : Nat)
    (response : Response) (kept : Finding)
    (member : kept ∈ (agent.inspectResponse sink count response).ruleFindings) :
    kept.RightIn (bytesOf (agent.inspectResponse sink count response).raw) :=
  inspect_rightIn _ _ _ _ (fun left => Scanner.isFresh_of_mem_passResponse _ _ _ left) kept member

theorem second_rightIn (agent : Agent) (around : Surroundings) (first : Inspected Request)
    (course : Course) (goesOn : agent.GoesOn around first course) (kept : Finding)
    (member : kept ∈ (course.second?.map Inspected.ruleFindings).getD []) :
    kept.RightIn (bytesOf ((course.second?.map Inspected.raw).getD "")) := by
  cases goesOn with
  | requestBlocked blocked => exact absurd member List.not_mem_nil
  | unanswered passed failed => exact absurd member List.not_mem_nil
  | responseBlocked passed received inspected blocked =>
      subst inspected
      exact agent.inspectResponse_rightIn _ _ _ kept member
  | answered passed received inspected passedBack =>
      subst inspected
      exact agent.inspectResponse_rightIn _ _ _ kept member

end Agent

/-- The findings of rules in an outcome have the right coordinates in the raw texts that its log
entry has in base64, and a text has no place only if it is empty or stands in no line. -/
theorem logged_coordinates_right (agent : Agent) (around : Surroundings) (request : Request) :
    let outcome := (agent.handle around request).outcome
    (∃ text, Base64.decode? (bytesOf outcome.logEntry.request) = some text ∧
      ∀ finding ∈ outcome.requestFindings, finding.RightIn text) ∧
    (∃ text, Base64.decode? (bytesOf outcome.logEntry.response) = some text ∧
      ∀ finding ∈ outcome.responseFindings, finding.RightIn text) ∧
    ∀ raw needle, locate raw needle = none ↔
      needle = "" ∨ ∀ line ∈ byteLines (bytesOf raw), ∀ offset,
        ¬ StandsAt (bytesOf needle) line offset := by
  intro outcome
  have goesOn := agent.proceed_goesOn around (agent.inspectRequest around.alerts request)
  refine ⟨⟨_, agent.decode_logEntry_request around request request.remote _, ?_⟩,
    ⟨_, agent.decode_logEntry_response around request.remote _ _, ?_⟩, locate_eq_none_iff⟩
  · intro finding member
    exact agent.inspectRequest_rightIn around.alerts request finding member
  · intro finding member
    exact agent.second_rightIn around _ _ goesOn finding member

end HttpInspection
