import HttpInspection.Proofs.Collaborators
import HttpInspection.Proofs.Coordinates
import HttpInspection.Proofs.HeaderLines
import HttpInspection.Proofs.Resolving
import Mathlib.Data.List.Infix

/-!
# Blacklisted user agents are reported

A user agent stands in a header line of the raw text as it is searched, and no line ends within it.
So every entry that is found in it has a place, and but for those findings an exchange goes on
beside a blacklist as it goes on without validators.
-/

set_option autoImplicit false

namespace HttpInspection

open Http

namespace Http

theorem Headers.exists_entry_of_get (headers : Headers) (name : String) (value : List UInt8)
    (found : headers.get? name = some value) :
    ∃ values, (name, values) ∈ headers.entries ∧ value ∈ values := by
  unfold get? getAll at found
  cases first : headers.entries.find? fun entry => entry.1 == name with
  | none => simp [first] at found
  | some entry =>
      obtain ⟨other, values⟩ := entry
      have named : other = name := by simpa using List.find?_some first
      subst named
      rw [first] at found
      exact ⟨values, List.mem_of_find?_eq_some first, List.mem_of_head? found⟩

/-- The first value of a header that is not the host stands in the raw text, in one line. -/
theorem Request.get_infix_rawText (request : Request) (oneLine : request.headers.OneLine)
    (name : String) (notHost : name ≠ "host") (value : List UInt8)
    (found : request.headers.get? name = some value) :
    '\n' ∉ (lossyText value).toList ∧ (lossyText value).toList <:+: request.rawText.toList := by
  obtain ⟨values, given, member⟩ := request.headers.exists_entry_of_get name value found
  have shown : (name, values.map lossyText) ∈ request.headers.texts :=
    List.mem_map.mpr ⟨(name, values), given, rfl⟩
  have among : lossyText value ∈ values.map lossyText := List.mem_map_of_mem member
  constructor
  · exact request.headers.newline_notMem_of_texts oneLine _ shown _ among
  · apply request.headerValue_infix_rawText _ shown _ among
    intro host
    exact absurd host notHost

end Http

namespace UserAgentBlacklist

/-! ## The entries in a text -/

/-- The lines of a blacklist that stand in a text, without blanks at their ends: in their order, and
each as often as it is there. -/
def linesIn (lines : List String) (text : String) : List String :=
  (lines.map trim).filter fun line => line ≠ "" ∧ line.toList <:+: text.toList

/-- A finding is that of an entry, and has the place where the entry first stands in a raw text. -/
def Reports (raw entry : String) (finding : Finding) : Prop :=
  ∃ line offset : Nat, FirstStandsAt (bytesOf entry) (byteLines (bytesOf raw)) line offset ∧
    finding =
      { ruleId := "user-agent-blacklist"
        ruleName := "Blacklisted User-Agent"
        line := line
        lineIndex := offset
        length := (bytesOf entry).length
        matchedString := entry
        classification := "Script UA"
        severity := .medium }

theorem findingsIn_eq (lines : List String) (text : String) :
    (ofLines lines).findingsIn text = (linesIn lines text).map finding := by
  rw [findingsIn, ofLines, linesIn, List.filter_filter]
  congr 1
  apply List.filter_congr
  intro line _
  rw [Bool.eq_iff_iff]
  simp [occursIn, beforeFirst_isSome_iff, and_comm]

theorem located_of_mem_linesIn (raw : String) (lines : List String) (text : String)
    (oneLine : '\n' ∉ text.toList) (inside : text.toList <:+: raw.toList) :
    ∀ entry ∈ linesIn lines text, (locate raw entry).isSome = true := by
  intro entry member
  have found := (List.mem_filter.mp member).2
  simp only [decide_eq_true_eq] at found
  obtain ⟨notEmpty, stands⟩ := found
  have occurs : OccursIgnoringAsciiCase entry text := stands.map Lowercase.asciiChar
  have ordinary : '\n' ∉ entry.toList := newline_notMem_of_occurs entry text oneLine occurs
  exact (hasPlace_of_infix_raw raw text entry notEmpty ordinary occurs inside).1

theorem reports_of_located (raw entry : String) (located : (locate raw entry).isSome = true) :
    ∃ kept, (finding entry).resolve? raw = some kept ∧ Reports raw entry kept := by
  obtain ⟨⟨line, offset⟩, found⟩ := Option.isSome_iff_exists.mp located
  have unsettled : ¬ (finding entry).Settled := by
    simp [Finding.Settled, finding, Finding.ofText]
  have resolved := (finding entry).resolve_of_unsettled raw unsettled
  have matched : (finding entry).matchedString = entry := rfl
  rw [matched, found] at resolved
  exact ⟨_, resolved, line, offset, (locate_eq_some raw entry line offset found).2, rfl⟩

/-- Of entries that have places nothing is dropped. -/
theorem resolveAll_of_located (raw : String) (entries : List String)
    (located : ∀ entry ∈ entries, (locate raw entry).isSome = true) :
    ∃ kept, resolveAll raw (entries.map finding) = ⟨kept, []⟩ ∧
      List.Forall₂ (Reports raw) entries kept := by
  induction entries with
  | nil => exact ⟨[], rfl, .nil⟩
  | cons entry rest ih =>
      obtain ⟨first, resolved, reports⟩ :=
        reports_of_located raw entry (located entry List.mem_cons_self)
      obtain ⟨kept, others, later⟩ :=
        ih fun other member => located other (List.mem_cons_of_mem _ member)
      refine ⟨first :: kept, ?_, .cons reports later⟩
      rw [List.map_cons, resolveAll_cons_kept raw _ _ _ resolved, others]

theorem findings_kept (lines : List String) (request : Request)
    (oneLine : request.headers.OneLine) :
    ∃ kept, resolveAll request.rawText ((ofLines lines).findings request) = ⟨kept, []⟩ ∧
      (∀ value, request.headers.get? "user-agent" = some value →
        List.Forall₂ (Reports request.rawText) (linesIn lines (lossyText value)) kept) ∧
      (request.headers.get? "user-agent" = none → kept = []) := by
  unfold findings
  cases given : request.headers.get? "user-agent" with
  | none => exact ⟨[], rfl, by simp, by simp⟩
  | some value =>
      obtain ⟨ordinary, inside⟩ :=
        request.get_infix_rawText oneLine "user-agent" (by decide) value given
      obtain ⟨kept, resolved, reports⟩ := resolveAll_of_located request.rawText _
        (located_of_mem_linesIn request.rawText lines (lossyText value) ordinary inside)
      refine ⟨kept, ?_, ?_, by simp⟩
      · rw [← resolved]
        simp only [findingsIn_eq]
      · intro other same
        cases same
        exact reports

end UserAgentBlacklist

/-! ## Exchanges beside a blacklist -/

/-- Validators whose findings are all kept, and that leave the message, change nothing in an
inspection but add their findings. -/
theorem inspect_of_kept {μ : Type} (raw : String) (message : μ)
    (validators : μ → Traced (List Finding × μ)) (rules : μ → Pass × μ)
    (found kept : List Finding) (answer : validators message = ⟨(found, message), []⟩)
    (resolved : resolveAll raw found = ⟨kept, []⟩) :
    inspect raw message validators rules =
      { inspect raw message (fun left => ⟨([], left), []⟩) rules with
        validatorFindings := kept } := by
  have nothing : resolveAll raw [] = ⟨[], []⟩ := rfl
  have number : kept.length = found.length := by
    have all := (resolution_resolveAll raw found).length_add_length
    rw [resolved] at all
    simpa using all
  simp only [inspect, answer, resolved, nothing, number, Nat.sub_self, List.length_nil]

namespace Agent

section Blacklist
variable (agent : Agent) (blacklist : UserAgentBlacklist)

theorem inspectRequest_beside_blacklist (sink : AlertSink) (request : Request) (kept : List Finding)
    (resolved : resolveAll request.rawText (blacklist.findings request) = ⟨kept, []⟩) :
    (agent.beside [blacklist.validator]).inspectRequest sink request =
      { (agent.beside []).inspectRequest sink request with validatorFindings := kept } := by
  have answer : Validator.inspectRequest [blacklist.validator] request.rewound =
      ⟨(blacklist.findings request, request.rewound), []⟩ := by
    change (⟨(blacklist.findings request ++ [], request.rewound), []⟩ : Traced _) = _
    rw [List.append_nil]
  simp only [inspectRequest, request.dump_eq]
  exact inspect_of_kept _ _ _ _ _ kept answer resolved

theorem keptInResponse_blacklist (response : Response) :
    (agent.beside [blacklist.validator]).keptInResponse response = [] := rfl

theorem proceed_beside_blacklist (around : Surroundings) (first : Inspected Request)
    (kept : List Finding) :
    (agent.beside [blacklist.validator]).proceed around { first with validatorFindings := kept } =
      (agent.beside []).proceed around first := rfl

/-- What an agent beside a blacklist counts is what it counts without validators. -/
theorem statistics_beside_blacklist (around : Surroundings) (request : Request)
    (kept : List Finding)
    (resolved : resolveAll request.rawText (blacklist.findings request) = ⟨kept, []⟩) :
    ((agent.beside [blacklist.validator]).handle around request).statistics =
      ((agent.beside []).handle around request).statistics := by
  have first := agent.inspectRequest_beside_blacklist blacklist around.alerts request kept resolved
  simp only [handle, conclude, first, proceed_beside_blacklist]
  rfl

theorem validatorFindings_beside_blacklist (around : Surroundings) (request : Request)
    (kept : List Finding)
    (resolved : resolveAll request.rawText (blacklist.findings request) = ⟨kept, []⟩) :
    ((agent.beside [blacklist.validator]).handle around request).outcome.validatorFindings =
      kept := by
  have first := agent.inspectRequest_beside_blacklist blacklist around.alerts request kept resolved
  rw [handle_validatorFindings, ← inspectRequest_validatorFindings _ around.alerts, first]
  cases ((agent.beside [blacklist.validator]).handle around request).obtained around with
  | none => simp
  | some response => simp [keptInResponse_blacklist]

end Blacklist

end Agent

/-- Beside a blacklist, and whatever the server answers, the findings of validators are one for each
line of it that stands in the first user agent of the request, at the place where it stands.  None
of them is counted as missed, since what is counted is what is counted without the blacklist, and a
response adds none.  The headers of every request that is built are in one line each. -/
theorem blacklisted_user_agents_reported (agent : Agent) (lines : List String)
    (around : Surroundings) (request : Request) (oneLine : request.headers.OneLine) :
    let guarded := agent.beside [(UserAgentBlacklist.ofLines lines).validator]
    let account := guarded.handle around request
    (∀ value, request.headers.get? "user-agent" = some value →
      List.Forall₂ (UserAgentBlacklist.Reports request.dump.1)
        (UserAgentBlacklist.linesIn lines (lossyText value))
        account.outcome.validatorFindings) ∧
    (request.headers.get? "user-agent" = none → account.outcome.validatorFindings = []) ∧
    account.statistics = ((agent.beside []).handle around request).statistics ∧
    ∀ response, guarded.keptInResponse response = [] := by
  intro guarded account
  obtain ⟨kept, resolved, reports, nothing⟩ :=
    UserAgentBlacklist.findings_kept lines request oneLine
  have found : account.outcome.validatorFindings = kept :=
    agent.validatorFindings_beside_blacklist _ around request kept resolved
  rw [found, request.dump_eq]
  exact ⟨reports, nothing, agent.statistics_beside_blacklist _ around request kept resolved,
    agent.keptInResponse_blacklist _⟩

/-- A request whose first user agent has a byte that is no UTF-8 in it. -/
def scriptedRequest : Request where
  headers := ⟨[("host", [bytesOf "shop.local"]), ("accept", [bytesOf "CURL"]),
    ("user-agent", [0xFF :: bytesOf " curl; sqlmap", bytesOf "nikto"])]⟩

/-- Lines with blanks at their ends, without anything else, in capitals, and twice. -/
def scriptedLines : List String := ["sqlmap", "", "\t curl ", "nikto", "CURL", "\uFFFD", "curl"]

theorem blacklisted_user_agents_reported_scripted :
    let guarded := Agent.beside { agentId := "guard" }
      [(UserAgentBlacklist.ofLines scriptedLines).validator]
    let account := guarded.handle { forward := fun _ => .ok {} } scriptedRequest
    scriptedRequest.headers.OneLine ∧
      List.Forall₂ (UserAgentBlacklist.Reports scriptedRequest.dump.1)
        ["sqlmap", "curl", "\uFFFD", "curl"] account.outcome.validatorFindings ∧
      account.statistics.positionMisses = 0 := by
  intro guarded account
  have built : Headers.ofPairs [("Host", bytesOf "shop.local"), ("Accept", bytesOf "CURL"),
      ("User-Agent", 0xFF :: bytesOf " curl; sqlmap"), ("user-agent", bytesOf "nikto")] =
        .ok scriptedRequest.headers :=
    eq_ok_of_toOption _ _ (by decide +kernel)
  have oneLine := Headers.oneLine_ofPairs _ _ built
  obtain ⟨reported, -, counted, -⟩ := blacklisted_user_agents_reported { agentId := "guard" }
    scriptedLines { forward := fun _ => .ok {} } scriptedRequest oneLine
  have entries : UserAgentBlacklist.linesIn scriptedLines
      (lossyText (0xFF :: bytesOf " curl; sqlmap")) = ["sqlmap", "curl", "\uFFFD", "curl"] := by
    decide +kernel
  refine ⟨oneLine, ?_, ?_⟩
  · rw [← entries]
    exact reported _ rfl
  · rw [counted]
    decide +kernel

end HttpInspection
