import HttpInspection.Proofs.Collaborators

/-!
# What passes through an exchange

The raw text, the view and the form of a message are all taken of its body, and each time the body is
left at its start.  So whatever was read of a message before, beside the validators that there are
the server gets the request that was received, and a client whose exchange is not blocked gets the
response that the server gave, each to be read from the start.
-/

set_option autoImplicit false

namespace HttpInspection

open Http

/-- A request is another one, to be read from the start. -/
structure Http.Request.IsWhole (sent received : Request) : Prop where
  method : sent.method = received.method
  uri : sent.uri = received.uri
  version : sent.version = received.version
  headers : sent.headers = received.headers
  remote : sent.remote = received.remote
  extensions : sent.extensions = received.extensions
  bytes : sent.body.bytes = received.body.bytes
  atStart : sent.body.position = 0

/-- A response is another one, to be read from the start. -/
structure Http.Response.IsWhole (given received : Response) : Prop where
  status : given.status = received.status
  version : given.version = received.version
  headers : given.headers = received.headers
  bytes : given.body.bytes = received.body.bytes
  atStart : given.body.position = 0

theorem Http.Request.rewound_isWhole (request : Request) : request.rewound.IsWhole request :=
  ⟨rfl, rfl, rfl, rfl, rfl, rfl, rfl, rfl⟩

theorem Http.Response.rewound_isWhole (response : Response) : response.rewound.IsWhole response :=
  ⟨rfl, rfl, rfl, rfl, rfl⟩

/-! ## The validators that there are -/

namespace Validator

/-- A validator that applies rules for a scanner.  Its alerts on requests have numbers from `first`
on, those on responses numbers from `later` on. -/
def ofScanner (scanner : Scanner) (first later : Nat) (rules : RuleSet) : Validator where
  name := "rules"
  onRequest := fun request =>
    let (pass, request) := scanner.passRequest first rules request
    ⟨(.ok pass.findings, request), pass.notices⟩
  onResponse := fun response =>
    let (pass, response) := scanner.passResponse later rules response
    ⟨(.ok pass.findings, response), pass.notices⟩

/-- The validators that there are: rules, and blacklists of user agents. -/
inductive IsBuiltIn : Validator → Prop where
  | rules (scanner : Scanner) (first later : Nat) (rules : RuleSet) :
      IsBuiltIn (ofScanner scanner first later rules)
  | userAgents (blacklist : UserAgentBlacklist) : IsBuiltIn blacklist.validator

theorem isBuiltIn_ofRules (rules : RuleSet) : (ofRules rules).IsBuiltIn :=
  .rules {} 0 0 rules

theorem IsBuiltIn.leavesMessages {validator : Validator} (builtIn : validator.IsBuiltIn) :
    validator.LeavesMessages := by
  cases builtIn with
  | userAgents blacklist => exact blacklist.validator_leavesMessages
  | rules scanner first later rules =>
      constructor
      · intro request
        change (scanner.passRequest first rules request).2.rewound = request.rewound
        rw [Scanner.passRequest_message, Request.rewound_rewound]
      · intro response
        change (scanner.passResponse later rules response).2.rewound = response.rewound
        rw [Scanner.passResponse_message, Response.rewound_rewound]

end Validator

/-! ## What is handed on and given back -/

namespace Agent

section Passing
variable (agent : Agent) (around : Surroundings) (request : Request)
  (leaving : ∀ validator ∈ agent.validators, validator.LeavesMessages)
include leaving

theorem eq_rewound_of_mem_forwarded (sent : Request)
    (member : sent ∈ (agent.handle around request).forwarded) : sent = request.rewound := by
  have message := agent.inspectRequest_message around.alerts request leaving
  obtain ⟨course, goesOn, handled⟩ := agent.handle_goesOn around request
  rw [handled] at member
  rw [goesOn.eq_message_of_sent sent (Option.mem_toList.mp member), message]

theorem response_of_obtained (mode : agent.settings.mode = .waf)
    (passed : (agent.handle around request).outcome.blocked = false) (response : Response)
    (obtained : (agent.handle around request).obtained around = some response) :
    (agent.handle around request).outcome.response = response.rewound := by
  obtain ⟨course, goesOn, handled⟩ := agent.handle_goesOn around request
  simp only [handled, conclude, Account.obtained, clientResponse, mode] at passed obtained ⊢
  cases goesOn with
  | requestBlocked blocked => cases passed
  | unanswered passed failed => simp [Course.sent?, failed, Except.toOption] at obtained
  | responseBlocked passed received inspected blocked => cases passed
  | @answered given second unblocked received inspected passedBack =>
      have same : some given = some response := by
        simpa [Course.sent?, received, Except.toOption] using obtained
      cases same
      rw [Course.response, inspected, agent.inspectResponse_message _ _ _ leaving]

end Passing

end Agent

/-- Beside any number of the validators that there are, the requests that are handed on are the one
that was received; and in the mode that blocks, a response that is not blocked is given to the client
as the server gave it.  Both are to be read from the start, wherever their bodies were left. -/
theorem messages_pass_whole (agent : Agent) (around : Surroundings) (request : Request)
    (builtIn : ∀ validator ∈ agent.validators, validator.IsBuiltIn) :
    let account := agent.handle around request
    (∀ sent ∈ account.forwarded, sent.IsWhole request) ∧
      (agent.settings.mode = .waf → account.outcome.blocked = false →
        ∀ response, account.obtained around = some response →
          account.outcome.response.IsWhole response) := by
  intro account
  have leaving : ∀ validator ∈ agent.validators, validator.LeavesMessages :=
    fun validator member => (builtIn validator member).leavesMessages
  constructor
  · intro sent member
    rw [agent.eq_rewound_of_mem_forwarded around request leaving sent member]
    exact request.rewound_isWhole
  · intro mode passed response obtained
    rw [agent.response_of_obtained around request leaving mode passed response obtained]
    exact response.rewound_isWhole

def crowdedAgent : Agent where
  agentId := "crowded"
  settings := { mode := .waf }
  rules :=
    { rules := [{ id := "note"
                  info := { severity := .high, action := some .allow }
                  request := some { parameters := [⟨"a", { literal := "b" }⟩] } }] }
  validators :=
    [.ofScanner { agentId := "beside", sink := AlertSink.closed } 0 1
        { rules := [{ id := "shadow", info := { severity := .critical }
                      request := some { body := [{ mode := { literal := "b" } }] }
                      response := some { body := [{ mode := { literal := "o" } }] } }] },
      .ofRules { rules := [{ id := "page", info := { severity := .low }
                             response := some { body := [{ mode := { literal := "=" } }] } }] },
      UserAgentBlacklist.validator ⟨["curl"]⟩]

/-- A form whose body was read beyond its end, with something attached to it. -/
def formRequest : Request where
  method := "POST"
  extensions := [⟨"trace", bytesOf "17"⟩]
  headers := ⟨[("content-type", [bytesOf "application/x-www-form-urlencoded"]),
    ("user-agent", [bytesOf "curl/8"])]⟩
  body := ⟨bytesOf "a=b", 9⟩

/-- A server that has read its own response in part. -/
def readingSurroundings : Surroundings where
  forward := fun request => .ok { body := ⟨bytesOf "echo " ++ request.body.bytes, 3⟩ }

theorem messages_pass_whole_form :
    (∀ validator ∈ crowdedAgent.validators, validator.IsBuiltIn) ∧
      let account := crowdedAgent.handle readingSurroundings formRequest
      account.outcome.requestFindings.length = 1 ∧
        account.outcome.validatorFindings.length = 4 ∧
        account.forwarded.length = 1 ∧
        (∀ sent ∈ account.forwarded, sent.IsWhole formRequest) ∧
        account.outcome.response.IsWhole { body := ⟨bytesOf "echo a=b", 3⟩ } := by
  have builtIn : ∀ validator ∈ crowdedAgent.validators, validator.IsBuiltIn := by
    intro validator member
    simp only [crowdedAgent, List.mem_cons, List.not_mem_nil, or_false] at member
    rcases member with rfl | rfl | rfl
    · exact .rules _ _ _ _
    · exact Validator.isBuiltIn_ofRules _
    · exact .userAgents _
  refine ⟨builtIn, ?_⟩
  intro account
  obtain ⟨sentWhole, givenWhole⟩ :=
    messages_pass_whole crowdedAgent readingSurroundings formRequest builtIn
  obtain ⟨inRequest, beside, handedOn, passed, served⟩ :
      account.outcome.requestFindings.length = 1 ∧ account.outcome.validatorFindings.length = 4 ∧
        account.forwarded.length = 1 ∧ account.outcome.blocked = false ∧
        account.obtained readingSurroundings = some { body := ⟨bytesOf "echo a=b", 3⟩ } := by
    decide +kernel
  exact ⟨inRequest, beside, handedOn, sentWhole, givenWhole rfl passed _ served⟩

end HttpInspection
