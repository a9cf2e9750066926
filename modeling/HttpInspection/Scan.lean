import HttpInspection.Http.View
import HttpInspection.Rule.Match
import HttpInspection.Rule.RuleSet
import HttpInspection.Statistics

/-!
# Scanning messages

Every rule is applied by itself.  In a request all parts in front of the body give one finding at
most, the first; in a response every header gives its findings.  The text of a body and its digests
give all their findings.  A rule of high or critical severity that has found something raises one
alert.  Whatever becomes of the alert, the findings stay; but a scanner that counts counts it.
-/

set_option autoImplicit false

namespace HttpInspection

open Http

structure RuleResult where
  rule : Rule
  findings : List Finding
  notices : List Notice := []

/-- The findings of a rule in a body: first the texts, then the digests. -/
def Rule.bodyFindings (rule : Rule) (found : BodyMatches) : List Finding :=
  found.text.map (Finding.ofRule rule) ++
    found.hashes.map fun (algorithm, digest) => Finding.ofHash rule algorithm digest

namespace RequestMatchers

/-- What is found in the parts of a request in front of its body. -/
def matchHead (matchers : RequestMatchers) (view : RequestView) : Traced (List String) := do
  let method ← matchMethod view.method matchers.method
  let url ← matchUrl view.target matchers.url
  let headers ← matchHeaders view.headers matchers.headers
  let query ← matchParameters view.query matchers.parameters
  let form ← matchParameters view.form matchers.parameters
  return method ++ url ++ headers ++ query ++ form

def findings (matchers : RequestMatchers) (rule : Rule) (view : RequestView) :
    Traced (List Finding) := do
  let head ← matchers.matchHead view
  let body ← matchBody view.body matchers.body
  return (head.take 1).map (Finding.ofRule rule) ++ rule.bodyFindings body

end RequestMatchers

namespace ResponseMatchers

def findings (matchers : ResponseMatchers) (rule : Rule) (view : ResponseView) :
    Traced (List Finding) := do
  let headers ← matchHeaders view.headers matchers.headers
  let body ← matchBody view.body matchers.body
  return headers.map (Finding.ofRule rule) ++ rule.bodyFindings body

end ResponseMatchers

namespace Rule

def scanRequest (rule : Rule) (view : RequestView) : Option RuleResult :=
  rule.request.map fun matchers =>
    let found := matchers.findings rule view
    ⟨rule, found.value, found.notices⟩

def scanResponse (rule : Rule) (view : ResponseView) : Option RuleResult :=
  rule.response.map fun matchers =>
    let found := matchers.findings rule view
    ⟨rule, found.value, found.notices⟩

end Rule

namespace RuleSet

def scanRequest (set : RuleSet) (view : RequestView) : List RuleResult :=
  set.rules.filterMap fun rule => rule.scanRequest view

def scanResponse (set : RuleSet) (view : ResponseView) : List RuleResult :=
  set.rules.filterMap fun rule => rule.scanResponse view

end RuleSet

def RuleResult.raisesAlert (result : RuleResult) : Bool :=
  !result.findings.isEmpty && result.rule.info.severity.raisesAlert

/-- What becomes of an alert, given the number of alerts before it. -/
abbrev AlertSink := Nat → Alert → Except Failure Unit

def AlertSink.taking : AlertSink :=
  fun _ _ => .ok ()

def AlertSink.closed : AlertSink :=
  fun _ _ => .error (.alertRefused "alert channel closed")

structure Delivery where
  alert : Alert
  answer : Except Failure Unit

def Delivery.accepted (delivery : Delivery) : Bool :=
  delivery.answer.isOk

/-- What one pass over a message has given, with the counters as they are after it. -/
structure Pass where
  findings : List Finding := []
  deliveries : List Delivery := []
  notices : List Notice := []
  counters : Option Statistics

/-- Who scans, where the alerts go, and the counters of those who have any. -/
structure Scanner where
  agentId : String := ""
  sink : AlertSink := AlertSink.taking
  counters : Option Statistics := none

namespace Scanner

def deliver (scanner : Scanner) (count : Nat) (result : RuleResult) : Delivery :=
  let alert := Alert.ofRule scanner.agentId result.rule
  ⟨alert, scanner.sink count alert⟩

def deliveryNotices (delivery : Delivery) : List Notice :=
  match delivery.answer with
  | .ok _ => []
  | .error failure => [.alertUndelivered delivery.alert.ruleId failure]

/-- The scanner after an alert, which it has counted as taken over or as refused. -/
def counting (scanner : Scanner) (delivery : Delivery) : Scanner :=
  { scanner with counters := scanner.counters.map (Statistics.recordAlert delivery.accepted) }

/-- The pass that consists of the results of rules; `count` alerts were handed over before. -/
def finish (scanner : Scanner) (count : Nat) : List RuleResult → Pass
  | [] => { counters := scanner.counters }
  | result :: rest =>
    if result.raisesAlert then
      let delivery := scanner.deliver count result
      let later := (scanner.counting delivery).finish (count + 1) rest
      { later with
        findings := result.findings ++ later.findings
        deliveries := delivery :: later.deliveries
        notices := result.notices ++ deliveryNotices delivery ++ later.notices }
    else
      let later := scanner.finish count rest
      { later with
        findings := result.findings ++ later.findings
        notices := result.notices ++ later.notices }

def passRequest (scanner : Scanner) (count : Nat) (rules : RuleSet) (request : Request) :
    Pass × Request :=
  let captured := request.capture
  let (view, request) := captured.value
  let pass := scanner.finish count (rules.scanRequest view)
  ({ pass with notices := captured.notices ++ pass.notices }, request)

def passResponse (scanner : Scanner) (count : Nat) (rules : RuleSet) (response : Response) :
    Pass × Response :=
  let (view, response) := response.capture
  (scanner.finish count (rules.scanResponse view), response)

end Scanner

end HttpInspection
