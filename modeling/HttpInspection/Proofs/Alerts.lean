import HttpInspection.Exchange
import HttpInspection.Proofs.RuleSets
import HttpInspection.Proofs.Scanning
import Mathlib.Data.List.Basic

/-!
# Which alerts a pass raises

A pass hands one alert to the sink for each rule of high or critical severity that has a finding in
what the pass gives, in the order of the rules.  The answers of the sink have no influence on the
findings; but a scanner with counters has counted each of them when the pass is over.
-/

set_option autoImplicit false

namespace HttpInspection

open Http

/-! ## The alerts that are due -/

namespace Rule

/-- A rule is of high or critical severity. -/
def IsGrave (rule : Rule) : Prop :=
  rule.info.severity = .high ∨ rule.info.severity = .critical

instance (rule : Rule) : Decidable rule.IsGrave :=
  inferInstanceAs (Decidable (_ ∨ _))

def FoundIn (rule : Rule) (findings : List Finding) : Prop :=
  ∃ finding ∈ findings, finding.ruleId = rule.id

instance (rule : Rule) (findings : List Finding) : Decidable (rule.FoundIn findings) :=
  inferInstanceAs (Decidable (∃ finding ∈ findings, finding.ruleId = rule.id))

end Rule

/-- The alerts that are due for findings: one for each grave rule that has any, in order. -/
def RuleSet.alertsDue (set : RuleSet) (agentId : String) (findings : List Finding) : List Alert :=
  (set.rules.filter fun rule => rule.IsGrave ∧ rule.FoundIn findings).map fun rule =>
    { agentId
      ruleId := rule.id
      ruleName := rule.info.name
      ruleDescription := rule.info.description
      classification := rule.info.classification
      severity := rule.info.severity }

theorem RuleResult.raisesAlert_iff (result : RuleResult) :
    result.raisesAlert = true ↔ result.rule.IsGrave ∧ result.findings ≠ [] := by
  have grave : result.rule.info.severity.raisesAlert = true ↔ result.rule.IsGrave := by
    unfold Rule.IsGrave
    cases result.rule.info.severity <;> decide
  rw [raisesAlert, Bool.and_eq_true, grave, and_comm]
  simp

/-! ## Rules and their findings -/

namespace Rule

theorem scanRequest_rule (rule : Rule) (view : RequestView) (result : RuleResult)
    (scanned : rule.scanRequest view = some result) : result.rule = rule := by
  obtain ⟨matchers, -, rfl⟩ := Option.map_eq_some_iff.mp scanned
  rfl

theorem scanResponse_rule (rule : Rule) (view : ResponseView) (result : RuleResult)
    (scanned : rule.scanResponse view = some result) : result.rule = rule := by
  obtain ⟨matchers, -, rfl⟩ := Option.map_eq_some_iff.mp scanned
  rfl

end Rule

namespace RuleSet

theorem eq_of_same_id (set : RuleSet) (built : set.Built) (one other : Rule)
    (oneIn : one ∈ set.rules) (otherIn : other ∈ set.rules) (same : one.id = other.id) :
    one = other := by
  have found := get_of_mem set built one oneIn
  rw [same, get_of_mem set built other otherIn] at found
  exact (Option.some.inj found).symm

section Scan
variable (set : RuleSet) (built : set.Built) (scan : Rule → Option RuleResult)
  (own : ∀ rule result, scan rule = some result →
    ∀ finding ∈ result.findings, finding.ruleId = rule.id)
include built own

/-- Identifiers are distinct, so that a rule has a finding in a scan only on its own account. -/
theorem foundIn_scan_iff (rule : Rule) (inSet : rule ∈ set.rules) :
    rule.FoundIn ((set.rules.filterMap scan).flatMap RuleResult.findings) ↔
      ∃ result, scan rule = some result ∧ result.findings ≠ [] := by
  constructor
  · rintro ⟨finding, member, ofRule⟩
    obtain ⟨result, scanned, inResult⟩ := List.mem_flatMap.mp member
    obtain ⟨other, otherIn, ofOther⟩ := List.mem_filterMap.mp scanned
    have same : other.id = rule.id := (own other result ofOther finding inResult).symm.trans ofRule
    rw [set.eq_of_same_id built other rule otherIn inSet same] at ofOther
    exact ⟨result, ofOther, List.ne_nil_of_mem inResult⟩
  · rintro ⟨result, scanned, some⟩
    obtain ⟨finding, inResult⟩ := List.exists_mem_of_ne_nil _ some
    have inScan : result ∈ set.rules.filterMap scan := List.mem_filterMap.mpr ⟨rule, inSet, scanned⟩
    exact ⟨finding, List.mem_flatMap.mpr ⟨result, inScan, inResult⟩,
      own rule result scanned finding inResult⟩

theorem alerts_of_scan (agentId : String)
    (ofRule : ∀ rule result, scan rule = some result → result.rule = rule) :
    ((set.rules.filterMap scan).filter RuleResult.raisesAlert).map
        (fun result => Alert.ofRule agentId result.rule) =
      set.alertsDue agentId ((set.rules.filterMap scan).flatMap RuleResult.findings) := by
  have found := set.foundIn_scan_iff built scan own
  generalize (set.rules.filterMap scan).flatMap RuleResult.findings = findings at found
  rw [alertsDue, List.filter_filterMap, List.map_filterMap, ← List.filterMap_eq_filter,
    List.map_filterMap]
  refine List.filterMap_congr fun rule inSet => ?_
  have due := found rule inSet
  cases scanned : scan rule with
  | none =>
      have absent : ¬ rule.FoundIn findings := by simp [due, scanned]
      simp [Option.guard, absent]
  | some result =>
      have same := ofRule rule result scanned
      have raises : result.raisesAlert = true ↔ rule.IsGrave ∧ rule.FoundIn findings := by
        rw [result.raisesAlert_iff, due, same, scanned]
        simp
      by_cases alerted : result.raisesAlert = true
      · simp [Option.guard, alerted, raises.mp alerted, same, Alert.ofRule]
      · simp [Option.guard, alerted, mt raises.mpr alerted]

end Scan

end RuleSet

/-! ## What a pass delivers -/

namespace Scanner

/-- The deliveries of alerts that have numbers from `count` on. -/
def deliverAll (scanner : Scanner) (count : Nat) (alerts : List Alert) : List Delivery :=
  (alerts.zipIdx count).map fun (alert, number) => ⟨alert, scanner.sink number alert⟩

theorem deliverAll_alerts (scanner : Scanner) (count : Nat) (alerts : List Alert) :
    (scanner.deliverAll count alerts).map Delivery.alert = alerts := by
  rw [deliverAll, List.map_map]
  exact List.zipIdx_map_fst count alerts

theorem deliverAll_cons (scanner : Scanner) (count : Nat) (alert : Alert) (rest : List Alert) :
    scanner.deliverAll count (alert :: rest) =
      ⟨alert, scanner.sink count alert⟩ :: scanner.deliverAll (count + 1) rest := rfl

theorem finish_deliveries (scanner : Scanner) (results : List RuleResult) (count : Nat) :
    (scanner.finish count results).deliveries =
      scanner.deliverAll count ((results.filter RuleResult.raisesAlert).map fun result =>
        Alert.ofRule scanner.agentId result.rule) := by
  induction results generalizing scanner count with
  | nil => rfl
  | cons result rest ih =>
      by_cases raises : result.raisesAlert = true
      · rw [List.filter_cons_of_pos raises, List.map_cons, deliverAll_cons, finish, if_pos raises]
        exact congrArg _ (ih _ _)
      · rw [List.filter_cons_of_neg raises, finish, if_neg raises, ← ih]

theorem passRequest_deliverAll (scanner : Scanner) (count : Nat) (set : RuleSet)
    (request : Request) :
    (scanner.passRequest count set request).1.deliveries =
      scanner.deliverAll count (((set.scanRequest request.view).filter RuleResult.raisesAlert).map
        fun result => Alert.ofRule scanner.agentId result.rule) := by
  simp only [passRequest, request.capture_eq, finish_deliveries]

theorem passResponse_deliverAll (scanner : Scanner) (count : Nat) (set : RuleSet)
    (response : Response) :
    (scanner.passResponse count set response).1.deliveries =
      scanner.deliverAll count (((set.scanResponse response.view).filter RuleResult.raisesAlert).map
        fun result => Alert.ofRule scanner.agentId result.rule) := by
  simp only [passResponse, response.capture_eq, finish_deliveries]

section Pass
variable (scanner : Scanner) (count : Nat) (set : RuleSet) (built : set.Built)
include built

theorem passRequest_deliveries (request : Request) :
    (scanner.passRequest count set request).1.deliveries =
      scanner.deliverAll count (set.alertsDue scanner.agentId
        (scanner.passRequest count set request).1.findings) := by
  rw [passRequest_deliverAll, passRequest_findings, RuleSet.scanRequest,
    set.alerts_of_scan built (fun rule => rule.scanRequest request.view)
      (fun rule => rule.ruleId_of_mem_scanRequest _) _ (fun rule => rule.scanRequest_rule _)]

theorem passResponse_deliveries (response : Response) :
    (scanner.passResponse count set response).1.deliveries =
      scanner.deliverAll count (set.alertsDue scanner.agentId
        (scanner.passResponse count set response).1.findings) := by
  rw [passResponse_deliverAll, passResponse_findings, RuleSet.scanResponse,
    set.alerts_of_scan built (fun rule => rule.scanResponse response.view)
      (fun rule => rule.ruleId_of_mem_scanResponse _) _ (fun rule => rule.scanResponse_rule _)]

end Pass

end Scanner

theorem RuleSet.nodup_alertsDue (set : RuleSet) (built : set.Built) (agentId : String)
    (findings : List Finding) : ((set.alertsDue agentId findings).map Alert.ruleId).Nodup := by
  rw [alertsDue, List.map_map]
  exact (List.filter_sublist.map Rule.id).nodup (nodup_ids_of_built set built)

/-! ## Counting alerts -/

namespace Statistics

/-- Counters after alerts, each of which was counted as taken over or as refused. -/
def withDeliveries (deliveries : List Delivery) (s : Statistics) : Statistics :=
  { s with
    alertsSent := s.alertsSent + (deliveries.countP Delivery.accepted).toUInt64
    alertsFailed :=
      s.alertsFailed + (deliveries.countP fun delivery => !delivery.accepted).toUInt64 }

theorem withDeliveries_nil (s : Statistics) : s.withDeliveries [] = s := by
  simp [withDeliveries]

theorem withDeliveries_cons (delivery : Delivery) (rest : List Delivery) (s : Statistics) :
    s.withDeliveries (delivery :: rest) =
      (s.recordAlert delivery.accepted).withDeliveries rest := by
  have grown (counter more : UInt64) : counter + (more + 1) = counter + 1 + more := by
    rw [UInt64.add_comm more, UInt64.add_assoc]
  cases accepted : delivery.accepted with
  | true => simp [withDeliveries, recordAlert, accepted, grown]
  | false => simp [withDeliveries, recordAlert, accepted, grown]

/-- Counters that count nothing but alerts add just these. -/
theorem add_withDeliveries (deliveries : List Delivery) (s : Statistics) :
    s + withDeliveries deliveries {} = s.withDeliveries deliveries := by
  change s.add _ = _
  simp [add, withDeliveries]

end Statistics

namespace Scanner

/-- Each alert is counted on top of those before it. -/
theorem finish_counters (scanner : Scanner) (results : List RuleResult) (count : Nat) :
    (scanner.finish count results).counters =
      scanner.counters.map (Statistics.withDeliveries (scanner.finish count results).deliveries) := by
  induction results generalizing scanner count with
  | nil =>
      have same : Statistics.withDeliveries [] = id := funext Statistics.withDeliveries_nil
      simp only [finish, same, Option.map_id, id]
  | cons result rest ih =>
      by_cases raises : result.raisesAlert = true
      · simp only [finish, if_pos raises, ih, counting, Option.map_map]
        congr 1
        funext s
        rw [Function.comp_apply, Statistics.withDeliveries_cons]
      · simp only [finish, if_neg raises, ih]

theorem passRequest_counters (scanner : Scanner) (count : Nat) (set : RuleSet)
    (request : Request) :
    (scanner.passRequest count set request).1.counters =
      scanner.counters.map
        (Statistics.withDeliveries (scanner.passRequest count set request).1.deliveries) :=
  scanner.finish_counters _ count

theorem passResponse_counters (scanner : Scanner) (count : Nat) (set : RuleSet)
    (response : Response) :
    (scanner.passResponse count set response).1.counters =
      scanner.counters.map
        (Statistics.withDeliveries (scanner.passResponse count set response).1.deliveries) :=
  scanner.finish_counters _ count

end Scanner

/-- A pass has raised the alerts that are due for its findings, for no rule twice; and if the
scanner has counters, they have grown by the number of alerts that were taken over and by that of
those that were refused, and by nothing else. -/
structure Pass.RaisesAlertsDue (pass : Pass) (scanner : Scanner) (count : Nat) (set : RuleSet) :
    Prop where
  raised : pass.deliveries =
    scanner.deliverAll count (set.alertsDue scanner.agentId pass.findings)
  once : (pass.deliveries.map fun delivery => delivery.alert.ruleId).Nodup
  counted : pass.counters =
    scanner.counters.map fun s =>
      { s with
        alertsSent := s.alertsSent + (pass.deliveries.countP Delivery.accepted).toUInt64
        alertsFailed :=
          s.alertsFailed + (pass.deliveries.countP fun delivery => !delivery.accepted).toUInt64 }

theorem Pass.raisesAlertsDue_of_raised (pass : Pass) (scanner : Scanner) (count : Nat)
    (set : RuleSet) (built : set.Built)
    (raised : pass.deliveries =
      scanner.deliverAll count (set.alertsDue scanner.agentId pass.findings))
    (counted : pass.counters = scanner.counters.map (Statistics.withDeliveries pass.deliveries)) :
    pass.RaisesAlertsDue scanner count set := by
  refine ⟨raised, ?_, counted⟩
  have alerts := scanner.deliverAll_alerts count (set.alertsDue scanner.agentId pass.findings)
  rw [← raised] at alerts
  have ids : (pass.deliveries.map fun delivery => delivery.alert.ruleId) =
      (pass.deliveries.map Delivery.alert).map Alert.ruleId := by
    rw [List.map_map]
    rfl
  rw [ids, alerts]
  exact set.nodup_alertsDue built _ _

/-- A pass over a request or a response raises exactly the alerts that are due for its findings,
whatever the sink answers, and counts the answers; and neither they nor the counters have any
influence on the findings. -/
theorem pass_raises_alerts_due (scanner : Scanner) (count : Nat) (set : RuleSet)
    (built : set.Built) :
    (∀ request : Request,
      let pass := (scanner.passRequest count set request).1
      pass.RaisesAlertsDue scanner count set ∧
        ∀ (sink : AlertSink) (counters : Option Statistics),
          ({ scanner with sink, counters }.passRequest count set request).1.findings =
            pass.findings) ∧
    (∀ response : Response,
      let pass := (scanner.passResponse count set response).1
      pass.RaisesAlertsDue scanner count set ∧
        ∀ (sink : AlertSink) (counters : Option Statistics),
          ({ scanner with sink, counters }.passResponse count set response).1.findings =
            pass.findings) := by
  constructor
  · intro request pass
    have raised := scanner.passRequest_deliveries count set built request
    have counted := scanner.passRequest_counters count set request
    refine ⟨pass.raisesAlertsDue_of_raised scanner count set built raised counted, ?_⟩
    intro sink counters
    simp only [pass, Scanner.passRequest_findings]
  · intro response pass
    have raised := scanner.passResponse_deliveries count set built response
    have counted := scanner.passResponse_counters count set response
    refine ⟨pass.raisesAlertsDue_of_raised scanner count set built raised counted, ?_⟩
    intro sink counters
    simp only [pass, Scanner.passResponse_findings]

/-- A rule of low severity that matches, a grave one that does not, one that matches twice, and one
that asks for a digest. -/
def alertingRules : RuleSet :=
  List.foldl RuleSet.offer {}
    [{ id := "low", info := { severity := .low }, request := some { url := [{ literal := "x" }] } },
      { id := "silent", info := { severity := .high }
        request := some { url := [{ literal := "nowhere" }] } },
      { id := "twice", info := { severity := .high }
        request := some { url := [{ literal := "x" }], body := [{ mode := { literal := "a" } }] } },
      { id := "digest", info := { severity := .critical }
        request := some { body := [{ md5sum := some "0cc175b9c0f1b6a831c399e269772661" }] } }]

/-- A scanner whose alerts are refused from the second one on, and which has counted before. -/
def refusedScanner : Scanner where
  agentId := "agent"
  sink := fun number _ => if number = 0 then .ok () else .error (.alertRefused "full")
  counters := some { inspected := 7, alertsSent := 4 }

theorem pass_raises_alerts_due_refused :
    alertingRules.Built ∧
      let pass := (refusedScanner.passRequest 0 alertingRules
        { uri := { path := "/x" }, body := ⟨[97], 0⟩ }).1
      (pass.deliveries.map fun delivery => (delivery.alert.ruleId, delivery.accepted)) =
          [("twice", true), ("digest", false)] ∧
        pass.counters = some { inspected := 7, alertsSent := 5, alertsFailed := 1 } := by
  have built : alertingRules.Built := RuleSet.built_offers {} .empty _
  obtain ⟨⟨raised, -, counted⟩, -⟩ := (pass_raises_alerts_due refusedScanner 0 alertingRules built).1
    { uri := { path := "/x" }, body := ⟨[97], 0⟩ }
  refine ⟨built, ?_, ?_⟩
  · rw [raised]
    decide +kernel
  · rw [counted, raised]
    decide +kernel

end HttpInspection
