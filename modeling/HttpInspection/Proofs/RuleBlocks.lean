import HttpInspection.Proofs.RuleHistories
import HttpInspection.Proofs.Scanning
import Mathlib.Data.List.Forall2

/-!
# What a scan gives, rule by rule

The findings of a scan are blocks, one for each rule that looks at the message, in the order of the
rules.  A block is what its rule gives when it is alone: in a request one finding for all that was
found in front of the body, in a response one for each match in the headers; then one for each text
found in the body, and one for each of its digests.
-/

set_option autoImplicit false

namespace HttpInspection

open Http

/-! ## Rules that were accepted -/

namespace Rule

theorem validate_mapModes (rule : Rule) (f : SearchMode → SearchMode)
    (compiles : ∀ mode, (f mode).compiles = mode.compiles) :
    (rule.mapModes f).validate = rule.validate := by
  have kept : (rule.mapModes f).id = rule.id := rfl
  have same : ((fun entry : String × SearchMode => !entry.2.compiles) ∘
      fun (path, mode) => (path, f mode)) = fun entry => !entry.2.compiles := by
    funext entry
    exact congrArg not (compiles entry.2)
  unfold validate
  rw [kept, searchModes_mapModes, List.find?_map, same]
  cases rule.searchModes.find? fun entry => !entry.2.compiles with
  | none => rfl
  | some entry => rfl

theorem validate_inheritEncodings (rule : Rule) :
    rule.inheritEncodings.validate = rule.validate := by
  rw [inheritEncodings_eq]
  exact rule.validate_mapModes _ fun _ => rfl

theorem inheritEncodings_inheritEncodings (rule : Rule) :
    rule.inheritEncodings.inheritEncodings = rule.inheritEncodings := by
  rw [inheritEncodings_eq rule.inheritEncodings, inheritEncodings_info, inheritEncodings_eq,
    mapModes_mapModes]
  refine congrArg (rule.mapModes ·) (funext fun mode => ?_)
  cases given : mode.encodings <;> simp [given]

end Rule

namespace RuleSet

section Accepted
variable (set : RuleSet) (built : set.Built)
include built

/-- A rule of a set has its encodings, and is still valid. -/
theorem accepted_of_mem (rule : Rule) (member : rule ∈ set.rules) :
    rule.inheritEncodings = rule ∧ rule.validate = .ok () := by
  induction built with
  | empty => simp at member
  | @add set grown added built accepted ih =>
      obtain ⟨valid, -, rfl⟩ := (add_eq_ok_iff set grown added).mp accepted
      rcases List.mem_append.mp member with before | last
      · exact ih before
      · rw [List.mem_singleton.mp last, Rule.inheritEncodings_inheritEncodings,
          Rule.validate_inheritEncodings]
        exact ⟨rfl, valid⟩

/-- A rule of a set is accepted by the empty set, and stays as it is. -/
theorem exists_alone (rule : Rule) (member : rule ∈ set.rules) :
    ∃ alone, RuleSet.add {} rule = .ok alone ∧ alone.rules = [rule] := by
  obtain ⟨stored, valid⟩ := set.accepted_of_mem built rule member
  refine ⟨_, (add_eq_ok_iff {} _ rule).mpr ⟨valid, rfl, rfl⟩, ?_⟩
  rw [stored, List.nil_append]

end Accepted

end RuleSet

/-! ## What a finding tells -/

namespace Finding

/-- A finding has the data of a rule, and no place. -/
structure ReportedBy (finding : Finding) (rule : Rule) : Prop where
  line : finding.line = -1
  lineIndex : finding.lineIndex = -1
  ruleId : finding.ruleId = rule.id
  ruleName : finding.ruleName = rule.info.name
  ruleDescription : finding.ruleDescription = rule.info.description
  classification : finding.classification = rule.info.classification
  severity : finding.severity = rule.info.severity

structure IsOfText (text : String) (finding : Finding) : Prop where
  matchedString : finding.matchedString = text
  length : finding.length = (bytesOf text).length
  noHash : finding.matchedBodyHash = none
  noAlgorithm : finding.matchedBodyHashAlg = none

structure IsOfDigest (found : HashAlgorithm × String) (finding : Finding) : Prop where
  matchedString : finding.matchedString = ""
  length : finding.length = (bytesOf found.2).length
  hash : finding.matchedBodyHash = some found.2
  algorithm : finding.matchedBodyHashAlg = some found.1

theorem ofRule_reportedBy (rule : Rule) (text : String) : (ofRule rule text).ReportedBy rule :=
  ⟨rfl, rfl, rfl, rfl, rfl, rfl, rfl⟩

theorem ofHash_reportedBy (rule : Rule) (algorithm : HashAlgorithm) (digest : String) :
    (ofHash rule algorithm digest).ReportedBy rule :=
  ⟨rfl, rfl, rfl, rfl, rfl, rfl, rfl⟩

end Finding

/-! ## Blocks -/

namespace Rule

/-- A block of findings of a rule: one for each of some texts in front of the body, then one for
each text found in the body, then one for each of its digests. -/
structure IsBlock (rule : Rule) (texts : List String) (found : BodyMatches)
    (block : List Finding) : Prop where
  parts : ∃ inFront inBody digests, block = inFront ++ inBody ++ digests ∧
    List.Forall₂ Finding.IsOfText texts inFront ∧
    List.Forall₂ Finding.IsOfText found.text inBody ∧
    List.Forall₂ Finding.IsOfDigest found.hashes digests
  reported : ∀ finding ∈ block, finding.ReportedBy rule

theorem forall_isOfText (rule : Rule) (texts : List String) :
    List.Forall₂ Finding.IsOfText texts (texts.map (Finding.ofRule rule)) :=
  List.forall₂_map_right_iff.mpr (List.forall₂_same.mpr fun _ _ => ⟨rfl, rfl, rfl, rfl⟩)

theorem isBlock_findings (rule : Rule) (texts : List String) (found : BodyMatches) :
    rule.IsBlock texts found (texts.map (Finding.ofRule rule) ++ rule.bodyFindings found) where
  parts := by
    refine ⟨texts.map (Finding.ofRule rule), found.text.map (Finding.ofRule rule),
      found.hashes.map fun hash => Finding.ofHash rule hash.1 hash.2, ?_,
      rule.forall_isOfText texts, rule.forall_isOfText found.text, ?_⟩
    · rw [List.append_assoc]
      rfl
    · exact List.forall₂_map_right_iff.mpr
        (List.forall₂_same.mpr fun _ _ => ⟨rfl, rfl, rfl, rfl⟩)
  reported := by
    intro finding member
    simp only [bodyFindings, List.mem_append, List.mem_map] at member
    rcases member with ⟨text, -, rfl⟩ | ⟨text, -, rfl⟩ | ⟨hash, -, rfl⟩
    · exact Finding.ofRule_reportedBy rule text
    · exact Finding.ofRule_reportedBy rule text
    · exact Finding.ofHash_reportedBy rule hash.1 hash.2

theorem countP_of_texts {texts : List String} {findings : List Finding}
    (ofTexts : List.Forall₂ Finding.IsOfText texts findings) :
    findings.countP (fun finding => !finding.isHash) = texts.length := by
  induction ofTexts with
  | nil => rfl
  | cons first _ ih =>
      rw [List.countP_cons, ih]
      simp [Finding.isHash, first.noHash]

theorem countP_of_digests {hashes : List (HashAlgorithm × String)} {findings : List Finding}
    (ofDigests : List.Forall₂ Finding.IsOfDigest hashes findings) :
    findings.countP (fun finding => !finding.isHash) = 0 := by
  induction ofDigests with
  | nil => rfl
  | cons first _ ih =>
      rw [List.countP_cons, ih]
      simp [Finding.isHash, first.hash]

theorem IsBlock.countP_textual {rule : Rule} {texts : List String} {found : BodyMatches}
    {block : List Finding} (isBlock : rule.IsBlock texts found block) :
    block.countP (fun finding => !finding.isHash) = texts.length + found.text.length := by
  obtain ⟨inFront, inBody, digests, rfl, front, body, hashes⟩ := isBlock.parts
  rw [List.countP_append, List.countP_append, countP_of_texts front, countP_of_texts body,
    countP_of_digests hashes, Nat.add_zero]

structure IsRequestBlock (rule : Rule) (view : RequestView) (matchers : RequestMatchers)
    (block : List Finding) : Prop where
  isBlock : rule.IsBlock (matchers.headMatches view).head?.toList
    (matchBody view.body matchers.body).value block
  textual : matchers.headMatches view ≠ [] →
    block.countP (fun finding => !finding.isHash) =
      1 + (matchBody view.body matchers.body).value.text.length

def IsResponseBlock (rule : Rule) (view : ResponseView) (matchers : ResponseMatchers)
    (block : List Finding) : Prop :=
  rule.IsBlock (matchHeaders view.headers matchers.headers).value
    (matchBody view.body matchers.body).value block

theorem scanRequest_isRequestBlock (rule : Rule) (view : RequestView) (matchers : RequestMatchers)
    (looks : rule.request = some matchers) :
    ∃ result, rule.scanRequest view = some result ∧
      rule.IsRequestBlock view matchers result.findings := by
  refine (rule.exists_scanRequest_iff view (rule.IsRequestBlock view matchers)).mpr
    ⟨matchers, looks, ?_⟩
  have isBlock := rule.isBlock_findings (matchers.headMatches view).head?.toList
    (matchBody view.body matchers.body).value
  refine ⟨isBlock, fun some => ?_⟩
  obtain ⟨first, rest, shape⟩ := List.exists_cons_of_ne_nil some
  rw [isBlock.countP_textual, shape]
  rfl

theorem scanResponse_isResponseBlock (rule : Rule) (view : ResponseView)
    (matchers : ResponseMatchers) (looks : rule.response = some matchers) :
    ∃ result, rule.scanResponse view = some result ∧
      rule.IsResponseBlock view matchers result.findings :=
  (rule.exists_scanResponse_iff view (rule.IsResponseBlock view matchers)).mpr
    ⟨matchers, looks, rule.isBlock_findings _ _⟩

/-- A block is what a set with a rule alone gives, whoever scans. -/
def GivesAlone (rule : Rule) (scan : RuleSet → List RuleResult) (block : List Finding) : Prop :=
  ∃ alone, RuleSet.add {} rule = .ok alone ∧ alone.rules = [rule] ∧
    ∀ (scanner : Scanner) (count : Nat), (scanner.finish count (scan alone)).findings = block

end Rule

/-! ## Scans -/

namespace RuleSet

section Scan
variable (scan : Rule → Option RuleResult) (looks : Rule → Bool)
  (skips : ∀ rule, looks rule = false → scan rule = none)
include skips

/-- The results of a scan go with the rules that look at the message. -/
theorem forall₂_filterMap (p : Rule → List Finding → Prop) (rules : List Rule)
    (gives : ∀ rule ∈ rules, looks rule = true →
      ∃ result, scan rule = some result ∧ p rule result.findings) :
    List.Forall₂ p (rules.filter looks) ((rules.filterMap scan).map RuleResult.findings) := by
  induction rules with
  | nil => exact .nil
  | cons rule rest ih =>
      have later := ih fun other member => gives other (List.mem_cons_of_mem _ member)
      by_cases looking : looks rule = true
      · obtain ⟨result, scanned, holds⟩ := gives rule List.mem_cons_self looking
        rw [List.filter_cons_of_pos looking, List.filterMap_cons_some scanned, List.map_cons]
        exact .cons holds later
      · have skipped := skips rule (by simpa using looking)
        rw [List.filter_cons_of_neg looking, List.filterMap_cons_none skipped]
        exact later

/-- What each rule gives, it gives in the set and alone. -/
theorem exists_blocks (scanner : Scanner) (count : Nat) (set : RuleSet) (built : set.Built)
    (p : Rule → List Finding → Prop)
    (gives : ∀ rule, looks rule = true →
      ∃ result, scan rule = some result ∧ p rule result.findings) :
    ∃ blocks, (scanner.finish count (set.rules.filterMap scan)).findings = blocks.flatten ∧
      List.Forall₂ (fun rule block =>
          p rule block ∧ rule.GivesAlone (fun alone => alone.rules.filterMap scan) block)
        (set.rules.filter looks) blocks := by
  refine ⟨(set.rules.filterMap scan).map RuleResult.findings, ?_, ?_⟩
  · rw [Scanner.finish_findings, List.flatMap_def]
  · -- A rule of the set is stored with its encodings, so it can be offered to the empty set again.
    refine forall₂_filterMap scan looks skips _ set.rules ?_
    intro rule member looking
    obtain ⟨result, scanned, holds⟩ := gives rule looking
    obtain ⟨alone, accepted, only⟩ := set.exists_alone built rule member
    refine ⟨result, scanned, holds, alone, accepted, only, ?_⟩
    intro other number
    simp [Scanner.finish_findings, only, scanned]

end Scan

end RuleSet

/-- A scan gives one block for each rule that looks at the message, in the order of the rules, and
each block is what its rule gives alone. -/
theorem rules_scanned_one_by_one (scanner : Scanner) (count : Nat) (set : RuleSet)
    (built : set.Built) :
    (∀ view : RequestView, ∃ blocks,
      (scanner.finish count (set.scanRequest view)).findings = blocks.flatten ∧
      List.Forall₂ (fun rule block =>
          (∃ matchers, rule.request = some matchers ∧ rule.IsRequestBlock view matchers block) ∧
          rule.GivesAlone (fun alone => alone.scanRequest view) block)
        (set.rules.filter fun rule => rule.request.isSome) blocks) ∧
    (∀ view : ResponseView, ∃ blocks,
      (scanner.finish count (set.scanResponse view)).findings = blocks.flatten ∧
      List.Forall₂ (fun rule block =>
          (∃ matchers, rule.response = some matchers ∧ rule.IsResponseBlock view matchers block) ∧
          rule.GivesAlone (fun alone => alone.scanResponse view) block)
        (set.rules.filter fun rule => rule.response.isSome) blocks) := by
  constructor
  · intro view
    refine RuleSet.exists_blocks (fun rule => rule.scanRequest view) _ ?_
      scanner count set built _ ?_
    · intro rule looksNot
      simpa [Rule.scanRequest] using looksNot
    · intro rule looks
      obtain ⟨matchers, given⟩ := Option.isSome_iff_exists.mp looks
      obtain ⟨result, scanned, isBlock⟩ := rule.scanRequest_isRequestBlock view matchers given
      exact ⟨result, scanned, matchers, given, isBlock⟩
  · intro view
    refine RuleSet.exists_blocks (fun rule => rule.scanResponse view) _ ?_
      scanner count set built _ ?_
    · intro rule looksNot
      simpa [Rule.scanResponse] using looksNot
    · intro rule looks
      obtain ⟨matchers, given⟩ := Option.isSome_iff_exists.mp looks
      obtain ⟨result, scanned, isBlock⟩ := rule.scanResponse_isResponseBlock view matchers given
      exact ⟨result, scanned, matchers, given, isBlock⟩

/-- A rule that finds something in the method, in the target and in a header, and two texts and a
digest in the body; a rule that looks at responses only; and a rule for targets. -/
def layeredRules : RuleSet :=
  List.foldl RuleSet.offer {}
    [{ id := "layered", info := { severity := .low },
        request := some
          { method := some { literal := "get" }
            url := [{ literal := "x" }]
            headers := [{ name := "tag", mode := { literal := "x" } }]
            body :=
              [{ mode := { literal := "A" }, md5sum := some "0cc175b9c0f1b6a831c399e269772661" },
                { mode := { literal := "a" } }] } },
      { id := "responses", info := { severity := .low },
        response := some { headers := [{ name := "tag", mode := { literal := "x" } }] } },
      { id := "targets", info := { severity := .low },
        request := some { url := [{ literal := "X" }] } }]

/-- A request that both rules for requests match. -/
def layeredView : RequestView where
  method := "GET"
  target := "/x"
  headers := [("tag", ["x", "xx"])]
  query := []
  form := []
  body := [97]

theorem rules_scanned_one_by_one_layered :
    layeredRules.Built ∧
      (∃ blocks,
        (({} : Scanner).finish 0 (layeredRules.scanRequest layeredView)).findings = blocks.flatten ∧
        List.Forall₂ (fun rule block =>
            (∃ matchers, rule.request = some matchers ∧
              rule.IsRequestBlock layeredView matchers block) ∧
            rule.GivesAlone (fun alone => alone.scanRequest layeredView) block)
          (layeredRules.rules.filter fun rule => rule.request.isSome) blocks) ∧
      ((({} : Scanner).finish 0 (layeredRules.scanRequest layeredView)).findings.map fun finding =>
          (finding.ruleId, finding.matchedString)) =
        [("layered", "get"), ("layered", "A"), ("layered", "a"), ("layered", ""),
          ("targets", "X")] := by
  have built : layeredRules.Built := RuleSet.built_offers {} .empty _
  exact ⟨built, (rules_scanned_one_by_one {} 0 layeredRules built).1 layeredView, by decide +kernel⟩

end HttpInspection
