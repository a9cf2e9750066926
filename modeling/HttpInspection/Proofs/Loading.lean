import HttpInspection.Proofs.Inspection
import HttpInspection.Proofs.RuleSets

/-!
# What agents are loaded with

The rules of a directory are added one by one, so that every set that is loaded is one that
additions lead to; and the validators that settings call for leave messages as they find them.
-/

set_option autoImplicit false

namespace HttpInspection

namespace RuleSet

theorem addFile_eq_ok (set grown : RuleSet) (path : String) (bytes : List UInt8)
    (taken : set.addFile path bytes = .ok grown) : ∃ rule, set.add rule = .ok grown := by
  unfold addFile at taken
  cases read : readRuleFile path bytes with
  | error failure =>
      rw [read] at taken
      cases taken
  | ok rule =>
      rw [read] at taken
      cases added : set.add rule with
      | error fault => simp [bind, Except.bind, added] at taken
      | ok other =>
          simp only [bind, Except.bind, added, Except.ok.injEq] at taken
          exact ⟨rule, taken ▸ added⟩

end RuleSet

namespace Loaded

theorem built_visit (loaded : Loaded) (visit : Visit) (built : loaded.rules.Built) :
    (loaded.visit visit).value.rules.Built := by
  cases visit with
  | ignoredDirectory path => exact built
  | otherFile path => exact built
  | ruleFile path bytes =>
      cases taken : loaded.rules.addFile path bytes with
      | error failure =>
          simp only [Loaded.visit, taken]
          exact built
      | ok grown =>
          obtain ⟨rule, added⟩ := loaded.rules.addFile_eq_ok grown path bytes taken
          simp only [Loaded.visit, taken]
          exact .add built added

theorem built_visitAll (loaded : Loaded) (visits : List Visit) (built : loaded.rules.Built) :
    (loaded.visitAll visits).value.rules.Built := by
  induction visits generalizing loaded with
  | nil => exact built
  | cons visit rest ih => exact ih _ (loaded.built_visit visit built)

end Loaded

theorem RuleSource.built_load (source : RuleSource) (files : FileTree) (rules : RuleSet)
    (loaded : (source.load files).value = .ok rules) : rules.Built := by
  unfold load at loaded
  split at loaded
  · cases loaded
    exact Loaded.built_visitAll {} _ .empty
  · cases loaded

namespace Agent

theorem withBlacklist_value (agent : Agent) (files : FileTree) :
    (agent.withBlacklist files).value = agent ∨
      ∃ blacklist : UserAgentBlacklist,
        (agent.withBlacklist files).value = agent.withValidator blacklist.validator := by
  unfold withBlacklist
  split
  · exact .inl rfl
  · split
    · exact .inr ⟨_, rfl⟩
    · exact .inl rfl

theorem withForbiddenPage_value (agent : Agent) (files : FileTree) :
    ∃ page, (agent.withForbiddenPage files).value = { agent with forbiddenPage := page } := by
  unfold withForbiddenPage
  split
  · exact ⟨_, rfl⟩
  · split
    · exact ⟨_, rfl⟩
    · exact ⟨_, rfl⟩

/-- An agent that settings describe has rules that additions lead to, and only validators that leave
messages as they find them. -/
theorem ofSettings_built_leaving (agentId : String) (settings : InspectionSettings) (files : FileTree)
    (agent : Agent) (started : (ofSettings agentId settings files).value = .ok agent) :
    agent.rules.Built ∧ ∀ validator ∈ agent.validators, validator.LeavesMessages := by
  unfold ofSettings at started
  cases loaded : (settings.ruleSource.load files).value with
  | error failure =>
      simp [bind, loaded, pure] at started
  | ok rules =>
      let fresh : Agent := { agentId, settings, rules }
      obtain ⟨page, paged⟩ := (fresh.withBlacklist files).value.withForbiddenPage_value files
      simp only [bind, loaded, pure, Except.ok.injEq] at started
      rw [paged] at started
      subst started
      have built := settings.ruleSource.built_load files rules loaded
      rcases fresh.withBlacklist_value files with same | ⟨blacklist, guarded⟩
      · rw [same]
        exact ⟨built, fun _ member => absurd member List.not_mem_nil⟩
      · rw [guarded]
        refine ⟨built, ?_⟩
        intro validator member
        rw [List.mem_singleton.mp member]
        exact blacklist.validator_leavesMessages

end Agent

end HttpInspection
