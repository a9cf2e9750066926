import HttpInspection.Position

/-!
# How a list of findings is resolved

Each finding of a list has its own fate: it needs no place, or it gets the place of its text in the
raw exchange, or it is dropped with a warning.  What is left is in the order of the list and differs
from it in places only, and resolving it once more, in whatever text, changes nothing.
-/

set_option autoImplicit false

namespace HttpInspection

namespace Finding

/-- A finding needs no place: it has a digest, or it has a place. -/
def Settled (finding : Finding) : Prop :=
  finding.matchedBodyHash ≠ none ∨ (0 ≤ finding.line ∧ 0 ≤ finding.lineIndex)

/-- A finding but for its place. -/
def withoutPlace (finding : Finding) : Finding :=
  { finding with line := -1, lineIndex := -1 }

theorem isResolved_iff (finding : Finding) : finding.isResolved = true ↔ finding.Settled := by
  simp [isResolved, isHash, Settled, Option.isSome_iff_ne_none]

theorem resolve_of_settled (raw : String) (finding : Finding) (settled : finding.Settled) :
    finding.resolve? raw = some finding := by
  rw [resolve?, if_pos ((isResolved_iff finding).mpr settled)]

theorem resolve_of_unsettled (raw : String) (finding : Finding) (unsettled : ¬ finding.Settled) :
    finding.resolve? raw =
      (locate raw finding.matchedString).map fun place =>
        { finding with line := place.1, lineIndex := place.2 } := by
  rw [resolve?, if_neg fun resolved => unsettled ((isResolved_iff finding).mp resolved)]
  rfl

end Finding

/-- The fates of the findings of a list, one by one: which of them are kept, with which places, and
what is told about the others. -/
inductive Resolution (raw : String) : List Finding → List Finding → List Notice → Prop where
  | nil : Resolution raw [] [] []
  | settled {finding : Finding} {rest kept : List Finding} {notices : List Notice}
      (settled : finding.Settled) (later : Resolution raw rest kept notices) :
      Resolution raw (finding :: rest) (finding :: kept) notices
  | placed {finding : Finding} {rest kept : List Finding} {notices : List Notice}
      {line offset : Nat} (unsettled : ¬ finding.Settled)
      (found : locate raw finding.matchedString = some (line, offset))
      (later : Resolution raw rest kept notices) :
      Resolution raw (finding :: rest)
        ({ finding with line := line, lineIndex := offset } :: kept) notices
  | dropped {finding : Finding} {rest kept : List Finding} {notices : List Notice}
      (unsettled : ¬ finding.Settled) (missed : locate raw finding.matchedString = none)
      (later : Resolution raw rest kept notices) :
      Resolution raw (finding :: rest) kept
        (.findingDropped finding.ruleId (.unlocated finding.matchedString) :: notices)

/-! ## One finding more -/

theorem resolveAll_cons_kept (raw : String) (finding kept : Finding) (rest : List Finding)
    (resolved : finding.resolve? raw = some kept) :
    resolveAll raw (finding :: rest) =
      ⟨kept :: (resolveAll raw rest).value, (resolveAll raw rest).notices⟩ := by
  simp [resolveAll, resolved]

theorem resolveAll_cons_dropped (raw : String) (finding : Finding) (rest : List Finding)
    (missed : finding.resolve? raw = none) :
    resolveAll raw (finding :: rest) =
      ⟨(resolveAll raw rest).value, finding.droppedNotice :: (resolveAll raw rest).notices⟩ := by
  simp [resolveAll, missed]

theorem resolveAll_append (raw : String) (front back : List Finding) :
    resolveAll raw (front ++ back) =
      ⟨(resolveAll raw front).value ++ (resolveAll raw back).value,
        (resolveAll raw front).notices ++ (resolveAll raw back).notices⟩ := by
  simp only [resolveAll, List.filterMap_append, List.filter_append, List.map_append]

theorem resolveAll_of_settled (raw : String) (findings : List Finding)
    (settled : ∀ finding ∈ findings, finding.Settled) :
    resolveAll raw findings = ⟨findings, []⟩ := by
  induction findings with
  | nil => rfl
  | cons finding rest ih =>
      have here := finding.resolve_of_settled raw (settled finding List.mem_cons_self)
      rw [resolveAll_cons_kept raw finding finding rest here,
        ih fun other member => settled other (List.mem_cons_of_mem _ member)]

/-! ## Whole lists -/

theorem resolution_resolveAll (raw : String) (findings : List Finding) :
    Resolution raw findings (resolveAll raw findings).value (resolveAll raw findings).notices := by
  induction findings with
  | nil => exact .nil
  | cons finding rest ih =>
      by_cases settled : finding.Settled
      · rw [resolveAll_cons_kept raw finding _ rest (finding.resolve_of_settled raw settled)]
        exact .settled settled ih
      · have fate := finding.resolve_of_unsettled raw settled
        cases found : locate raw finding.matchedString with
        | none =>
            rw [found] at fate
            rw [resolveAll_cons_dropped raw finding rest fate]
            exact .dropped settled found ih
        | some place =>
            rw [found] at fate
            rw [resolveAll_cons_kept raw finding _ rest fate]
            exact .placed settled found ih

namespace Resolution

section Fates
variable {raw : String} {findings kept : List Finding} {notices : List Notice}
  (resolution : Resolution raw findings kept notices)
include resolution

/-- The text and the findings leave no choice. -/
theorem eq_resolveAll : resolveAll raw findings = ⟨kept, notices⟩ := by
  induction resolution with
  | nil => rfl
  | @settled finding rest kept notices settled later ih =>
      rw [resolveAll_cons_kept raw finding _ rest (finding.resolve_of_settled raw settled), ih]
  | @placed finding rest kept notices line offset unsettled found later ih =>
      have fate := finding.resolve_of_unsettled raw unsettled
      rw [found] at fate
      rw [resolveAll_cons_kept raw finding _ rest fate, ih]
  | @dropped finding rest kept notices unsettled missed later ih =>
      have fate := finding.resolve_of_unsettled raw unsettled
      rw [missed] at fate
      rw [resolveAll_cons_dropped raw finding rest fate, ih]
      rfl

theorem sublist_withoutPlace :
    (kept.map Finding.withoutPlace).Sublist (findings.map Finding.withoutPlace) := by
  induction resolution with
  | nil => exact List.Sublist.refl _
  | settled settled later ih => exact ih.cons_cons _
  | placed unsettled found later ih => exact ih.cons_cons _
  | dropped unsettled missed later ih => exact ih.cons _

theorem settled_of_mem : ∀ finding ∈ kept, finding.Settled := by
  induction resolution with
  | nil => simp
  | settled settled later ih =>
      intro other member
      rcases List.mem_cons.mp member with rfl | behind
      · exact settled
      · exact ih other behind
  | placed unsettled found later ih =>
      intro other member
      rcases List.mem_cons.mp member with rfl | behind
      · exact .inr ⟨Int.natCast_nonneg _, Int.natCast_nonneg _⟩
      · exact ih other behind
  | dropped unsettled missed later ih => exact ih

theorem length_add_length : kept.length + notices.length = findings.length := by
  induction resolution with
  | nil => rfl
  | settled settled later ih =>
      simp only [List.length_cons]
      omega
  | placed unsettled found later ih =>
      simp only [List.length_cons]
      omega
  | dropped unsettled missed later ih =>
      simp only [List.length_cons]
      omega

theorem level_of_mem : ∀ notice ∈ notices, notice.level = .warn := by
  induction resolution with
  | nil => simp
  | settled settled later ih => exact ih
  | placed unsettled found later ih => exact ih
  | dropped unsettled missed later ih =>
      intro other member
      rcases List.mem_cons.mp member with rfl | behind
      · rfl
      · exact ih other behind

end Fates

end Resolution

/-- Every finding of a list has its own fate.  What is kept is in order, changed in places only, and
final; each dropped finding is told about once; and lists are resolved piece by piece. -/
theorem findings_resolved_in_order (raw : String) (findings : List Finding) :
    let resolved := resolveAll raw findings
    (∀ kept notices, Resolution raw findings kept notices ↔ resolved = ⟨kept, notices⟩) ∧
    (resolved.value.map Finding.withoutPlace).Sublist (findings.map Finding.withoutPlace) ∧
    (∀ finding ∈ resolved.value, finding.Settled) ∧
    (∀ other : String, resolveAll other resolved.value = ⟨resolved.value, []⟩) ∧
    (∀ more : List Finding, resolveAll raw (findings ++ more) =
      ⟨resolved.value ++ (resolveAll raw more).value,
        resolved.notices ++ (resolveAll raw more).notices⟩) ∧
    resolved.value.length + resolved.notices.length = findings.length ∧
    ∀ notice ∈ resolved.notices, notice.level = .warn := by
  intro resolved
  have resolution := resolution_resolveAll raw findings
  refine ⟨?_, resolution.sublist_withoutPlace, resolution.settled_of_mem, ?_,
    resolveAll_append raw findings, resolution.length_add_length, resolution.level_of_mem⟩
  · intro kept notices
    constructor
    · exact Resolution.eq_resolveAll
    · intro (same : resolveAll raw findings = ⟨kept, notices⟩)
      rw [same] at resolution
      exact resolution
  · intro other
    exact resolveAll_of_settled other resolved.value resolution.settled_of_mem

-- One coordinate is no place, a place beyond the text is one, and no text runs over two lines.
example :
    let text (line lineIndex : Int) (matched : String) : Finding :=
      { Finding.ofText "id" .low matched with line, lineIndex }
    (resolveAll "a\nSELECT" [text 5 (-1) "select", text 9 9 "drop", text (-1) (-1) "a\ns"]).value =
      [text 1 0 "select", text 9 9 "drop"] := by
  decide +kernel

end HttpInspection
