import HttpInspection.LogEntry
import HttpInspection.Proofs.JsonText

/-!
# Log entries read back

The record of an entry denotes the entry, whatever its texts are, if its numbers are of sixty-four
bits.  Every kind of value is written so that its own decoder reads it; a record is read when each of
its fields is.
-/

set_option autoImplicit false

namespace HttpInspection

namespace Json

/-! ## Values and their decoders -/

theorem integer_lexemeOf (n : Int) : integer? (lexemeOf n) = some n := by
  rw [lexemeOf]
  split
  next nonnegative =>
    obtain ⟨c, more, digits, digit⟩ := exists_first_digit n.toNat
    rw [integer?]
    · simp only [all_isDigit_toDigits, foldl_toDigits, if_true, Option.map_some, Option.some.injEq]
      exact Int.toNat_of_nonneg nonnegative
    · intro after same
      rw [digits] at same
      exact ne_of_isDigit c '-' digit rfl (List.cons.inj same).1
  next negative =>
    simp only [integer?, all_isDigit_toDigits, foldl_toDigits, if_true, Option.bind_some]
    rw [if_neg (by omega), Int.toNat_of_nonneg (by omega), Int.neg_neg]

theorem asIntBetween_ofInt (least greatest n : Int) (lower : least ≤ n) (upper : n ≤ greatest) :
    asIntBetween least greatest (ofInt n) = .ok n := by
  simp only [ofInt_eq, asIntBetween, integer_lexemeOf]
  rw [if_pos ⟨lower, upper⟩]

/-- A value is written so that a decoder reads something from it. -/
def Encodes {α : Type} (decoder : Decoder α) (value : Json) (meaning : α) : Prop :=
  value.ReadsBack ∧ decoder value = .ok meaning

theorem decode_compact {α : Type} (decoder : Decoder α) (value : Json) (meaning : α)
    (encodes : Encodes decoder value meaning) : decode decoder value.compact = .ok meaning := by
  rw [decode, read_compact value encodes.1]
  simp [encodes.2, bind, Except.bind]

theorem encodes_text (s : String) : Encodes asText (ofString s) s :=
  ⟨readsBack_ofString s, rfl⟩

theorem encodes_bool (value : Bool) : Encodes asBool (bool value) value :=
  ⟨readsBack_bool value, rfl⟩

def IsSigned64 (n : Int) : Prop :=
  -(Nat.pow 2 63 : Int) ≤ n ∧ n < (Nat.pow 2 63 : Int)

instance (n : Int) : Decidable (IsSigned64 n) :=
  inferInstanceAs (Decidable (-(Nat.pow 2 63 : Int) ≤ n ∧ n < (Nat.pow 2 63 : Int)))

theorem encodes_int (n : Int) (fits : IsSigned64 n) : Encodes asInt (ofInt n) n := by
  obtain ⟨lower, upper⟩ := fits
  exact ⟨readsBack_ofInt n, asIntBetween_ofInt _ _ n lower (Int.le_sub_one_of_lt upper)⟩

theorem encodes_nat (n : Nat) (fits : n < Nat.pow 2 64) : Encodes asNat (ofInt n) n := by
  have upper : (n : Int) ≤ (Nat.pow 2 64 : Int) - 1 := Int.le_sub_one_of_lt (by exact_mod_cast fits)
  refine ⟨readsBack_ofInt n, ?_⟩
  rw [asNat, asIntBetween_ofInt 0 _ n (Int.natCast_nonneg n) upper]
  rfl

theorem encodes_list {α : Type} (decoder : Decoder α) (toJson : α → Json) (members : List α)
    (encodes : ∀ member ∈ members, Encodes decoder (toJson member) member) :
    Encodes (asList decoder) (ofList (members.map toJson)) members := by
  have decoded : (members.map toJson).mapM decoder = .ok members := by
    induction members with
    | nil => rfl
    | cons member rest ih =>
        have others := ih fun other later => encodes other (List.mem_cons_of_mem _ later)
        rw [List.map_cons, List.mapM_cons, (encodes member List.mem_cons_self).2, others]
        rfl
  refine ⟨readsBack_ofList _ ?_, ?_⟩
  · intro item inside
    obtain ⟨member, listed, rfl⟩ := List.mem_map.mp inside
    exact (encodes member listed).1
  · rw [ofList, asList, decoded]
    rfl

theorem encodes_severity (severity : Severity) :
    Encodes (asWord Severity.parse) (ofString severity.word) severity := by
  refine ⟨readsBack_ofString _, ?_⟩
  cases severity <;> rfl

/-! ## Records -/

theorem checkEntries_of_fit (known : Fields) (seen : List String) (entries : List (String × Json))
    (distinct : (entries.map Prod.fst).Nodup) (unseen : ∀ entry ∈ entries, entry.1 ∉ seen)
    (fit : ∀ entry ∈ entries, ∃ decoder, known.lookup entry.1 = some decoder ∧
      decoder entry.2 = .ok ()) : checkEntries known seen entries = .ok () := by
  induction entries generalizing seen with
  | nil => rfl
  | cons entry rest ih =>
      obtain ⟨name, value⟩ := entry
      obtain ⟨fresh, restDistinct⟩ := List.nodup_cons.mp distinct
      obtain ⟨decoder, listed, reads⟩ := fit _ List.mem_cons_self
      have new : name ∉ seen := unseen _ List.mem_cons_self
      have others := ih (name :: seen) restDistinct
        (fun entry later => by
          rw [List.mem_cons, not_or]
          refine ⟨fun same => fresh (List.mem_map.mpr ⟨entry, later, same⟩), ?_⟩
          exact unseen entry (List.mem_cons_of_mem _ later))
        (fun entry later => fit entry (List.mem_cons_of_mem _ later))
      simp only [checkEntries]
      dsimp only at listed reads
      rw [listed]
      simp [new, reads, others, bind, Except.bind]

/-- A known field with a value of its kind. -/
def FitsField (known : Fields) (entry : String × Json) : Prop :=
  entry.2.ReadsBack ∧
    ∃ decoder, known.lookup entry.1 = some decoder ∧ decoder entry.2 = .ok ()

theorem fitsField_of_encodes {α : Type} {decoder : Decoder α} {value : Json} {meaning : α}
    (encodes : Encodes decoder value meaning) (known : Fields) (name : String)
    (listed : known.lookup name = some (field name decoder).2) :
    FitsField known (name, value) := by
  refine ⟨encodes.1, _, listed, ?_⟩
  rw [field]
  dsimp only
  rw [encodes.2]
  rfl

/-- A record whose fields have distinct names means what a reader makes of its fields. -/
theorem encodes_record {α : Type} (reader : List (String × Json) → Except DocumentFault α)
    (known : Fields) (needed : Nat) (entries : List (String × Json)) (meaning : α)
    (distinct : (entries.map Prod.fst).Nodup) (fit : ∀ entry ∈ entries, FitsField known entry)
    (reads : reader entries = .ok meaning) :
    Encodes (fun value => value.fields known needed >>= reader) (ofEntries entries) meaning := by
  refine ⟨readsBack_ofEntries entries fun entry member => (fit entry member).1, ?_⟩
  have checked := checkEntries_of_fit known [] entries distinct (by simp)
    fun entry member => (fit entry member).2
  have listed : (ofEntries entries).fields known needed = .ok entries := by
    rw [ofEntries, fields, checked]
    rfl
  dsimp only
  rw [listed, ← reads]
  rfl

end Json

namespace Finding

structure InRange (finding : Finding) : Prop where
  line : Json.IsSigned64 finding.line
  lineIndex : Json.IsSigned64 finding.lineIndex
  length : finding.length < Nat.pow 2 64

theorem encodes_optionalText (text : String) :
    Json.Encodes (Json.asOption Json.asText) (Json.ofString text) (some text) :=
  ⟨Json.readsBack_ofString text, rfl⟩

theorem encodes_algorithm (algorithm : HashAlgorithm) :
    Json.Encodes asAlgorithm (Json.ofString algorithm.name) (some algorithm) := by
  refine ⟨Json.readsBack_ofString _, ?_⟩
  cases algorithm <;> rfl

theorem encodes_toJson (finding : Finding) (range : finding.InRange) :
    Json.Encodes ofJson finding.toJson finding := by
  obtain ⟨lineRange, lineIndexRange, lengthRange⟩ := range
  obtain ⟨ruleId, ruleName, ruleDescription, line, lineIndex, length, matchedString, digest,
    algorithm, classification, severity⟩ := finding
  have text := Json.encodes_text
  have lineRead := Json.encodes_int line lineRange
  have lineIndexRead := Json.encodes_int lineIndex lineIndexRange
  have lengthRead := Json.encodes_nat length lengthRange
  have severityRead := Json.encodes_severity severity
  have fits {α : Type} {decoder : Json.Decoder α} {value : Json} {meaning : α}
      (encodes : Json.Encodes decoder value meaning) :=
    Json.fitsField_of_encodes encodes fields
  refine Json.encodes_record _ fields fields.length _ _ ?_ ?_ ?_
  · cases digest <;> cases algorithm <;> simp [optionalEntry]
  · simp only [List.forall_mem_append, List.forall_mem_cons, List.not_mem_nil, false_implies,
      implies_true, and_true]
    refine ⟨⟨⟨⟨fits (text _) _ rfl, fits (text _) _ rfl, fits (text _) _ rfl, fits lineRead _ rfl,
      fits lineIndexRead _ rfl, fits lengthRead _ rfl, fits (text _) _ rfl⟩, ?_⟩, ?_⟩,
      fits (text _) _ rfl, fits severityRead _ rfl⟩
    · cases digest with
      | none => simp [optionalEntry]
      | some digest => simpa [optionalEntry] using fits (encodes_optionalText digest) _ rfl
    · cases algorithm with
      | none => simp [optionalEntry]
      | some algorithm => simpa [optionalEntry] using fits (encodes_algorithm algorithm) _ rfl
  · cases digest <;> cases algorithm <;>
      simp [bind, Except.bind, pure, Except.pure, Json.required, Json.optional, List.lookup_cons,
        optionalEntry, (text _).2, lineRead.2, lineIndexRead.2, lengthRead.2, severityRead.2,
        (encodes_optionalText _).2, (encodes_algorithm _).2]

end Finding

namespace LogEntry

structure InRange (entry : LogEntry) : Prop where
  timestamp : Json.IsSigned64 entry.timestamp
  findings : ∀ finding ∈ entry.findings, finding.InRange

theorem encodes_findings (findings : List Finding)
    (range : ∀ finding ∈ findings, finding.InRange) :
    Json.Encodes asFindings (findingsToJson findings) findings :=
  Json.encodes_list Finding.ofJson Finding.toJson findings fun finding member =>
    finding.encodes_toJson (range finding member)

theorem encodes_toJson (entry : LogEntry) (range : entry.InRange) :
    Json.Encodes ofJson entry.toJson entry := by
  obtain ⟨stampRange, findingsRange⟩ := range
  obtain ⟨agentId, remoteIp, timestamp, websocket, request, response, blocked, requestFindings,
    responseFindings, validatorFindings⟩ := entry
  simp only [findings, List.forall_mem_append] at findingsRange
  obtain ⟨⟨requestRange, responseRange⟩, validatorRange⟩ := findingsRange
  have text := Json.encodes_text
  have truth := Json.encodes_bool
  have stamp := Json.encodes_int timestamp stampRange
  have onRequest := encodes_findings requestFindings requestRange
  have onResponse := encodes_findings responseFindings responseRange
  have ofValidators := encodes_findings validatorFindings validatorRange
  have fits {α : Type} {decoder : Json.Decoder α} {value : Json} {meaning : α}
      (encodes : Json.Encodes decoder value meaning) :=
    Json.fitsField_of_encodes encodes fields
  refine Json.encodes_record _ fields (fields.length - 1) _ _ ?_ ?_ ?_
  · simp
  · simp only [List.forall_mem_cons, List.not_mem_nil, false_implies, implies_true, and_true]
    exact ⟨fits (text _) _ rfl, fits (text _) _ rfl, fits stamp _ rfl, fits (truth _) _ rfl,
      fits (text _) _ rfl, fits (text _) _ rfl, fits (truth _) _ rfl, fits onRequest _ rfl,
      fits onResponse _ rfl, fits ofValidators _ rfl⟩
  · simp [bind, Except.bind, pure, Except.pure, Json.required, Json.optional, List.lookup_cons,
      (text _).2, (truth _).2, stamp.2, onRequest.2, onResponse.2, ofValidators.2]

theorem parse_text (entry : LogEntry) (range : entry.InRange) :
    parse entry.text = .ok entry :=
  Json.decode_compact ofJson entry.toJson entry (entry.encodes_toJson range)

end LogEntry

end HttpInspection
