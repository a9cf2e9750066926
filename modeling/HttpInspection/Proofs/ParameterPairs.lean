import HttpInspection.Proofs.QuerySegments
import HttpInspection.Proofs.Unescaping
import Mathlib.Data.List.Forall2

/-!
# Pairs are read segment by segment

A query or a form is read piece by piece between its ampersands, and no piece has an influence on
what another gives.  A segment that writes a pair gives that pair; one that is empty or has a
malformed escape gives none.
-/

set_option autoImplicit false

namespace HttpInspection

namespace Query

/-! ## Escapes beside a delimiter -/

section Delimited
variable (d : UInt8) (notPercent : d ≠ percent) (notDigit : ¬ Hex.IsDigit d)

include notDigit in
theorem digitsFollow_append (front back : List UInt8) :
    DigitsFollow (front ++ d :: back) ↔ DigitsFollow front := by
  rcases front with _ | ⟨high, _ | ⟨low, rest⟩⟩
  · refine iff_of_false ?_ ?_
    · rintro ⟨high, low, rest, same, highDigit, -⟩
      cases same
      exact notDigit highDigit
    · rintro ⟨high, low, rest, same, -⟩
      cases same
  · refine iff_of_false ?_ ?_
    · rintro ⟨first, low, rest, same, -, lowDigit⟩
      cases same
      exact notDigit lowDigit
    · rintro ⟨first, low, rest, same, -⟩
      cases same
  · rw [List.cons_append, List.cons_append, digitsFollow_cons_cons, digitsFollow_cons_cons]

include notPercent notDigit in
/-- No escape runs across a delimiter: one that is cut by it is malformed either way. -/
theorem wellEscaped_append (front back : List UInt8) :
    WellEscaped (front ++ d :: back) ↔ WellEscaped front ∧ WellEscaped back := by
  constructor
  · intro whole
    constructor
    · intro before rest cut
      have follow := whole before (rest ++ d :: back) (by rw [cut]; simp)
      exact (digitsFollow_append d notDigit rest back).mp follow
    · intro before rest cut
      exact whole (front ++ d :: before) rest (by rw [cut]; simp)
  · rintro ⟨wellFront, wellBack⟩ before rest cut
    rcases List.append_eq_append_iff.mp cut with ⟨middle, same, behind⟩ | ⟨middle, rfl, behind⟩
    · rcases List.cons_eq_append_iff.mp behind with ⟨-, here⟩ | ⟨inside, -, later⟩
      · cases here
        exact absurd rfl notPercent
      · exact wellBack inside rest later
    · rcases List.cons_eq_append_iff.mp behind with ⟨-, here⟩ | ⟨inside, rfl, rfl⟩
      · cases here
        exact absurd rfl notPercent
      · exact (digitsFollow_append d notDigit inside back).mpr (wellFront before inside rfl)

end Delimited

end Query

namespace Http

/-! ## What one segment gives -/

theorem wellEscaped_segmentParts (segment : List Char) :
    Query.WellEscaped (Utf8.encode segment) ↔
      Query.WellEscaped (Utf8.encode (segmentParts segment).1) ∧
        Query.WellEscaped (Utf8.encode (segmentParts segment).2) := by
  unfold segmentParts
  cases cut : cutAtFirst (· == '=') segment with
  | none => exact (and_iff_left Query.wellEscaped_nil).symm
  | some parts =>
      obtain ⟨key, value⟩ := parts
      obtain ⟨separator, found, rfl⟩ := cutAtFirst_eq (· == '=') segment key value cut
      have same : separator = '=' := by simpa using found
      subst same
      have notDigit : ¬ Hex.IsDigit '='.toNat.toUInt8 := by
        rw [← Hex.value_isSome_iff]
        decide
      rw [Option.getD_some, Utf8.encode_append, Utf8.encode_cons,
        Utf8.encodeChar_of_ascii '=' (by decide), List.singleton_append]
      exact Query.wellEscaped_append _ (by decide) notDigit _ _

theorem readPair_ok_iff (segment : List Char) :
    (∃ pair, readPair segment = .ok pair) ↔ Query.WellEscaped (Utf8.encode segment) := by
  have part (letters : List Char) :
      Query.WellEscaped (Utf8.encode letters) ↔
        ∃ text, Query.unescapeText (String.ofList letters) = .ok text := by
    rw [Query.unescapeText_ok_iff, bytesOf, String.toList_ofList]
  rw [wellEscaped_segmentParts, part, part]
  constructor
  · rintro ⟨⟨name, value⟩, read⟩
    obtain ⟨nameRead, valueRead⟩ := (readPair_eq_ok_iff segment name value).mp read
    exact ⟨⟨name, nameRead⟩, ⟨value, valueRead⟩⟩
  · rintro ⟨⟨name, nameRead⟩, ⟨value, valueRead⟩⟩
    exact ⟨(name, value), (readPair_eq_ok_iff segment name value).mpr ⟨nameRead, valueRead⟩⟩

theorem segmentPairs_eq_nil_iff (segment : List Char) :
    (segmentPairs segment).value = [] ↔
      segment = [] ∨ ¬ Query.WellEscaped (Utf8.encode segment) := by
  rw [← readPair_ok_iff]
  constructor
  · intro nothing
    by_cases empty : segment = []
    · exact .inl empty
    · right
      rintro ⟨pair, read⟩
      have member := (mem_segmentPairs_iff segment pair).mpr ⟨empty, read⟩
      rw [nothing] at member
      exact absurd member List.not_mem_nil
  · intro unread
    rw [List.eq_nil_iff_forall_not_mem]
    intro pair member
    obtain ⟨some, read⟩ := (mem_segmentPairs_iff segment pair).mp member
    rcases unread with empty | failed
    · exact some empty
    · exact failed ⟨pair, read⟩

/-- A segment writes a pair: the key and the value are escaped, and the equals sign between them is
the first one of the segment. -/
def WritesPair (pair : String × String) (segment : String) : Prop :=
  ∃ key value : String, segment = key ++ "=" ++ value ∧
    Query.Escapes (bytesOf pair.1) (bytesOf key) ∧
    Query.Escapes (bytesOf pair.2) (bytesOf value) ∧
    '&' ∉ key.toList ∧ '=' ∉ key.toList ∧ '&' ∉ value.toList

theorem segmentPairs_writesPair (pair : String × String) (segment : String)
    (writes : WritesPair pair segment) : segmentPairs segment.toList = ⟨[pair], []⟩ := by
  obtain ⟨name, value⟩ := pair
  obtain ⟨key, written, rfl, keyEscapes, writtenEscapes, -, noEquals, -⟩ := writes
  have ordinary := ordinary_of_notMem '=' key.toList noEquals
  have cut : segmentParts (key ++ "=" ++ written).toList = (key.toList, written.toList) := by
    have shape : (key ++ "=" ++ written).toList = key.toList ++ '=' :: written.toList := by simp
    rw [shape, segmentParts, cutAtFirst_append _ _ _ '=' (by decide) ordinary, Option.getD_some]
  have read : readPair (key ++ "=" ++ written).toList = .ok (name, value) := by
    rw [readPair_eq_ok_iff, cut, String.ofList_toList, String.ofList_toList]
    exact ⟨Query.unescapeText_escapes _ _ keyEscapes, Query.unescapeText_escapes _ _ writtenEscapes⟩
  have some : ¬ (key ++ "=" ++ written).toList.isEmpty = true := by simp
  rw [segmentPairs, if_neg some, read]

theorem ampersand_notMem_of_writesPair (pair : String × String) (segment : String)
    (writes : WritesPair pair segment) : '&' ∉ segment.toList := by
  obtain ⟨key, value, rfl, -, -, inKey, -, inValue⟩ := writes
  simp [inKey, inValue]

/-! ## Segments beside each other -/

theorem parsePairs_of_oneSegment (segment : String) (one : '&' ∉ segment.toList) :
    parsePairs segment = segmentPairs segment.toList := by
  have ordinary := ordinary_of_notMem '&' segment.toList one
  have whole := splitAtEvery_append (· == '&') segment.toList [] [] [] ordinary rfl
  rw [List.append_nil] at whole
  simp [parsePairs, Traced.collect, whole]

theorem parsePairs_append (front back : String) :
    parsePairs (front ++ "&" ++ back) =
      ⟨(parsePairs front).value ++ (parsePairs back).value,
        (parsePairs front).notices ++ (parsePairs back).notices⟩ := by
  have shape : (front ++ "&" ++ back).toList = front.toList ++ '&' :: back.toList := by simp
  simp only [parsePairs, Traced.collect, shape, splitAtEvery_around (· == '&') '&' (by decide),
    List.map_append, List.flatten_append, List.flatMap_append]

/-- Segments as a query or a form, with an ampersand between neighbours. -/
def joinSegments (segments : List String) : String :=
  String.ofList (joinWith ['&'] (segments.map String.toList))

theorem joinSegments_cons_cons (first second : String) (rest : List String) :
    joinSegments (first :: second :: rest) = first ++ "&" ++ joinSegments (second :: rest) := by
  apply String.toList_inj.mp
  simp [joinSegments, joinWith_cons_cons]

theorem parsePairs_joinSegments (segments : List String) :
    parsePairs (joinSegments segments) =
      ⟨segments.flatMap fun segment => (parsePairs segment).value,
        segments.flatMap fun segment => (parsePairs segment).notices⟩ := by
  induction segments with
  | nil => rw [joinSegments, parsePairs_of_oneSegment _ (by decide)]; rfl
  | cons first rest ih =>
      cases rest with
      | nil => simp [joinSegments, joinWith]
      | cons second more =>
          rw [joinSegments_cons_cons, parsePairs_append, ih]
          rfl

theorem parsePairs_written (pairs : List (String × String)) (segments : List String)
    (written : List.Forall₂ WritesPair pairs segments) :
    parsePairs (joinSegments segments) = ⟨pairs, []⟩ := by
  rw [parsePairs_joinSegments]
  induction written with
  | nil => rfl
  | @cons pair segment pairs segments writes rest ih =>
      have single : parsePairs segment = ⟨[pair], []⟩ := by
        rw [parsePairs_of_oneSegment segment (ampersand_notMem_of_writesPair pair segment writes),
          segmentPairs_writesPair pair segment writes]
      obtain ⟨values, notices⟩ := Traced.mk.inj ih
      rw [List.flatMap_cons, List.flatMap_cons, single, values, notices]
      rfl

/-- Written pairs are read back in their order, whatever was escaped in them.  What stands on the
two sides of an ampersand is read as if alone; hence a segment that is empty or malformed gives
nothing, and the others give what they give without it. -/
theorem pairs_read_segment_by_segment :
    (∀ (pairs : List (String × String)) (segments : List String),
      List.Forall₂ WritesPair pairs segments → parsePairs (joinSegments segments) = ⟨pairs, []⟩) ∧
    (∀ front back : String, parsePairs (front ++ "&" ++ back) =
      ⟨(parsePairs front).value ++ (parsePairs back).value,
        (parsePairs front).notices ++ (parsePairs back).notices⟩) ∧
    (∀ segment : String, '&' ∉ segment.toList →
      ((parsePairs segment).value = [] ↔
        segment = "" ∨ ¬ Query.WellEscaped (bytesOf segment)) ∧
      ((parsePairs segment).value = [] → ∀ front back : List String,
        (parsePairs (joinSegments (front ++ segment :: back))).value =
          (parsePairs (joinSegments (front ++ back))).value)) := by
  refine ⟨parsePairs_written, parsePairs_append, ?_⟩
  intro segment one
  constructor
  · rw [parsePairs_of_oneSegment segment one, segmentPairs_eq_nil_iff, bytesOf]
    simp
  · intro nothing front back
    simp only [parsePairs_joinSegments, List.flatMap_append, List.flatMap_cons, nothing,
      List.nil_append]

/-- A name that comes twice, an empty pair and an equals sign in a value; and among them a segment
with an escape that its equals sign cuts. -/
theorem pairs_read_segment_by_segment_cut :
    List.Forall₂ WritesPair [("a", "1&2"), ("", ""), ("a", "x=y")] ["a=1%262", "=", "%61=x=y"] ∧
      parsePairs "a=1%262&=&%61=x=y" = ⟨[("a", "1&2"), ("", ""), ("a", "x=y")], []⟩ ∧
      '&' ∉ "b%4=1".toList ∧ ¬ Query.WellEscaped (bytesOf "b%4=1") ∧
      (parsePairs "b%4=1").value = [] ∧
      (parsePairs "a=1%262&b%4=1&=").value = (parsePairs "a=1%262&=").value := by
  obtain ⟨written, -, alone⟩ := pairs_read_segment_by_segment
  have plain (text : String)
      (ordinary : (bytesOf text).all (fun b => b ≠ Query.percent ∧ b ≠ Query.plus) = true) :
      Query.Escapes (bytesOf text) (bytesOf text) := by
    simpa using Query.escapes_plain (bytesOf text) (List.all_iff_forall_prop.mp ordinary) .nil
  have escaped : Query.Escapes ([0x31] ++ 0x26 :: bytesOf "2")
      ([0x31] ++ ([Query.percent, 0x32, 0x36] ++ bytesOf "2")) :=
    Query.escapes_plain [0x31] (List.all_iff_forall_prop.mp (by decide))
      (.cons (.escape (by decide) (by decide)) (plain "2" (by decide)))
  have ampersand : Query.Escapes (bytesOf "1&2") (bytesOf "1%262") := escaped
  have single : Query.Escapes [0x61] ([Query.percent, 0x36, 0x31] ++ []) :=
    .cons (.escape (by decide) (by decide)) .nil
  have letter : Query.Escapes (bytesOf "a") (bytesOf "%61") := single
  have writes : List.Forall₂ WritesPair [("a", "1&2"), ("", ""), ("a", "x=y")]
      ["a=1%262", "=", "%61=x=y"] :=
    .cons ⟨"a", "1%262", by decide, plain "a" (by decide), ampersand, by decide⟩
      (.cons ⟨"", "", by decide, .nil, .nil, by decide⟩
        (.cons ⟨"%61", "x=y", by decide, letter, plain "x=y" (by decide), by decide⟩ .nil))
  have malformed : ¬ Query.WellEscaped (bytesOf "b%4=1") := by
    intro well
    have follow := well (bytesOf "b") (bytesOf "4=1") (by decide)
    rw [show bytesOf "4=1" = [0x34, 0x3D, 0x31] by decide, Query.digitsFollow_cons_cons] at follow
    exact absurd follow (by decide)
  have nothing := (alone "b%4=1" (by decide)).1.mpr (.inr malformed)
  have read := written _ _ writes
  have around := (alone "b%4=1" (by decide)).2 nothing ["a=1%262"] ["="]
  have joined : joinSegments ["a=1%262", "=", "%61=x=y"] = "a=1%262&=&%61=x=y" := by decide
  have longer : joinSegments (["a=1%262"] ++ "b%4=1" :: ["="]) = "a=1%262&b%4=1&=" := by decide
  have shorter : joinSegments (["a=1%262"] ++ ["="]) = "a=1%262&=" := by decide
  rw [joined] at read
  rw [longer, shorter] at around
  exact ⟨writes, read, by decide, malformed, nothing, around⟩

end Http

end HttpInspection
