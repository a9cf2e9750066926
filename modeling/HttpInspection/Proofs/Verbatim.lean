import HttpInspection.Proofs.Messages
import HttpInspection.Proofs.Occurrence
import HttpInspection.Proofs.QueryEscaping

/-!
# What is searched undecoded stands in the raw exchange

The names and values of a query are read strictly and one by one, the raw exchange has the query
read leniently and as a whole.  The separators of a query are delimiters of the lenient reading, so
each name and each value stands in the raw exchange as it is searched, whatever is malformed around
it, and a match in it has a place.
-/

set_option autoImplicit false

namespace HttpInspection

open Http

/-! ## Resolving a match -/

/-- A match has a place in a raw exchange, and no finding of it is dropped. -/
def HasPlace (raw matched : String) : Prop :=
  (locate raw matched).isSome = true ∧
    ∀ findings : List Finding, ∀ finding ∈ findings, finding.matchedString = matched →
      ∃ kept ∈ (resolveAll raw findings).value, finding.resolve? raw = some kept

theorem resolve_isSome_of_located (raw : String) (finding : Finding)
    (located : (locate raw finding.matchedString).isSome = true) :
    (finding.resolve? raw).isSome = true := by
  unfold Finding.resolve?
  by_cases resolved : finding.isResolved = true
  · simp [resolved]
  · simp [resolved, located]

theorem hasPlace_of_located (raw matched : String)
    (located : (locate raw matched).isSome = true) : HasPlace raw matched := by
  refine ⟨located, ?_⟩
  rintro findings finding member rfl
  obtain ⟨kept, same⟩ := Option.isSome_iff_exists.mp (resolve_isSome_of_located raw finding located)
  exact ⟨kept, List.mem_filterMap.mpr ⟨finding, member, same⟩, same⟩

theorem occurs_in_longer (matched text raw : String) (inside : text.toList <:+: raw.toList)
    (occurs : OccursIgnoringAsciiCase matched text) : OccursIgnoringAsciiCase matched raw :=
  List.IsInfix.trans occurs (inside.map Lowercase.asciiChar)

theorem hasPlace_of_infix_raw (raw text matched : String) (notEmpty : matched ≠ "")
    (oneLine : '\n' ∉ matched.toList) (occurs : OccursIgnoringAsciiCase matched text)
    (inside : text.toList <:+: raw.toList) : HasPlace raw matched :=
  hasPlace_of_located raw matched ((locate_isSome_iff raw matched).mpr
    (occursInLine_of_occurs raw matched notEmpty oneLine
      (occurs_in_longer matched text raw inside occurs)))

namespace Http

/-! ## Pairs of a query -/

theorem delimiter_ampersand : Query.Delimiter true ('&'.toNat.toUInt8) :=
  ⟨by decide, by decide, by decide, by decide⟩

theorem delimiter_equals : Query.Delimiter true ('='.toNat.toUInt8) :=
  ⟨by decide, by decide, by decide, by decide⟩

def lenientPart (part : List Char) : List Char :=
  (Query.unescapeTextLenient true (String.ofList part)).toList

theorem lenientPart_append (d : Char) (ascii : d.toNat < 0x80)
    (delimiter : Query.Delimiter true d.toNat.toUInt8) (front back : List Char) :
    lenientPart (front ++ d :: back) = lenientPart front ++ d :: lenientPart back :=
  Query.unescapeTextLenient_append true d ascii delimiter front back

theorem lenientPart_respects_ampersand : RespectsSeparators (· == '&') lenientPart := by
  intro front separator back found
  have same : separator = '&' := by simpa using found
  subst same
  exact ⟨'&', lenientPart_append '&' (by decide) delimiter_ampersand front back⟩

theorem lenientPart_of_unescapeText (part : List Char) (text : String)
    (accepted : Query.unescapeText (String.ofList part) = .ok text) :
    lenientPart part = text.toList := by
  rw [lenientPart, Query.unescapeTextLenient_of_unescapeText _ _ accepted]

/-- The key and the value of a segment as they are written. -/
def segmentParts (segment : List Char) : List Char × List Char :=
  (cutAtFirst (· == '=') segment).getD (segment, [])

theorem readPair_eq_ok_iff (segment : List Char) (name value : String) :
    readPair segment = .ok (name, value) ↔
      Query.unescapeText (String.ofList (segmentParts segment).1) = .ok name ∧
        Query.unescapeText (String.ofList (segmentParts segment).2) = .ok value := by
  simp only [readPair, ← segmentParts.eq_1]
  cases first : Query.unescapeText (String.ofList (segmentParts segment).1) with
  | error failure => simp [bind, Except.bind]
  | ok key =>
      cases second : Query.unescapeText (String.ofList (segmentParts segment).2) with
      | error failure => simp [bind, Except.bind]
      | ok text => simp [bind, Except.bind]

theorem lenientPart_segmentParts (segment : List Char) :
    lenientPart (segmentParts segment).1 <:+: lenientPart segment ∧
      lenientPart (segmentParts segment).2 <:+: lenientPart segment := by
  unfold segmentParts
  cases cut : cutAtFirst (· == '=') segment with
  | none =>
      have empty : lenientPart [] = [] := by decide
      rw [Option.getD_none, empty]
      exact ⟨List.infix_refl _, List.nil_infix⟩
  | some parts =>
      obtain ⟨front, back⟩ := parts
      obtain ⟨separator, found, rfl⟩ := cutAtFirst_eq (· == '=') segment front back cut
      have same : separator = '=' := by simpa using found
      subst same
      rw [Option.getD_some, lenientPart_append '=' (by decide) delimiter_equals]
      exact ⟨(List.prefix_append _ _).isInfix,
        ((List.suffix_cons '=' _).trans (List.suffix_append _ _)).isInfix⟩

/-- The name and the value of a segment stand in its lenient reading. -/
theorem infix_of_readPair (segment : List Char) (name value : String)
    (read : readPair segment = .ok (name, value)) :
    name.toList <:+: lenientPart segment ∧ value.toList <:+: lenientPart segment := by
  obtain ⟨nameRead, valueRead⟩ := (readPair_eq_ok_iff segment name value).mp read
  rw [← lenientPart_of_unescapeText _ _ nameRead, ← lenientPart_of_unescapeText _ _ valueRead]
  exact lenientPart_segmentParts segment

theorem mem_segmentPairs_iff (segment : List Char) (pair : String × String) :
    pair ∈ (segmentPairs segment).value ↔ segment ≠ [] ∧ readPair segment = .ok pair := by
  cases segment with
  | nil => simp [segmentPairs]
  | cons c rest =>
      simp only [segmentPairs, List.isEmpty_cons, Bool.false_eq_true, if_false]
      cases outcome : readPair (c :: rest) with
      | error failure => simp
      | ok read => simp [eq_comm]

theorem mem_parsePairs_iff (raw : String) (pair : String × String) :
    pair ∈ (parsePairs raw).value ↔
      ∃ segment ∈ splitAtEvery (· == '&') raw.toList,
        segment ≠ [] ∧ readPair segment = .ok pair := by
  simp only [parsePairs, Traced.collect, List.map_map, List.mem_flatten, List.mem_map,
    Function.comp_apply]
  constructor
  · rintro ⟨pairs, ⟨segment, inside, rfl⟩, member⟩
    exact ⟨segment, inside, (mem_segmentPairs_iff segment pair).mp member⟩
  · rintro ⟨segment, inside, read⟩
    exact ⟨_, ⟨segment, inside, rfl⟩, (mem_segmentPairs_iff segment pair).mpr read⟩

/-- The names and values of a query stand in its lenient reading. -/
theorem infix_of_mem_parsePairs (raw : String) (pair : String × String)
    (member : pair ∈ (parsePairs raw).value) :
    pair.1.toList <:+: (Query.unescapeTextLenient true raw).toList ∧
      pair.2.toList <:+: (Query.unescapeTextLenient true raw).toList := by
  obtain ⟨segment, inside, -, read⟩ := (mem_parsePairs_iff raw pair).mp member
  have piece := infix_of_mem_splitAtEvery (· == '&') lenientPart lenientPart_respects_ampersand
    raw.toList segment inside
  rw [lenientPart.eq_1 raw.toList, String.ofList_toList] at piece
  obtain ⟨name, value⟩ := infix_of_readPair segment pair.1 pair.2 read
  exact ⟨name.trans piece, value.trans piece⟩

/-! ## The raw exchange -/

/-- The texts of a request that are searched as they stand in it: method, target, the names and
values of the query, and the body. -/
def Request.verbatimTexts (request : Request) : List String :=
  [request.method, request.target] ++
    request.queryParameters.value.flatMap (fun (name, value) => [name, value]) ++
    [lossyText request.body.bytes]

namespace Request

theorem startLine_infix_rawText (request : Request) :
    request.startLine.toList <:+: request.rawText.toList := by
  simp only [rawText, head, String.append_assoc, String.toList_append]
  exact (List.prefix_append _ _).isInfix

theorem method_infix_rawText (request : Request) :
    request.method.toList <:+: request.rawText.toList := by
  refine List.IsInfix.trans ?_ request.startLine_infix_rawText
  simp only [startLine, String.append_assoc, String.toList_append]
  exact (List.prefix_append _ _).isInfix

theorem target_infix_rawText (request : Request) :
    request.target.toList <:+: request.rawText.toList := by
  refine List.IsInfix.trans ?_ request.startLine_infix_rawText
  simp only [startLine, String.toList_append, List.append_assoc]
  rw [← List.append_assoc, ← List.append_assoc]
  exact List.infix_append _ _ _

theorem body_infix_rawText (request : Request) :
    (lossyText request.body.bytes).toList <:+: request.rawText.toList := by
  simp only [rawText, String.toList_append]
  exact (List.suffix_append _ _).isInfix

theorem query_infix_target (request : Request) (query : String)
    (given : request.uri.query = some query) (notEmpty : query ≠ "") :
    (Query.unescapeTextLenient true query).toList <:+: request.target.toList := by
  have some : ¬ query.isEmpty = true := by simpa using notEmpty
  simp only [target, given, if_neg some, String.toList_append]
  exact (List.suffix_append _ _).isInfix

theorem parameter_infix_rawText (request : Request) (pair : String × String)
    (member : pair ∈ request.queryParameters.value) :
    pair.1.toList <:+: request.rawText.toList ∧ pair.2.toList <:+: request.rawText.toList := by
  cases given : request.uri.query with
  | none => simp [queryParameters, given] at member
  | some query =>
      simp only [queryParameters, given] at member
      -- An empty query is left out of the target, but then it has no parameters either.
      have notEmpty : query ≠ "" := by
        rintro rfl
        have nothing : (parsePairs "").value = [] := by decide
        rw [nothing] at member
        exact absurd member List.not_mem_nil
      have inTarget :=
        (request.query_infix_target query given notEmpty).trans request.target_infix_rawText
      obtain ⟨name, value⟩ := infix_of_mem_parsePairs query pair member
      exact ⟨name.trans inTarget, value.trans inTarget⟩

theorem verbatim_infix_rawText (request : Request) (text : String)
    (member : text ∈ request.verbatimTexts) :
    text.toList <:+: request.rawText.toList := by
  simp only [verbatimTexts, List.mem_append, List.mem_cons, List.mem_flatMap, List.not_mem_nil,
    or_false] at member
  rcases member with ((rfl | rfl) | ⟨pair, parameter, rfl | rfl⟩) | rfl
  · exact request.method_infix_rawText
  · exact request.target_infix_rawText
  · exact (request.parameter_infix_rawText pair parameter).1
  · exact (request.parameter_infix_rawText pair parameter).2
  · exact request.body_infix_rawText

end Request

theorem Response.body_infix_rawText (response : Response) :
    (lossyText response.body.bytes).toList <:+: response.rawText.toList := by
  simp only [Response.rawText, String.toList_append]
  exact (List.suffix_append _ _).isInfix

end Http

/-- A match without a newline in a text that is searched as it stands in a message has a place in
the raw text of the message, and is not dropped for want of one. -/
theorem verbatim_match_has_place (matched : String) (notEmpty : matched ≠ "")
    (oneLine : '\n' ∉ matched.toList) :
    (∀ (request : Request), ∀ text ∈ request.verbatimTexts,
      OccursIgnoringAsciiCase matched text → HasPlace request.dump.1 matched) ∧
    (∀ response : Response, OccursIgnoringAsciiCase matched (lossyText response.body.bytes) →
      HasPlace response.dump.1 matched) := by
  constructor
  · intro request text member occurs
    rw [request.dump_eq]
    exact hasPlace_of_infix_raw request.rawText text matched notEmpty oneLine occurs
      (request.verbatim_infix_rawText text member)
  · intro response occurs
    rw [response.dump_eq]
    exact hasPlace_of_infix_raw response.rawText _ matched notEmpty oneLine occurs
      response.body_infix_rawText

/-- A query whose pairs are a scalar cut short, a malformed escape and a value with a newline. -/
def brokenQuery : Request where
  uri := { path := "/x", query := some "a=%C3&b=%z&q=Union+s%45lect%0A%FF&%" }

theorem verbatim_match_has_place_broken :
    "union select" ≠ "" ∧ '\n' ∉ "union select".toList ∧
      "Union sElect\n\uFFFD" ∈ brokenQuery.verbatimTexts ∧
      OccursIgnoringAsciiCase "union select" "Union sElect\n\uFFFD" ∧
      HasPlace brokenQuery.dump.1 "union select" := by
  have notEmpty : "union select" ≠ "" := by decide
  have oneLine : '\n' ∉ "union select".toList := by decide
  have member : "Union sElect\n\uFFFD" ∈ brokenQuery.verbatimTexts := by
    decide +kernel
  have occurs : OccursIgnoringAsciiCase "union select" "Union sElect\n\uFFFD" := by
    unfold OccursIgnoringAsciiCase
    decide
  exact ⟨notEmpty, oneLine, member, occurs,
    (verbatim_match_has_place "union select" notEmpty oneLine).1 brokenQuery _ member occurs⟩

end HttpInspection
