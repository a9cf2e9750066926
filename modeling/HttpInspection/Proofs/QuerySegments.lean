import HttpInspection.Proofs.HeaderLines

/-!
# Queries as segments

A query is its segments with ampersands between them.  Its pairs are those of its segments one by
one, and in the start line each segment is shown by itself.  What is shown of a query in front of a
place between its segments and behind it stays when a segment is added there.
-/

set_option autoImplicit false

namespace HttpInspection

/-! ## Joining pieces -/

section Joining
variable {α : Type} (isSeparator : α → Bool) (separator : α)

theorem joinWith_cons_cons (between first second : List α) (rest : List (List α)) :
    joinWith between (first :: second :: rest) =
      first ++ between ++ joinWith between (second :: rest) := rfl

theorem joinWith_append (between : List α) (front back : List (List α)) (someFront : front ≠ [])
    (someBack : back ≠ []) :
    joinWith between (front ++ back) =
      joinWith between front ++ between ++ joinWith between back := by
  obtain ⟨first, others, rfl⟩ := List.exists_cons_of_ne_nil someBack
  induction front with
  | nil => exact absurd rfl someFront
  | cons piece rest ih =>
      cases rest with
      | nil => rfl
      | cons second more =>
          rw [List.cons_append, List.cons_append, joinWith_cons_cons, ← List.cons_append,
            ih (List.cons_ne_nil _ _), joinWith_cons_cons]
          simp only [List.append_assoc]

theorem mem_joinWith (between piece : List α) (pieces : List (List α)) (member : piece ∈ pieces)
    (a : α) (inside : a ∈ piece) : a ∈ joinWith between pieces := by
  induction pieces with
  | nil => exact absurd member List.not_mem_nil
  | cons first rest ih =>
      cases rest with
      | nil =>
          rw [List.mem_singleton.mp member] at inside
          exact inside
      | cons second more =>
          rw [joinWith_cons_cons]
          rcases List.mem_cons.mp member with rfl | later
          · exact List.mem_append_left _ (List.mem_append_left _ inside)
          · exact List.mem_append_right _ (ih later)

theorem splitAtEvery_joinWith (separates : isSeparator separator = true)
    (pieces : List (List α)) (some : pieces ≠ [])
    (ordinary : ∀ piece ∈ pieces, ∀ a ∈ piece, isSeparator a = false) :
    splitAtEvery isSeparator (joinWith [separator] pieces) = pieces := by
  induction pieces with
  | nil => exact absurd rfl some
  | cons piece rest ih =>
      have here := ordinary piece List.mem_cons_self
      cases rest with
      | nil =>
          have cut := splitAtEvery_append isSeparator piece [] [] [] here rfl
          rwa [List.append_nil] at cut
      | cons second more =>
          have later := ih (List.cons_ne_nil _ _) fun other member =>
            ordinary other (List.mem_cons_of_mem _ member)
          have cut := splitAtEvery_separator isSeparator separator
            (joinWith [separator] (second :: more)) separates
          rw [later] at cut
          rw [joinWith_cons_cons, List.append_assoc, List.singleton_append,
            splitAtEvery_append isSeparator piece _ [] _ here cut, List.append_nil]

theorem joinWith_splitAtEvery (only : ∀ a, isSeparator a = true → a = separator)
    (text : List α) : joinWith [separator] (splitAtEvery isSeparator text) = text := by
  induction text with
  | nil => rfl
  | cons a rest ih =>
      obtain ⟨piece, pieces, cut⟩ := exists_first_piece isSeparator rest
      by_cases separates : isSeparator a = true
      · rw [splitAtEvery_separator isSeparator a rest separates, cut, joinWith_cons_cons, ← cut, ih,
          only a separates]
        rfl
      · rw [splitAtEvery_ordinary isSeparator a rest piece pieces (by simpa using separates) cut]
        rw [cut] at ih
        cases pieces with
        | nil => exact congrArg (a :: ·) ih
        | cons second more =>
            rw [joinWith_cons_cons] at ih ⊢
            rw [← ih]
            rfl

theorem ordinary_of_mem_splitAtEvery (text piece : List α)
    (member : piece ∈ splitAtEvery isSeparator text) : ∀ a ∈ piece, isSeparator a = false := by
  induction text generalizing piece with
  | nil =>
      rw [List.mem_singleton.mp member]
      exact fun a inside => absurd inside List.not_mem_nil
  | cons b rest ih =>
      by_cases separates : isSeparator b = true
      · rw [splitAtEvery_separator isSeparator b rest separates] at member
        rcases List.mem_cons.mp member with rfl | later
        · exact fun a inside => absurd inside List.not_mem_nil
        · exact ih piece later
      · have ordinary : isSeparator b = false := by simpa using separates
        obtain ⟨first, pieces, cut⟩ := exists_first_piece isSeparator rest
        rw [splitAtEvery_ordinary isSeparator b rest first pieces ordinary cut] at member
        rw [cut] at ih
        rcases List.mem_cons.mp member with rfl | later
        · intro a inside
          rcases List.mem_cons.mp inside with rfl | behind
          · exact ordinary
          · exact ih first List.mem_cons_self a behind
        · exact ih piece (List.mem_cons_of_mem _ later)

end Joining

namespace Http

/-! ## Segments of a query -/

structure WrittenPair where
  name : String
  value : String
  segment : List Char
  notEmpty : segment ≠ []
  oneSegment : '&' ∉ segment
  read : readPair segment = .ok (name, value)

def pairsOf (segments : List (List Char)) : List (String × String) :=
  segments.flatMap fun segment => (segmentPairs segment).value

theorem pairsOf_append (front back : List (List Char)) :
    pairsOf (front ++ back) = pairsOf front ++ pairsOf back :=
  List.flatMap_append

theorem segmentPairs_written (pair : WrittenPair) :
    (segmentPairs pair.segment).value = [(pair.name, pair.value)] := by
  have notEmpty : ¬ pair.segment.isEmpty = true := by simpa using pair.notEmpty
  rw [segmentPairs, if_neg notEmpty, pair.read]

namespace Request

/-- The segments of the query of a request; an empty query has none. -/
def segments (request : Request) : List (List Char) :=
  match request.uri.query with
  | some query => if query.isEmpty then [] else splitAtEvery (· == '&') query.toList
  | none => []

/-- A request with one more pair in its query, behind a number of its segments. -/
def addPair (request : Request) (place : Nat) (pair : WrittenPair) : Request :=
  let segments := request.segments.take place ++ pair.segment :: request.segments.drop place
  { request with
    uri := { request.uri with query := some (String.ofList (joinWith ['&'] segments)) } }

theorem ampersand_notMem_segments (request : Request) (segment : List Char)
    (member : segment ∈ request.segments) : '&' ∉ segment := by
  unfold segments at member
  split at member
  · split at member
    · exact absurd member List.not_mem_nil
    · intro inside
      have ordinary := ordinary_of_mem_splitAtEvery _ _ segment member '&' inside
      simp at ordinary
  · exact absurd member List.not_mem_nil

theorem segments_of_joined (request : Request) (segments : List (List Char))
    (given : request.uri.query = some (String.ofList (joinWith ['&'] segments)))
    (some : joinWith ['&'] segments ≠ []) (ordinary : ∀ segment ∈ segments, '&' ∉ segment) :
    request.segments = segments := by
  have pieces : segments ≠ [] := by
    rintro rfl
    exact some rfl
  have plain : ∀ segment ∈ segments, ∀ c ∈ segment, (c == '&') = false := by
    intro segment member
    exact ordinary_of_notMem '&' segment (ordinary segment member)
  have notEmpty : ¬ (String.ofList (joinWith ['&'] segments)).isEmpty = true := by
    simpa using some
  simp only [Request.segments, given, if_neg notEmpty, String.toList_ofList]
  exact splitAtEvery_joinWith (· == '&') '&' (by decide) segments pieces plain

theorem segments_addPair (request : Request) (place : Nat) (pair : WrittenPair) :
    (request.addPair place pair).segments =
      request.segments.take place ++ pair.segment :: request.segments.drop place := by
  refine segments_of_joined _ _ rfl ?_ ?_
  · obtain ⟨c, rest, shape⟩ := List.exists_cons_of_ne_nil pair.notEmpty
    rw [shape]
    refine List.ne_nil_of_mem (mem_joinWith _ (c :: rest) _ ?_ c List.mem_cons_self)
    exact List.mem_append_right _ List.mem_cons_self
  · intro other member
    rcases List.mem_append.mp member with before | here
    · exact request.ampersand_notMem_segments other (List.mem_of_mem_take before)
    · rcases List.mem_cons.mp here with rfl | behind
      · exact pair.oneSegment
      · exact request.ampersand_notMem_segments other (List.mem_of_mem_drop behind)

theorem queryParameters_eq (request : Request) :
    request.queryParameters.value = pairsOf request.segments := by
  unfold pairsOf queryParameters segments
  cases given : request.uri.query with
  | none => rfl
  | some query =>
      by_cases empty : query = ""
      · subst empty
        decide
      · have notEmpty : ¬ query.isEmpty = true := by simpa using empty
        simp only [if_neg notEmpty, parsePairs, Traced.collect, List.map_map, List.flatMap_def]
        rfl

theorem queryParameters_around (request : Request) (place : Nat) :
    request.queryParameters.value =
      pairsOf (request.segments.take place) ++ pairsOf (request.segments.drop place) := by
  rw [queryParameters_eq, ← pairsOf_append, List.take_append_drop]

theorem queryParameters_addPair (request : Request) (place : Nat) (pair : WrittenPair) :
    (request.addPair place pair).queryParameters.value =
      pairsOf (request.segments.take place) ++
        (pair.name, pair.value) :: pairsOf (request.segments.drop place) := by
  rw [queryParameters_eq, segments_addPair, pairsOf_append]
  rw [pairsOf, pairsOf, List.flatMap_cons, segmentPairs_written, List.singleton_append, pairsOf]

end Request

/-! ## The query in the start line -/

def shownSegments (segments : List (List Char)) : List Char :=
  joinWith ['&'] (segments.map lenientPart)

/-- A query as it is shown, with its question mark. -/
def shownQuery : List (List Char) → List Char
  | [] => []
  | segments => '?' :: shownSegments segments

/-- What is shown of a query in front of a place between its segments, with the separator there. -/
def shownBefore : List (List Char) → List (List Char) → List Char
  | [], [] => []
  | [], _ :: _ => ['?']
  | front, [] => '?' :: shownSegments front
  | front, _ :: _ => '?' :: (shownSegments front ++ ['&'])

/-- What is shown of a query behind a place between its segments, with the separator there. -/
def shownBehind : List (List Char) → List (List Char) → List Char
  | _, [] => []
  | [], back => shownSegments back
  | _ :: _, back => '&' :: shownSegments back

theorem shownSegments_append (front back : List (List Char)) (someFront : front ≠ [])
    (someBack : back ≠ []) :
    shownSegments (front ++ back) = shownSegments front ++ '&' :: shownSegments back := by
  rw [shownSegments, List.map_append, joinWith_append ['&'] _ _ (by simpa using someFront)
    (by simpa using someBack), List.append_assoc]
  rfl

theorem lenientPart_joinWith (segments : List (List Char)) :
    lenientPart (joinWith ['&'] segments) = shownSegments segments := by
  induction segments with
  | nil => decide
  | cons first rest ih =>
      cases rest with
      | nil => rfl
      | cons second more =>
          rw [joinWith_cons_cons, List.append_assoc, List.singleton_append,
            lenientPart_append '&' (by decide) delimiter_ampersand, ih]
          simp [shownSegments, joinWith_cons_cons]

theorem shownQuery_cons (first : List Char) (rest : List (List Char)) :
    shownQuery (first :: rest) = '?' :: shownSegments (first :: rest) := rfl

theorem questionMark_prefix_shownQuery (first : List Char) (rest : List (List Char)) :
    ['?'] <+: shownQuery (first :: rest) := by
  rw [shownQuery_cons]
  exact List.cons_prefix_cons.mpr ⟨rfl, List.nil_prefix⟩

theorem shownBefore_prefix_shownQuery (front back : List (List Char)) (segment : List Char) :
    shownBefore front back <+: shownQuery (front ++ back) ∧
      shownBefore front back <+: shownQuery (front ++ segment :: back) := by
  cases front with
  | nil =>
      cases back with
      | nil => exact ⟨List.nil_prefix, List.nil_prefix⟩
      | cons last others =>
          exact ⟨questionMark_prefix_shownQuery last others,
            questionMark_prefix_shownQuery segment (last :: others)⟩
  | cons first rest =>
      have more := shownSegments_append (first :: rest) (segment :: back) (by simp) (by simp)
      rw [List.cons_append, List.cons_append, shownQuery_cons, shownQuery_cons,
        ← List.cons_append, ← List.cons_append, more]
      cases back with
      | nil =>
          rw [List.append_nil]
          exact ⟨List.prefix_refl _, ⟨'&' :: shownSegments [segment], rfl⟩⟩
      | cons last others =>
          rw [shownSegments_append (first :: rest) (last :: others) (by simp) (by simp)]
          refine ⟨⟨shownSegments (last :: others), ?_⟩,
            ⟨shownSegments (segment :: last :: others), ?_⟩⟩
          · simp [shownBefore]
          · simp [shownBefore]

theorem shownBehind_suffix_shownQuery (front back : List (List Char)) (segment : List Char) :
    shownBehind front back <:+ shownQuery (front ++ back) ∧
      shownBehind front back <:+ shownQuery (front ++ segment :: back) := by
  cases back with
  | nil => exact ⟨List.nil_suffix, List.nil_suffix⟩
  | cons last others =>
      cases front with
      | nil =>
          have more := shownSegments_append [segment] (last :: others) (by simp) (by simp)
          rw [List.singleton_append] at more
          rw [List.nil_append, List.nil_append, shownQuery_cons, shownQuery_cons, more]
          refine ⟨⟨['?'], rfl⟩, ⟨'?' :: (shownSegments [segment] ++ ['&']), ?_⟩⟩
          simp [shownBehind]
      | cons first rest =>
          have more := shownSegments_append (first :: rest ++ [segment]) (last :: others) (by simp)
            (by simp)
          rw [List.append_assoc, List.singleton_append] at more
          rw [List.cons_append, List.cons_append, shownQuery_cons, shownQuery_cons,
            ← List.cons_append, ← List.cons_append, more,
            shownSegments_append (first :: rest) (last :: others) (by simp) (by simp)]
          refine ⟨⟨'?' :: shownSegments (first :: rest), ?_⟩,
            ⟨'?' :: shownSegments (first :: rest ++ [segment]), ?_⟩⟩
          · simp [shownBehind]
          · simp [shownBehind]

/-! ## The raw text around the query -/

namespace Request

/-- The raw text of a request up to its query. -/
def rawOpening (request : Request) : List Char :=
  request.method.toList ++ ' ' :: (Query.unescapeTextLenient false request.uri.path).toList

/-- The raw text of a request from the end of its query on. -/
def rawClosing (request : Request) : List Char :=
  (" " ++ request.version.name ++ "\n" ++ "Host: " ++ request.host ++ "\n" ++
    headerLines (request.headers.texts.filter fun entry => entry.1 != "host") ++ "\n" ++
    lossyText request.body.bytes).toList

/-- The raw text up to the place where a segment is added, with the separator there. -/
def rawBefore (request : Request) (place : Nat) : String :=
  String.ofList (request.rawOpening ++
    shownBefore (request.segments.take place) (request.segments.drop place))

/-- The raw text from the place on where a segment is added, with the separator there. -/
def rawBehind (request : Request) (place : Nat) : String :=
  String.ofList (shownBehind (request.segments.take place) (request.segments.drop place) ++
    request.rawClosing)

theorem target_toList (request : Request) :
    request.target.toList =
      (Query.unescapeTextLenient false request.uri.path).toList ++ shownQuery request.segments := by
  unfold target segments
  cases given : request.uri.query with
  | none => simp [shownQuery]
  | some query =>
      by_cases empty : query.isEmpty = true
      · simp [empty, shownQuery]
      · simp only [if_neg empty, String.toList_append, List.append_assoc]
        obtain ⟨piece, pieces, cut⟩ := exists_first_piece (· == '&') query.toList
        have joined := joinWith_splitAtEvery (· == '&') '&' (by simp) query.toList
        rw [cut] at joined
        rw [cut, shownQuery_cons, ← lenientPart_joinWith, joined, lenientPart, String.ofList_toList]
        rfl

theorem rawText_toList (request : Request) :
    request.rawText.toList =
      request.rawOpening ++ shownQuery request.segments ++ request.rawClosing := by
  simp [rawText, head, startLine, target_toList, rawOpening, rawClosing]

theorem rawBefore_prefix_rawText (request : Request) (place : Nat) (pair : WrittenPair) :
    (request.rawBefore place).toList <+: request.rawText.toList ∧
      (request.rawBefore place).toList <+: (request.addPair place pair).rawText.toList := by
  have shown := shownBefore_prefix_shownQuery (request.segments.take place) (request.segments.drop place)
    pair.segment
  rw [List.take_append_drop, ← request.segments_addPair place pair] at shown
  have opening : (request.addPair place pair).rawOpening = request.rawOpening := rfl
  rw [rawText_toList, rawText_toList, opening, rawBefore, String.toList_ofList]
  constructor
  · exact ((List.prefix_append_right_inj _).mpr shown.1).trans (List.prefix_append _ _)
  · exact ((List.prefix_append_right_inj _).mpr shown.2).trans (List.prefix_append _ _)

theorem rawBehind_suffix_rawText (request : Request) (place : Nat) (pair : WrittenPair) :
    (request.rawBehind place).toList <:+ request.rawText.toList ∧
      (request.rawBehind place).toList <:+ (request.addPair place pair).rawText.toList := by
  have shown := shownBehind_suffix_shownQuery (request.segments.take place) (request.segments.drop place)
    pair.segment
  rw [List.take_append_drop, ← request.segments_addPair place pair] at shown
  have opening : (request.addPair place pair).rawOpening = request.rawOpening := rfl
  have closing : (request.addPair place pair).rawClosing = request.rawClosing := rfl
  rw [rawText_toList, rawText_toList, opening, closing, rawBehind, String.toList_ofList,
    List.append_assoc, List.append_assoc]
  obtain ⟨⟨before, closed⟩, ⟨beforeIt, opened⟩⟩ := shown
  rw [← closed, ← opened]
  constructor
  · exact ⟨request.rawOpening ++ before, by simp⟩
  · exact ⟨request.rawOpening ++ beforeIt, by simp⟩

end Request

end Http

end HttpInspection
