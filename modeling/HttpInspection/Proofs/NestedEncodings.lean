import HttpInspection.Proofs.Base64
import HttpInspection.Proofs.PlaceWalks
import HttpInspection.Proofs.QueryEscaping
import HttpInspection.Rule.Match

/-!
# Nested encodings are undone

A text that was written in several of the declared encodings, one inside the other and in whatever
order, is among the candidates of the result: the order that undoes the encodings from the outside
to the inside is tried, and each of its steps applies.
-/

set_option autoImplicit false

namespace HttpInspection

/-- Which texts write a text in an encoding. -/
def Encoding.Writes : Encoding → String → String → Prop
  | base64, text, written => written = base64Text text
  | url, text, written => Query.Escapes (bytesOf text) (bytesOf written)

/-- A text is written in the encodings at some places of a list, in the one at the last place first
and in the one at the first place last. -/
def Nested (encodings : List Encoding) : List Nat → String → String → Prop
  | [], text, written => written = text
  | place :: inner, text, written =>
    ∃ encoding between, encodings[place]? = some encoding ∧
      Nested encodings inner text between ∧ encoding.Writes between written

theorem Encoding.decode_writes (encoding : Encoding) (text written : String)
    (writes : encoding.Writes text written) : encoding.decode written = .ok text := by
  cases encoding with
  | base64 =>
      have same : written = base64Text text := writes
      simp only [decode, same, decode_base64Text, lossyText_bytesOf]
  | url => exact Query.unescapeText_escapes text written writes

theorem atPlaces_cons (encodings : List Encoding) (place : Nat) (inner : List Nat)
    (encoding : Encoding) (there : encodings[place]? = some encoding) :
    atPlaces encodings (place :: inner) = encoding :: atPlaces encodings inner := by
  simp [atPlaces, there]

/-- The induction is on the places from the outermost encoding inwards. -/
theorem decodeAlong_nested (encodings : List Encoding) (places : List Nat) (text written : String)
    (nested : Nested encodings places text written) :
    Encoding.decodeAlong (atPlaces encodings places) written = (text, none) := by
  induction places generalizing written with
  | nil =>
      have same : written = text := nested
      rw [same]
      rfl
  | cons place inner ih =>
      obtain ⟨encoding, between, there, innerNested, writes⟩ := nested
      rw [atPlaces_cons encodings place inner encoding there, Encoding.decodeAlong,
        Encoding.decode_writes encoding between written writes]
      exact ih between innerNested

theorem place_lt_of_nested (encodings : List Encoding) (places : List Nat) (text written : String)
    (nested : Nested encodings places text written) :
    ∀ place ∈ places, place < encodings.length := by
  induction places generalizing written with
  | nil => simp
  | cons first inner ih =>
      obtain ⟨encoding, between, there, innerNested, -⟩ := nested
      obtain ⟨below, -⟩ := List.getElem?_eq_some_iff.mp there
      intro place member
      rcases List.mem_cons.mp member with rfl | later
      · exact below
      · exact ih between innerNested place later

theorem mem_candidates_of_nested (encodings : List Encoding) (places : List Nat)
    (text written : String) (distinct : places.Nodup)
    (nested : Nested encodings places text written) : text ∈ candidates written encodings := by
  by_cases none : places = []
  · subst none
    have same : written = text := nested
    rw [same]
    exact List.mem_cons_self
  · have tried := atPlaces_mem_decodeOrders encodings places none distinct
      (place_lt_of_nested encodings places text written nested)
    refine List.mem_cons_of_mem _ (List.mem_map.mpr ⟨_, tried, ?_⟩)
    rw [decodeAlong_nested encodings places text written nested]

theorem candidates_nil (text : String) : candidates text [] = [text] := rfl

/-- What a search without encodings finds in a candidate, the search finds. -/
theorem mem_search_of_mem_candidates (mode plain : SearchMode) (text written : String)
    (literal : plain.literal = mode.literal) (pattern : plain.pattern = mode.pattern)
    (undecoded : plain.effectiveEncodings = [])
    (candidate : text ∈ candidates written mode.effectiveEncodings) :
    ∀ found ∈ (plain.search text).value, found ∈ (mode.search written).value := by
  intro found member
  have compiled : plain.compiled = mode.compiled := by
    simp only [SearchMode.compiled, pattern]
  have hits : ∀ regex, plain.hits regex text = mode.hits regex text := by
    intro regex
    simp only [SearchMode.hits, SearchMode.literalHit, literal]
  unfold SearchMode.search at member ⊢
  rw [compiled] at member
  cases outcome : mode.compiled with
  | error failure =>
      rw [outcome] at member
      simp at member
  | ok regex =>
      rw [outcome] at member
      simp only [undecoded, candidates_nil, List.flatMap_singleton, hits] at member
      exact List.mem_flatMap.mpr ⟨text, candidate, member⟩

/-- Whatever the order and the number of the encodings that a text was written in, it is a candidate
of the result, and a search finds in the result what it finds in the text itself. -/
theorem nested_encodings_undone (encodings : List Encoding) (places : List Nat)
    (text written : String) (distinct : places.Nodup)
    (nested : Nested encodings places text written) :
    text ∈ candidates written encodings ∧
      ∀ mode plain : SearchMode, mode.effectiveEncodings = encodings →
        plain.literal = mode.literal → plain.pattern = mode.pattern →
        plain.effectiveEncodings = [] →
        ∀ found ∈ (plain.search text).value, found ∈ (mode.search written).value := by
  have candidate := mem_candidates_of_nested encodings places text written distinct nested
  refine ⟨candidate, ?_⟩
  rintro mode plain rfl literal pattern undecoded
  exact mem_search_of_mem_candidates mode plain text written literal pattern undecoded candidate

/-- A blank as a plus sign and a letter as an escape; the whole in base64; its padding as an escape
with a small letter. -/
theorem nested_encodings_undone_three :
    [2, 1, 0].Nodup ∧ Nested [.url, .base64, .url] [2, 1, 0] "a b" "YSslNjI%3d" ∧
      "a b" ∈ candidates "YSslNjI%3d" [.url, .base64, .url] ∧
      "A B" ∈ (SearchMode.search
        { literal := "A B", encodings := some [.url, .base64, .url] } "YSslNjI%3d").value := by
  have text : bytesOf "a b" = [0x61] ++ [0x20, 0x62] := by decide
  have inner : bytesOf "a+%62" = [0x61] ++ ([0x2B] ++ ([0x25, 0x36, 0x32] ++ [])) := by decide
  have middle : bytesOf "YSslNjI=" = [0x59, 0x53, 0x73, 0x6C, 0x4E, 0x6A, 0x49] ++ [0x3D] := by
    decide
  have outer : bytesOf "YSslNjI%3d" =
      [0x59, 0x53, 0x73, 0x6C, 0x4E, 0x6A, 0x49] ++ ([0x25, 0x33, 0x64] ++ []) := by decide
  have first : Encoding.url.Writes "a b" "a+%62" := by
    change Query.Escapes _ _
    rw [text, inner]
    exact Query.escapes_plain [0x61] (by decide +kernel)
      (.cons .plus (.cons (.escape (by decide) (by decide)) .nil))
  have second : Encoding.base64.Writes "a+%62" "YSslNjI=" := by
    change _ = base64Text _
    decide
  have third : Encoding.url.Writes "YSslNjI=" "YSslNjI%3d" := by
    change Query.Escapes _ _
    rw [middle, outer]
    exact Query.escapes_plain _ (by decide +kernel) (.cons (.escape (by decide) (by decide)) .nil)
  have nested : Nested [.url, .base64, .url] [2, 1, 0] "a b" "YSslNjI%3d" :=
    ⟨.url, "YSslNjI=", rfl, ⟨.base64, "a+%62", rfl, ⟨.url, "a b", rfl, rfl, first⟩, second⟩, third⟩
  have undone := nested_encodings_undone _ [2, 1, 0] "a b" "YSslNjI%3d" (by decide) nested
  refine ⟨by decide, nested, undone.1, ?_⟩
  exact undone.2 { literal := "A B", encodings := some [.url, .base64, .url] }
    { literal := "A B" } rfl rfl rfl rfl "A B" (by decide)

end HttpInspection
