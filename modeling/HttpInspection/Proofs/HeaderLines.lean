import HttpInspection.Exchange
import HttpInspection.Proofs.Verbatim

/-!
# Which header values stand in the raw exchange

The raw text of a message has each of its headers in one line, so that a match in a header value has
a place there.  The host of a request has a line of its own, and of several values of that header
only the first one is in it.
-/

set_option autoImplicit false

namespace HttpInspection

open Http

namespace Http

/-! ## Values in one line -/

/-- No value of the headers has a newline in it. -/
def Headers.OneLine (headers : Headers) : Prop :=
  ∀ entry ∈ headers.entries, ∀ value ∈ entry.2, '\n'.toNat.toUInt8 ∉ value

namespace Headers

theorem mem_of_mem_insertValue (name : String) (value : List UInt8)
    (entries : List (String × List (List UInt8))) (entry : String × List (List UInt8))
    (inserted : entry ∈ insertValue name value entries) (other : List UInt8)
    (member : other ∈ entry.2) : other = value ∨ ∃ old ∈ entries, other ∈ old.2 := by
  induction entries with
  | nil =>
      rw [List.mem_singleton.mp inserted] at member
      exact .inl (List.mem_singleton.mp member)
  | cons first rest ih =>
      obtain ⟨firstName, values⟩ := first
      by_cases same : firstName = name
      · rw [insertValue, if_pos same] at inserted
        rcases List.mem_cons.mp inserted with rfl | later
        · rcases List.mem_append.mp member with old | new
          · exact .inr ⟨_, List.mem_cons_self, old⟩
          · exact .inl (List.mem_singleton.mp new)
        · exact .inr ⟨entry, List.mem_cons_of_mem _ later, member⟩
      · rw [insertValue, if_neg same] at inserted
        rcases List.mem_cons.mp inserted with rfl | later
        · exact .inr ⟨_, List.mem_cons_self, member⟩
        · rcases ih later with new | ⟨old, inRest, found⟩
          · exact .inl new
          · exact .inr ⟨old, List.mem_cons_of_mem _ inRest, found⟩

theorem oneLine_append (headers : Headers) (oneLine : headers.OneLine) (name : String)
    (value : List UInt8) (acceptable : value.all isHeaderByte = true) :
    (headers.append name value).OneLine := by
  intro entry inserted other member
  rcases mem_of_mem_insertValue name value headers.entries entry inserted other member with
    rfl | ⟨old, given, found⟩
  · intro newline
    exact absurd (List.all_eq_true.mp acceptable _ newline) (by decide)
  · exact oneLine old given other found

theorem oneLine_appendAll (headers grown : Headers) (oneLine : headers.OneLine)
    (pairs : List (String × List UInt8)) (accepted : headers.appendAll pairs = .ok grown) :
    grown.OneLine := by
  induction pairs generalizing headers with
  | nil =>
      cases accepted
      exact oneLine
  | cons pair rest ih =>
      obtain ⟨text, value⟩ := pair
      unfold appendAll at accepted
      cases named : headerName? text with
      | none => simp [named] at accepted
      | some name =>
          by_cases acceptable : value.all isHeaderByte = true
          · simp only [named, if_pos acceptable] at accepted
            exact ih _ (headers.oneLine_append oneLine name value acceptable) accepted
          · simp [named, acceptable] at accepted

theorem oneLine_ofPairs (pairs : List (String × List UInt8)) (headers : Headers)
    (accepted : ofPairs pairs = .ok headers) : headers.OneLine :=
  oneLine_appendAll {} headers (fun _ member => absurd member List.not_mem_nil) pairs accepted

theorem newline_notMem_of_texts (headers : Headers) (oneLine : headers.OneLine)
    (entry : String × List String) (given : entry ∈ headers.texts) (value : String)
    (member : value ∈ entry.2) : '\n' ∉ value.toList := by
  obtain ⟨⟨name, values⟩, inHeaders, rfl⟩ := List.mem_map.mp given
  obtain ⟨bytes, inValues, rfl⟩ := List.mem_map.mp member
  intro newline
  rw [toList_lossyText] at newline
  exact oneLine _ inHeaders bytes inValues
    (Utf8.mem_of_mem_decodeLossy '\n' (by decide) (by decide) bytes newline)

end Headers

theorem Request.oneLine_of_build (method target : String) (version : Version)
    (pairs : List (String × List UInt8)) (body : List UInt8) (remote : Option IpAddress)
    (request : Request) (built : build method target version pairs body remote = .ok request) :
    request.headers.OneLine := by
  unfold build at built
  cases accepted : Headers.ofPairs pairs with
  | error fault => simp [accepted, bind, Except.bind] at built
  | ok headers =>
      have oneLine := Headers.oneLine_ofPairs pairs headers accepted
      simp only [accepted, bind, Except.bind] at built
      split at built
      · cases built
      · split at built
        · cases built
        · cases built
          exact oneLine

theorem Response.oneLine_of_build (status : Nat) (version : Version)
    (pairs : List (String × List UInt8)) (body : List UInt8) (response : Response)
    (built : build status version pairs body = .ok response) : response.headers.OneLine := by
  unfold build at built
  cases accepted : Headers.ofPairs pairs with
  | error fault => simp [accepted, bind, Except.bind] at built
  | ok headers =>
      have oneLine := Headers.oneLine_ofPairs pairs headers accepted
      simp only [accepted, bind, Except.bind] at built
      split at built
      · cases built
        exact oneLine
      · cases built

/-! ## Lines of headers -/

theorem infix_intercalate (separator value : String) (values : List String)
    (member : value ∈ values) : value.toList <:+: (separator.intercalate values).toList := by
  induction values with
  | nil => exact absurd member List.not_mem_nil
  | cons first rest ih =>
      cases rest with
      | nil =>
          have single : value.toList = (separator.intercalate [first]).toList := by
            rw [List.mem_singleton.mp member, String.intercalate_singleton]
          exact single ▸ List.infix_refl _
      | cons second others =>
          rw [String.intercalate_cons_cons, String.toList_append, String.toList_append]
          rcases List.mem_cons.mp member with rfl | later
          · rw [List.append_assoc]
            exact (List.prefix_append _ _).isInfix
          · exact (ih later).trans (List.suffix_append _ _).isInfix

theorem value_infix_headerLine (entry : String × List String) (value : String)
    (member : value ∈ entry.2) : value.toList <:+: (headerLine entry).toList := by
  refine (infix_intercalate ";" value entry.2 member).trans ?_
  simp only [headerLine, String.toList_append]
  exact List.infix_append _ _ _

theorem infix_join (parts : List String) (part : String) (member : part ∈ parts) :
    part.toList <:+: (String.join parts).toList := by
  rw [String.toList_join, List.flatMap_def]
  exact List.infix_of_mem_flatten (List.mem_map_of_mem member)

theorem Request.rawText_eq_join (request : Request) :
    request.rawText = String.join
      [request.startLine, "Host: ", request.host, "\n",
        headerLines (request.headers.texts.filter fun entry => entry.1 != "host"), "\n",
        lossyText request.body.bytes] := by
  simp [rawText, head, String.append_assoc]

theorem Response.rawText_eq_join (response : Response) :
    response.rawText = String.join
      [response.startLine, headerLines response.headers.texts, "\n",
        lossyText response.body.bytes] := by
  simp [rawText, head, String.append_assoc]

/-- A header value of a request stands in the raw text, but for further values of the host. -/
theorem Request.headerValue_infix_rawText (request : Request) (entry : String × List String)
    (given : entry ∈ request.headers.texts) (value : String) (member : value ∈ entry.2)
    (shown : entry.1 = "host" → value = request.host) :
    value.toList <:+: request.rawText.toList := by
  rw [request.rawText_eq_join]
  by_cases host : entry.1 = "host"
  · rw [shown host]
    exact infix_join _ _ (by simp)
  · have others : entry ∈ request.headers.texts.filter fun entry => entry.1 != "host" :=
      List.mem_filter.mpr ⟨given, by simpa using host⟩
    refine (value_infix_headerLine entry value member).trans ?_
    refine (infix_join _ _ (List.mem_map_of_mem others)).trans ?_
    exact infix_join _ _ (by simp [headerLines])

theorem Response.headerValue_infix_rawText (response : Response) (entry : String × List String)
    (given : entry ∈ response.headers.texts) (value : String) (member : value ∈ entry.2) :
    value.toList <:+: response.rawText.toList := by
  rw [response.rawText_eq_join]
  refine (value_infix_headerLine entry value member).trans ?_
  refine (infix_join _ _ (List.mem_map_of_mem given)).trans ?_
  exact infix_join _ _ (by simp [headerLines])

end Http

theorem newline_notMem_of_occurs (matched text : String) (oneLine : '\n' ∉ text.toList)
    (occurs : OccursIgnoringAsciiCase matched text) : '\n' ∉ matched.toList := by
  intro newline
  obtain ⟨c, inText, lowered⟩ := List.mem_map.mp (occurs.subset (List.mem_map_of_mem newline))
  have same := Lowercase.asciiChar_newline c
  have kept : (Lowercase.asciiChar '\n' == '\n') = true := by decide
  rw [lowered, kept] at same
  have found : c = '\n' := beq_iff_eq.mp same.symm
  exact oneLine (found ▸ inText)

/-- A match in a header value has a place in the raw text of the message, and is not dropped for want
of one, unless it is in a value of the host of a request that is not the one its line shows. -/
theorem header_match_has_place (matched : String) (notEmpty : matched ≠ "") :
    (∀ request : Request, request.headers.OneLine →
      ∀ entry ∈ request.capture.value.1.headers, ∀ value ∈ entry.2,
        (entry.1 = "host" → value = request.host) → OccursIgnoringAsciiCase matched value →
          HasPlace request.dump.1 matched) ∧
    (∀ response : Response, response.headers.OneLine →
      ∀ entry ∈ response.capture.1.headers, ∀ value ∈ entry.2,
        OccursIgnoringAsciiCase matched value → HasPlace response.dump.1 matched) := by
  constructor
  · intro request oneLine entry given value member shown occurs
    rw [request.capture_eq] at given
    rw [request.dump_eq]
    have ordinary := request.headers.newline_notMem_of_texts oneLine entry given value member
    exact hasPlace_of_infix_raw request.rawText value matched notEmpty
      (newline_notMem_of_occurs matched value ordinary occurs) occurs
      (request.headerValue_infix_rawText entry given value member shown)
  · intro response oneLine entry given value member occurs
    rw [response.capture_eq] at given
    rw [response.dump_eq]
    have ordinary := response.headers.newline_notMem_of_texts oneLine entry given value member
    exact hasPlace_of_infix_raw response.rawText value matched notEmpty
      (newline_notMem_of_occurs matched value ordinary occurs) occurs
      (response.headerValue_infix_rawText entry given value member)

theorem eq_ok_of_toOption {ε α : Type} (given : Except ε α) (value : α)
    (read : given.toOption = some value) : given = .ok value := by
  cases given with
  | error fault => cases read
  | ok other => exact congrArg Except.ok (Option.some.inj read)

/-- A request with a header given twice, in two spellings, the second time with a byte that is no
UTF-8. -/
def taggedRequest : Request where
  headers := ⟨[("host", [bytesOf "shop"]), ("x-tag", [bytesOf "first", 0xC3 :: bytesOf " SELECT"])]⟩

theorem header_match_has_place_tagged :
    "select" ≠ "" ∧ taggedRequest.headers.OneLine ∧
      ("x-tag", ["first", "\uFFFD SELECT"]) ∈ taggedRequest.capture.value.1.headers ∧
      OccursIgnoringAsciiCase "select" "\uFFFD SELECT" ∧
      HasPlace taggedRequest.dump.1 "select" := by
  have notEmpty : "select" ≠ "" := by decide
  have built : Headers.ofPairs [("Host", bytesOf "shop"), ("X-Tag", bytesOf "first"),
      ("x-TAG", 0xC3 :: bytesOf " SELECT")] = .ok taggedRequest.headers :=
    eq_ok_of_toOption _ _ (by decide +kernel)
  have oneLine := Headers.oneLine_ofPairs _ _ built
  have given : ("x-tag", ["first", "\uFFFD SELECT"]) ∈ taggedRequest.capture.value.1.headers := by
    decide +kernel
  have occurs : OccursIgnoringAsciiCase "select" "\uFFFD SELECT" := by
    unfold OccursIgnoringAsciiCase
    decide +kernel
  have noHost : ("x-tag", ["first", "\uFFFD SELECT"]).1 = "host" →
      "\uFFFD SELECT" = taggedRequest.host :=
    fun same => absurd same (by decide)
  exact ⟨notEmpty, oneLine, given, occurs,
    (header_match_has_place "select" notEmpty).1 taggedRequest oneLine _ given _ (by simp) noHost
      occurs⟩

def twoHosts : Request where
  headers := ⟨[("host", [bytesOf "shop.local", bytesOf "union select"])]⟩

def hostGuard : Agent where
  agentId := "guard"
  settings := { mode := .waf }
  rules :=
    { rules := [{ id := "host"
                  info := { severity := .high, action := some .drop }
                  request := some
                    { headers := [{ name := "host", mode := { literal := "union select" } }] } }] }

/-- The second host is searched and found, but stands nowhere in the raw text, and so the request is
let through. -/
theorem second_host_has_no_place :
    Request.build "GET" "/" .http11
        [("Host", bytesOf "shop.local"), ("Host", bytesOf "union select")] [] none =
      .ok twoHosts ∧
      twoHosts.headers.OneLine ∧
      ("host", ["shop.local", "union select"]) ∈ twoHosts.capture.value.1.headers ∧
      OccursIgnoringAsciiCase "union select" "union select" ∧
      ¬ HasPlace twoHosts.dump.1 "union select" ∧
      (hostGuard.handle { forward := fun _ => .ok {} } twoHosts).outcome.blocked = false := by
  have built : Request.build "GET" "/" .http11
      [("Host", bytesOf "shop.local"), ("Host", bytesOf "union select")] [] none =
        .ok twoHosts :=
    eq_ok_of_toOption _ _ (by decide +kernel)
  have unseen : ¬ HasPlace twoHosts.dump.1 "union select" := by
    rintro ⟨located, -⟩
    have nowhere : locate twoHosts.dump.1 "union select" = none := by decide +kernel
    rw [nowhere] at located
    exact Bool.false_ne_true located
  have searched : ("host", ["shop.local", "union select"]) ∈
      twoHosts.capture.value.1.headers := by
    decide +kernel
  have passed : (hostGuard.handle { forward := fun _ => .ok {} } twoHosts).outcome.blocked =
      false := by
    decide +kernel
  exact ⟨built, Request.oneLine_of_build _ _ _ _ _ _ _ built, searched, List.infix_refl _, unseen,
    passed⟩

end HttpInspection
