import HttpInspection.Rule.Match

/-!
# Matchers of one body

The matchers of a body are taken in order, and a digest that one of them needed is kept for those
behind it.  What they find is what each of them finds alone, one after the other: the texts in the
text of the body, and the digests of its bytes that were asked for.
-/

set_option autoImplicit false

namespace HttpInspection

/-! ## Digests as texts -/

def HashAlgorithm.digest : HashAlgorithm → List UInt8 → List UInt8
  | .md5 => Digest.Md5.digest
  | .sha256 => Digest.Sha256.digest

namespace Hex

def lowerDigits : List Char := "0123456789abcdef".toList

/-- A text writes bytes with two lower-case digits each, the greater one first. -/
def Writes (text : String) (bytes : List UInt8) : Prop :=
  text.toList = bytes.flatMap fun b =>
    [lowerDigits.getD (b.toNat / 16) '0', lowerDigits.getD (b.toNat % 16) '0']

theorem digit_eq : ∀ n < 16, digit n = lowerDigits.getD n '0' := by
  decide

theorem ofByte_eq (b : UInt8) :
    ofByte b = [lowerDigits.getD (b.toNat / 16) '0', lowerDigits.getD (b.toNat % 16) '0'] := by
  have bound := b.toNat_lt
  have high := digit_eq (b.toNat / 16) (by omega)
  have low := digit_eq (b.toNat % 16) (by omega)
  rw [ofByte, high, low]

theorem ofBytes_writes (bytes : List UInt8) : Writes (ofBytes bytes) bytes := by
  rw [Writes, ofBytes, String.toList_ofList]
  exact congrArg (bytes.flatMap ·) (funext ofByte_eq)

end Hex

namespace HashAlgorithm

theorem hexDigest_writes (algorithm : HashAlgorithm) (body : List UInt8) :
    Hex.Writes (algorithm.hexDigest body) (algorithm.digest body) := by
  cases algorithm with
  | md5 => exact Hex.ofBytes_writes _
  | sha256 => exact Hex.ofBytes_writes _

theorem digest_ne_nil (algorithm : HashAlgorithm) (body : List UInt8) :
    algorithm.digest body ≠ [] := by
  cases algorithm with
  | md5 => simp [digest, Digest.Md5.digest, Digest.bytesOfNat, Digest.bytesLeastFirst]
  | sha256 => simp [digest, Digest.Sha256.digest, Digest.bytesOfNat, Digest.bytesLeastFirst]

/-- No digest is the empty text, so that an empty text never stands for one. -/
theorem not_hexDigest_empty (algorithm : HashAlgorithm) (body : List UInt8) :
    equalIgnoringAsciiCase (algorithm.hexDigest body) (trim "") = false := by
  obtain ⟨first, rest, digits⟩ := List.exists_cons_of_ne_nil (algorithm.digest_ne_nil body)
  have written := algorithm.hexDigest_writes body
  rw [Hex.Writes, digits, List.flatMap_cons] at written
  rw [equalIgnoringAsciiCase, written]
  rfl

end HashAlgorithm

/-! ## Digests that are known -/

namespace KnownDigests

/-- What is known are the digests of a body. -/
def SoundFor (known : KnownDigests) (body : List UInt8) : Prop :=
  ∀ algorithm digest, known.find? algorithm = some digest → digest = algorithm.hexDigest body

theorem find_learn (known : KnownDigests) (algorithm other : HashAlgorithm) (digest : String) :
    (known.learn algorithm digest).find? other =
      if other = algorithm then some digest else known.find? other := by
  cases algorithm <;> cases other <;> rfl

variable {known : KnownDigests} {body : List UInt8} (sound : known.SoundFor body)
include sound

theorem SoundFor.learn (algorithm : HashAlgorithm) :
    (known.learn algorithm (algorithm.hexDigest body)).SoundFor body := by
  intro other digest found
  rw [find_learn] at found
  by_cases same : other = algorithm
  · rw [if_pos same] at found
    rw [← Option.some.inj found, same]
  · rw [if_neg same] at found
    exact sound other digest found

/-- Whether it is known or not, the digest that is used is that of the body. -/
theorem SoundFor.fetch_fst (algorithm : HashAlgorithm) :
    (known.fetch body algorithm).1 = algorithm.hexDigest body := by
  unfold fetch
  cases found : known.find? algorithm with
  | none => rfl
  | some digest => exact sound algorithm digest found

theorem SoundFor.fetch_snd (algorithm : HashAlgorithm) :
    (known.fetch body algorithm).2.SoundFor body := by
  unfold fetch
  cases known.find? algorithm with
  | none => exact sound.learn algorithm
  | some digest => exact sound

end KnownDigests

/-! ## One matcher -/

namespace BodyMatcher

/-- A matcher asks for a digest: its sum without the blanks at its ends is the digest in some
case. -/
def AsksFor (matcher : BodyMatcher) : HashAlgorithm → String → Prop
  | .md5, digest =>
    ∃ sum, matcher.md5sum = some sum ∧ equalIgnoringAsciiCase digest (trim sum) = true
  | .sha256, digest =>
    ∃ sum, matcher.sha256sum = some sum ∧ equalIgnoringAsciiCase digest (trim sum) = true

theorem asksFor_iff (matcher : BodyMatcher) (algorithm : HashAlgorithm) (digest : String) :
    matcher.AsksFor algorithm digest ↔
      ∃ sum, matcher.expected algorithm = some sum ∧
        equalIgnoringAsciiCase digest (trim sum) = true := by
  cases algorithm <;> exact Iff.rfl

instance (matcher : BodyMatcher) (algorithm : HashAlgorithm) (digest : String) :
    Decidable (matcher.AsksFor algorithm digest) :=
  decidable_of_iff
    ((matcher.expected algorithm).any fun sum => equalIgnoringAsciiCase digest (trim sum))
    (by cases given : matcher.expected algorithm <;> simp [asksFor_iff, given])

/-- The digest of a body if a matcher asks for it, computed for this matcher alone. -/
def hashOf (matcher : BodyMatcher) (body : List UInt8) (algorithm : HashAlgorithm) :
    List (HashAlgorithm × String) :=
  let digest := algorithm.hexDigest body
  if matcher.AsksFor algorithm digest then [(algorithm, digest)] else []

def hashes (matcher : BodyMatcher) (body : List UInt8) : List (HashAlgorithm × String) :=
  matcher.hashOf body .md5 ++ matcher.hashOf body .sha256

theorem hashes_withMode (matcher : BodyMatcher) (mode : SearchMode) (body : List UInt8) :
    { matcher with mode }.hashes body = matcher.hashes body :=
  rfl

end BodyMatcher

namespace BodySearch

/-- A search goes on by some texts and some digests, and all digests that it knows are those of the
body. -/
structure GoesOnBy (before : BodySearch) (body : List UInt8) (texts : List String)
    (hashes : List (HashAlgorithm × String)) (after : BodySearch) : Prop where
  text : after.found.text = before.found.text ++ texts
  hashes : after.found.hashes = before.found.hashes ++ hashes
  sound : after.known.SoundFor body

theorem soundFor_start (body : List UInt8) : ({} : BodySearch).known.SoundFor body := by
  intro algorithm digest found
  cases algorithm <;> cases found

variable {body : List UInt8} {search : BodySearch} (sound : search.known.SoundFor body)

theorem GoesOnBy.trans {texts moreTexts : List String}
    {hashes moreHashes : List (HashAlgorithm × String)} {middle after : BodySearch}
    (first : search.GoesOnBy body texts hashes middle)
    (second : middle.GoesOnBy body moreTexts moreHashes after) :
    search.GoesOnBy body (texts ++ moreTexts) (hashes ++ moreHashes) after := by
  refine ⟨?_, ?_, second.sound⟩
  · rw [second.text, first.text, List.append_assoc]
  · rw [second.hashes, first.hashes, List.append_assoc]

include sound

theorem addTexts_goesOnBy (texts : List String) :
    search.GoesOnBy body texts [] (search.addTexts texts) :=
  ⟨rfl, (List.append_nil _).symm, sound⟩

theorem compareDigest_goesOnBy (matcher : BodyMatcher) (algorithm : HashAlgorithm) :
    search.GoesOnBy body [] (matcher.hashOf body algorithm)
      (search.compareDigest body matcher algorithm) := by
  have unchanged (none : ¬ matcher.AsksFor algorithm (algorithm.hexDigest body)) :
      search.GoesOnBy body [] (matcher.hashOf body algorithm) search := by
    rw [BodyMatcher.hashOf, if_neg none]
    exact ⟨(List.append_nil _).symm, (List.append_nil _).symm, sound⟩
  unfold compareDigest
  cases given : matcher.expected algorithm with
  | none => exact unchanged (by simp [BodyMatcher.asksFor_iff, given])
  | some sum =>
      by_cases empty : sum = ""
      · rw [empty]
        refine unchanged ?_
        rw [BodyMatcher.asksFor_iff]
        rintro ⟨other, asked, equal⟩
        rw [given, Option.some.injEq] at asked
        rw [← asked, empty, algorithm.not_hexDigest_empty body] at equal
        exact Bool.false_ne_true equal
      · have asks : matcher.AsksFor algorithm (algorithm.hexDigest body) ↔
            equalIgnoringAsciiCase (algorithm.hexDigest body) (trim sum) = true := by
          simp [BodyMatcher.asksFor_iff, given]
        rw [Option.filter_some, if_pos (by simpa using empty)]
        simp only [sound.fetch_fst]
        by_cases equal : equalIgnoringAsciiCase (algorithm.hexDigest body) (trim sum) = true
        · rw [if_pos equal, BodyMatcher.hashOf, if_pos (asks.mpr equal)]
          exact ⟨(List.append_nil _).symm, rfl, sound.fetch_snd algorithm⟩
        · rw [if_neg equal, BodyMatcher.hashOf, if_neg (mt asks.mp equal)]
          exact ⟨(List.append_nil _).symm, (List.append_nil _).symm, sound.fetch_snd algorithm⟩

theorem step_goesOnBy (text : String) (matcher : BodyMatcher) :
    search.GoesOnBy body (matcher.mode.search text).value (matcher.hashes body)
      (search.step body text matcher).value := by
  have texts := addTexts_goesOnBy sound (matcher.mode.search text).value
  have md5 := compareDigest_goesOnBy texts.sound matcher .md5
  have sha256 := compareDigest_goesOnBy md5.sound matcher .sha256
  have all := texts.trans (md5.trans sha256)
  simp only [List.append_nil, List.nil_append] at all
  exact all

/-- What is known at the start does not show in what is found. -/
theorem run_goesOnBy (text : String) (matchers : List BodyMatcher) :
    search.GoesOnBy body (matchers.flatMap fun matcher => (matcher.mode.search text).value)
      (matchers.flatMap fun matcher => matcher.hashes body)
      (search.run body text matchers).value := by
  induction matchers generalizing search with
  | nil => exact ⟨(List.append_nil _).symm, (List.append_nil _).symm, sound⟩
  | cons matcher rest ih =>
      have first := step_goesOnBy sound text matcher
      exact first.trans (ih first.sound)

omit sound in
theorem run_notices (search : BodySearch) (body : List UInt8) (text : String)
    (matchers : List BodyMatcher) :
    (search.run body text matchers).notices =
      matchers.flatMap fun matcher => (matcher.mode.search text).notices := by
  induction matchers generalizing search with
  | nil => rfl
  | cons matcher rest ih =>
      have step : (search.step body text matcher).notices = (matcher.mode.search text).notices :=
        List.append_nil _
      rw [List.flatMap_cons, ← step, ← ih]
      rfl

end BodySearch

/-! ## All matchers -/

section Body
variable (body : List UInt8) (matchers : List BodyMatcher)

theorem matchBody_text : (matchBody body matchers).value.text =
    matchers.flatMap fun matcher => (matcher.mode.search (lossyText body)).value := by
  have goesOn := BodySearch.run_goesOnBy (BodySearch.soundFor_start body) (lossyText body) matchers
  exact goesOn.text

theorem matchBody_hashes : (matchBody body matchers).value.hashes =
    matchers.flatMap fun matcher => matcher.hashes body := by
  have goesOn := BodySearch.run_goesOnBy (BodySearch.soundFor_start body) (lossyText body) matchers
  exact goesOn.hashes

theorem matchBody_notices : (matchBody body matchers).notices =
    matchers.flatMap fun matcher => (matcher.mode.search (lossyText body)).notices := by
  rw [← BodySearch.run_notices {} body (lossyText body) matchers]
  exact List.append_nil _

end Body

/-- A matcher reports the digest of a body once if it asks for it, and else reports nothing. -/
structure BodyMatcher.Reports (matcher : BodyMatcher) (body : List UInt8)
    (algorithm : HashAlgorithm) (hashes : List (HashAlgorithm × String)) : Prop where
  asked : matcher.AsksFor algorithm (algorithm.hexDigest body) →
    hashes = [(algorithm, algorithm.hexDigest body)]
  notAsked : ¬ matcher.AsksFor algorithm (algorithm.hexDigest body) → hashes = []

theorem BodyMatcher.reports_hashOf (matcher : BodyMatcher) (body : List UInt8)
    (algorithm : HashAlgorithm) : matcher.Reports body algorithm (matcher.hashOf body algorithm) :=
  ⟨fun asked => if_pos asked, fun notAsked => if_neg notAsked⟩

/-- Matchers of a body find what those in front find and then what those behind them find.  One
matcher finds the texts in the text of the body, and reports the digests of the bytes that it asks
for, whatever it looks for in the text. -/
theorem body_matchers_work_alone (body : List UInt8) :
    (∀ front behind,
      let all := matchBody body (front ++ behind)
      let first := matchBody body front
      let second := matchBody body behind
      all.value.text = first.value.text ++ second.value.text ∧
        all.value.hashes = first.value.hashes ++ second.value.hashes ∧
        all.notices = first.notices ++ second.notices) ∧
    (∀ matcher : BodyMatcher,
      (matchBody body [matcher]).value.text = (matcher.mode.search (lossyText body)).value ∧
      (∃ md5 sha256, (matchBody body [matcher]).value.hashes = md5 ++ sha256 ∧
        matcher.Reports body .md5 md5 ∧ matcher.Reports body .sha256 sha256) ∧
      ∀ mode, (matchBody body [{ matcher with mode }]).value.hashes =
        (matchBody body [matcher]).value.hashes) ∧
    ∀ algorithm : HashAlgorithm,
      Hex.Writes (algorithm.hexDigest body) (algorithm.digest body) := by
  refine ⟨?_, ?_, fun algorithm => algorithm.hexDigest_writes body⟩
  · intro front behind
    simp only [matchBody_text, matchBody_hashes, matchBody_notices, List.flatMap_append, and_self]
  · intro matcher
    simp only [matchBody_text, matchBody_hashes, List.flatMap_singleton]
    refine ⟨trivial, ⟨_, _, rfl, ?_, ?_⟩, fun mode => matcher.hashes_withMode mode body⟩
    · exact matcher.reports_hashOf body .md5
    · exact matcher.reports_hashOf body .sha256

/-- Of a body that is no text one digest is asked for with capitals and one with blanks; beside the
latter, that of the text which is searched in its place is asked for in vain. -/
theorem body_matchers_work_alone_no_text :
    let capital : BodyMatcher :=
      { sha256sum := some "A8100AE6AA1940D0B663BB31CD466142EBBDBD5187131B92D93818987832EB89" }
    let blank : BodyMatcher :=
      { md5sum := some " 00594fd4f42ba43fc1ca0427a0576295\n"
        sha256sum := some "83d544ccc223c057d2bf80d3f2a32982c32c3c0db8e2674820da5064783fb097" }
    blank.AsksFor .sha256 (HashAlgorithm.sha256.hexDigest (bytesOf (lossyText [0xFF]))) ∧
      (matchBody [0xFF] [capital, blank]).value.hashes =
        [(.sha256, "a8100ae6aa1940d0b663bb31cd466142ebbdbd5187131b92d93818987832eb89"),
          (.md5, "00594fd4f42ba43fc1ca0427a0576295")] := by
  intro capital blank
  obtain ⟨appended, alone, -⟩ := body_matchers_work_alone [0xFF]
  obtain ⟨-, ⟨capitalMd5, capitalSha256, ofCapital, md5Capital, sha256Capital⟩, -⟩ := alone capital
  obtain ⟨-, ⟨blankMd5, blankSha256, ofBlank, md5Blank, sha256Blank⟩, -⟩ := alone blank
  obtain ⟨-, both, -⟩ := appended [capital] [blank]
  rw [List.singleton_append] at both
  have notAsked := md5Capital.notAsked (by decide +kernel)
  have asked := sha256Capital.asked (by decide +kernel)
  have askedWithBlanks := md5Blank.asked (by decide +kernel)
  have askedInVain := sha256Blank.notAsked (by decide +kernel)
  refine ⟨by decide +kernel, ?_⟩
  rw [both, ofCapital, ofBlank, notAsked, asked, askedWithBlanks, askedInVain]
  decide +kernel

end HttpInspection
