import HttpInspection.Proofs.Messages
import Mathlib.Algebra.Group.Int.Defs
import Mathlib.Algebra.Group.Nat.Defs

/-!
# Bodies as streams

Whatever is done with a body, its bytes stay, and what is read and where it is read from are those of
a stream of these bytes: a read takes the bytes from the position on, a seek goes to every place that
has a position and is refused for all others, and the whole body can be read from everywhere.
-/

set_option autoImplicit false

namespace HttpInspection.Http

inductive BodyCall where
  | read (count : Nat)
  | seek (target : SeekTarget)
  | readAll

inductive BodyAnswer where
  | bytes (taken : List UInt8)
  | moved (position : Nat)
  | refused (fault : SeekFault)
  deriving DecidableEq

namespace Body

/-- The answer to a call, and the body after it.  A seek that is refused leaves the body where it
is. -/
def call (body : Body) : BodyCall → BodyAnswer × Body
  | .read count =>
    let (taken, body) := body.read count
    (.bytes taken, body)
  | .seek target =>
    match body.seek target with
    | .ok moved => (.moved moved.position, moved)
    | .error fault => (.refused fault, body)
  | .readAll =>
    let (taken, body) := body.readAll
    (.bytes taken, body)

def calls (body : Body) : List BodyCall → List BodyAnswer × Body
  | [] => ([], body)
  | first :: rest =>
    let (answer, body) := body.call first
    let (answers, body) := body.calls rest
    (answer :: answers, body)

end Body

/-! ## Streams -/

/-- A target stands for a place in a stream of some length that is read from a position.  The place
may lie in front of the stream and behind it. -/
inductive SeekTarget.StandsFor (length position : Nat) : SeekTarget → Int → Prop where
  | fromStart (offset : Nat) : StandsFor length position (.fromStart offset) offset
  | fromEnd (offset : Int) : StandsFor length position (.fromEnd offset) (length + offset)
  | fromHere (offset : Int) : StandsFor length position (.fromHere offset) (position + offset)

/-- What a stream of bytes answers to a call at a position, and its position afterwards. -/
inductive StreamStep (bytes : List UInt8) (position : Nat) :
    BodyCall → BodyAnswer → Nat → Prop where
  | read (count : Nat) (taken : List UInt8) (within : position < bytes.length)
      (slice : taken = bytes.extract position (min (position + count) bytes.length)) :
      StreamStep bytes position (.read count) (.bytes taken) (position + taken.length)
  | readBehind (count : Nat) (behind : bytes.length ≤ position) :
      StreamStep bytes position (.read count) (.bytes []) position
  | seek (target : SeekTarget) (place : Nat) (there : target.StandsFor bytes.length position place)
      (bounded : place < 2 ^ 64) :
      StreamStep bytes position (.seek target) (.moved place) place
  | seekOutside (target : SeekTarget) (place : Int)
      (there : target.StandsFor bytes.length position place)
      (outside : place < 0 ∨ 2 ^ 64 ≤ place) :
      StreamStep bytes position (.seek target) (.refused .outOfRange) position
  | readAll : StreamStep bytes position .readAll (.bytes bytes) 0

inductive StreamRun (bytes : List UInt8) : Nat → List BodyCall → List BodyAnswer → Nat → Prop where
  | done (position : Nat) : StreamRun bytes position [] [] position
  | step {position middle last : Nat} {call : BodyCall} {answer : BodyAnswer}
      {rest : List BodyCall} {answers : List BodyAnswer}
      (first : StreamStep bytes position call answer middle)
      (later : StreamRun bytes middle rest answers last) :
      StreamRun bytes position (call :: rest) (answer :: answers) last

namespace Body

theorem positionBound_eq : positionBound = 2 ^ 64 :=
  rfl

theorem standsFor_iff (body : Body) (target : SeekTarget) (place : Int) :
    target.StandsFor body.bytes.length body.position place ↔ place = body.targetOf target := by
  constructor
  · intro stands
    cases stands with
    | fromStart offset => rfl
    | fromEnd offset => rfl
    | fromHere offset => rfl
  · rintro rfl
    cases target with
    | fromStart offset => exact .fromStart offset
    | fromEnd offset => exact .fromEnd offset
    | fromHere offset => exact .fromHere offset

/-! ## One call -/

theorem call_bytes (body : Body) (call : BodyCall) : (body.call call).2.bytes = body.bytes := by
  cases call with
  | read count => rfl
  | seek target =>
      unfold Body.call seek
      dsimp only
      split
      · next moved sought =>
          split at sought
          · cases sought
            rfl
          · cases sought
      · rfl
  | readAll => rfl

theorem read_streamStep (body : Body) (count : Nat) :
    StreamStep body.bytes body.position (.read count) (.bytes (body.read count).1)
      (body.read count).2.position := by
  by_cases within : body.position < body.bytes.length
  · refine .read count _ within ?_
    rw [read, List.extract_eq_take_drop]
    -- The slice is asked for up to a place, the read up to a number of bytes.
    rcases Nat.le_total (body.position + count) body.bytes.length with short | long
    · rw [Nat.min_eq_left short, Nat.add_sub_cancel_left]
    · have left : (body.bytes.drop body.position).length =
          body.bytes.length - body.position := List.length_drop
      rw [Nat.min_eq_right long, List.take_of_length_le (Nat.le_of_eq left),
        List.take_of_length_le (by omega)]
  · have behind : body.bytes.length ≤ body.position := by omega
    have nothing : body.read count = ([], body) := by
      simp [read, List.drop_eq_nil_of_le behind]
    rw [nothing]
    exact .readBehind count behind

theorem seek_streamStep (body : Body) (target : SeekTarget) :
    StreamStep body.bytes body.position (.seek target) (body.call (.seek target)).1
      (body.call (.seek target)).2.position := by
  have there := (body.standsFor_iff target _).mpr rfl
  by_cases bounded : 0 ≤ body.targetOf target ∧ body.targetOf target < positionBound
  · have sought : body.call (.seek target) = (.moved (body.targetOf target).toNat,
        { body with position := (body.targetOf target).toNat }) := by
      simp only [call, seek, if_pos bounded]
    rw [sought]
    refine .seek target _ ?_ ?_
    · rwa [Int.toNat_of_nonneg bounded.1]
    · rw [positionBound_eq] at bounded
      omega
  · have refused : body.call (.seek target) = (.refused .outOfRange, body) := by
      simp only [call, seek, if_neg bounded]
    rw [refused]
    refine .seekOutside target _ there ?_
    rw [positionBound_eq] at bounded
    omega

theorem call_streamStep (body : Body) (call : BodyCall) :
    StreamStep body.bytes body.position call (body.call call).1 (body.call call).2.position := by
  cases call with
  | read count => exact body.read_streamStep count
  | seek target => exact body.seek_streamStep target
  | readAll =>
      simp only [Body.call, readAll_eq]
      exact .readAll

end Body

/-! ## What a stream does is settled -/

theorem SeekTarget.StandsFor.unique {length position : Nat} {target : SeekTarget} {one other : Int}
    (first : target.StandsFor length position one) (second : target.StandsFor length position other) :
    one = other := by
  cases first <;> cases second <;> rfl

theorem StreamStep.unique {bytes : List UInt8} {position one other : Nat} {call : BodyCall}
    {answer otherAnswer : BodyAnswer} (first : StreamStep bytes position call answer one)
    (second : StreamStep bytes position call otherAnswer other) :
    answer = otherAnswer ∧ one = other := by
  cases first with
  | read count taken within slice =>
      cases second with
      | read _ _ _ otherSlice =>
          rw [slice, otherSlice]
          exact ⟨rfl, rfl⟩
      | readBehind _ behind => omega
  | readBehind count behind =>
      cases second with
      | read _ _ within _ => omega
      | readBehind _ _ => exact ⟨rfl, rfl⟩
  | seek target place there bounded =>
      cases second with
      | seek _ otherPlace otherThere _ =>
          have same := there.unique otherThere
          have same : one = other := by omega
          exact ⟨congrArg BodyAnswer.moved same, same⟩
      | seekOutside _ otherPlace otherThere outside =>
          have same := there.unique otherThere
          omega
  | seekOutside target place there outside =>
      cases second with
      | seek _ otherPlace otherThere bounded =>
          have same := there.unique otherThere
          omega
      | seekOutside _ _ _ _ => exact ⟨rfl, rfl⟩
  | readAll =>
      cases second with
      | readAll => exact ⟨rfl, rfl⟩

theorem StreamRun.unique {bytes : List UInt8} {position one other : Nat} {calls : List BodyCall}
    {answers otherAnswers : List BodyAnswer} (first : StreamRun bytes position calls answers one)
    (second : StreamRun bytes position calls otherAnswers other) :
    answers = otherAnswers ∧ one = other := by
  induction first generalizing otherAnswers other with
  | done position =>
      cases second with
      | done _ => exact ⟨rfl, rfl⟩
  | step first later ih =>
      cases second with
      | step otherFirst otherLater =>
          obtain ⟨rfl, rfl⟩ := first.unique otherFirst
          obtain ⟨rfl, rfl⟩ := ih otherLater
          exact ⟨rfl, rfl⟩

/-- Reading alone never leads behind the last byte, and no seek leads to a place without a
position. -/
theorem StreamRun.position_bounded {bytes : List UInt8} {position last : Nat} {calls : List BodyCall}
    {answers : List BodyAnswer} (run : StreamRun bytes position calls answers last)
    (start : position < 2 ^ 64 ∨ position ≤ bytes.length) :
    last < 2 ^ 64 ∨ last ≤ bytes.length := by
  induction run with
  | done position => exact start
  | step first later ih =>
      refine ih ?_
      cases first with
      | read count taken within slice =>
          right
          rw [slice, List.extract_eq_take_drop, List.length_take, List.length_drop]
          omega
      | readBehind count behind => exact start
      | seek target place there bounded => exact .inl bounded
      | seekOutside target place there outside => exact start
      | readAll => exact .inl (Nat.two_pow_pos 64)

/-! ## All calls -/

namespace Body

theorem calls_bytes (body : Body) (calls : List BodyCall) :
    (body.calls calls).2.bytes = body.bytes := by
  induction calls generalizing body with
  | nil => rfl
  | cons first rest ih =>
      have later := ih (body.call first).2
      rw [call_bytes] at later
      exact later

theorem calls_streamRun (body : Body) (calls : List BodyCall) :
    StreamRun body.bytes body.position calls (body.calls calls).1 (body.calls calls).2.position := by
  induction calls generalizing body with
  | nil => exact .done _
  | cons first rest ih =>
      have later := ih (body.call first).2
      rw [call_bytes] at later
      exact .step (body.call_streamStep first) later

end Body

/-- Whatever is done with a body, it keeps its bytes, what it answers and where it stands are those
of a stream of its bytes and no others, and from there all of it can be read again. -/
theorem body_is_stream (bytes : List UInt8) (calls : List BodyCall) :
    let body := ((⟨bytes, 0⟩ : Body).calls calls).2
    body.bytes = bytes ∧ body.size = bytes.length ∧ (body.isEmpty = true ↔ bytes = []) ∧
      (∀ answers position, StreamRun bytes 0 calls answers position ↔
        answers = ((⟨bytes, 0⟩ : Body).calls calls).1 ∧ position = body.position) ∧
      (body.position < 2 ^ 64 ∨ body.position ≤ bytes.length) ∧
      body.readAll = (bytes, ⟨bytes, 0⟩) := by
  intro body
  have kept : body.bytes = bytes := Body.calls_bytes ⟨bytes, 0⟩ calls
  have run := Body.calls_streamRun ⟨bytes, 0⟩ calls
  refine ⟨kept, ?_, ?_, ?_, ?_, ?_⟩
  · rw [Body.size, kept]
  · rw [Body.isEmpty, kept, List.isEmpty_iff]
  · intro answers position
    constructor
    · intro other
      exact other.unique run
    · rintro ⟨rfl, rfl⟩
      exact run
  · exact run.position_bounded (.inl (Nat.two_pow_pos 64))
  · rw [Body.readAll_eq, Body.rewound, kept]

/-- A seek behind the end, a read there, a seek in front of the start, and a read from the last but
one byte. -/
example :
    ((⟨[1, 2, 3], 0⟩ : Body).calls
      [.read 2, .seek (.fromEnd 5), .read 1, .seek (.fromHere (-9)), .seek (.fromEnd (-2)),
        .read 9]).1 =
      [.bytes [1, 2], .moved 8, .bytes [], .refused .outOfRange, .moved 1, .bytes [2, 3]] := by
  decide

end HttpInspection.Http
