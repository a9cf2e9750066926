import HttpInspection.Decimal.Fixed
import HttpInspection.Finding
import HttpInspection.Notice

/-!
# Statistics

Counters of sixty-four bits that wrap around, shared by all exchanges of an agent.
-/

set_option autoImplicit false

namespace HttpInspection

structure Statistics where
  inspected : UInt64 := 0
  blocked : UInt64 := 0
  forwarded : UInt64 := 0
  forwardErrors : UInt64 := 0
  requestFindings : UInt64 := 0
  responseFindings : UInt64 := 0
  hashFindings : UInt64 := 0
  alertsSent : UInt64 := 0
  alertsFailed : UInt64 := 0
  positionMisses : UInt64 := 0
  inspectMicros : UInt64 := 0
  deriving Repr, DecidableEq

namespace Statistics

/-- Counters that count two stretches of work together. -/
def add (a b : Statistics) : Statistics where
  inspected := a.inspected + b.inspected
  blocked := a.blocked + b.blocked
  forwarded := a.forwarded + b.forwarded
  forwardErrors := a.forwardErrors + b.forwardErrors
  requestFindings := a.requestFindings + b.requestFindings
  responseFindings := a.responseFindings + b.responseFindings
  hashFindings := a.hashFindings + b.hashFindings
  alertsSent := a.alertsSent + b.alertsSent
  alertsFailed := a.alertsFailed + b.alertsFailed
  positionMisses := a.positionMisses + b.positionMisses
  inspectMicros := a.inspectMicros + b.inspectMicros

instance : Add Statistics := ⟨add⟩

def hashCount (findings : List Finding) : Nat :=
  findings.countP Finding.isHash

def recordFindings (stage : Stage) (findings : List Finding) (s : Statistics) : Statistics :=
  let s := { s with hashFindings := s.hashFindings + (hashCount findings).toUInt64 }
  match stage with
  | .request => { s with requestFindings := s.requestFindings + findings.length.toUInt64 }
  | .response => { s with responseFindings := s.responseFindings + findings.length.toUInt64 }

def recordAlert (delivered : Bool) (s : Statistics) : Statistics :=
  if delivered then { s with alertsSent := s.alertsSent + 1 }
  else { s with alertsFailed := s.alertsFailed + 1 }

def recordMisses (count : Nat) (s : Statistics) : Statistics :=
  { s with positionMisses := s.positionMisses + count.toUInt64 }

/-- The average time of an exchange in microseconds; zero before the first one. -/
def averageMicros (s : Statistics) : UInt64 :=
  if s.inspected = 0 then 0 else s.inspectMicros / s.inspected

/-- The percentage of exchanges that were blocked; zero before the first one. -/
def blockRate (s : Statistics) : Float :=
  if s.inspected = 0 then 0 else s.blocked.toFloat / s.inspected.toFloat * 100

/-- The percentage of blocked exchanges with six decimal places. -/
def blockRateText (s : Statistics) : String :=
  Decimal.fixed 6 s.blockRate

end Statistics

end HttpInspection
