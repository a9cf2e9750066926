import HttpInspection.Scan

/-!
# Validators

Whatever inspects messages beside the rules.  A validator that fails is told about and passed over.
-/

set_option autoImplicit false

namespace HttpInspection

open Http

/-- The answer of a validator to a message: its findings or its failure, and the message as it leaves
it. -/
abbrev Inspection (μ : Type) := μ → Traced (Except Failure (List Finding) × μ)

structure Validator where
  name : String
  onRequest : Inspection Request
  onResponse : Inspection Response

/-- The findings of inspections in order, and the message as they leave it. -/
def runInspections {μ : Type} (stage : Stage) :
    List (String × Inspection μ) → μ → Traced (List Finding × μ)
  | [], message => ⟨([], message), []⟩
  | (name, inspect) :: rest, message => do
    let (answer, message) ← inspect message
    let found ← match answer with
      | .ok findings => ⟨findings, []⟩
      | .error failure => ⟨[], [.validatorFailed stage name failure]⟩
    let (later, message) ← runInspections stage rest message
    return (found ++ later, message)

namespace Validator

def inspectRequest (validators : List Validator) (request : Request) :
    Traced (List Finding × Request) :=
  runInspections .request (validators.map fun v => (v.name, v.onRequest)) request

def inspectResponse (validators : List Validator) (response : Response) :
    Traced (List Finding × Response) :=
  runInspections .response (validators.map fun v => (v.name, v.onResponse)) response

def constant (name : String) (onRequest onResponse : Except Failure (List Finding)) :
    Validator where
  name := name
  onRequest := fun request => ⟨(onRequest, request), []⟩
  onResponse := fun response => ⟨(onResponse, response), []⟩

def ofRules (rules : RuleSet) : Validator where
  name := "rules"
  onRequest := fun request =>
    let (pass, request) := Scanner.passRequest {} 0 rules request
    ⟨(.ok pass.findings, request), pass.notices⟩
  onResponse := fun response =>
    let (pass, response) := Scanner.passResponse {} 0 rules response
    ⟨(.ok pass.findings, response), pass.notices⟩

end Validator

end HttpInspection
