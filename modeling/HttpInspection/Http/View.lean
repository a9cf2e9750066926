import HttpInspection.Http.Parameters

/-!
# What matchers see

The parts of a message as texts and pairs, as they are searched.
-/

set_option autoImplicit false

namespace HttpInspection.Http

structure RequestView where
  method : String
  target : String
  headers : List (String × List String)
  query : List (String × String)
  form : List (String × String)
  body : List UInt8
  deriving Repr, DecidableEq

structure ResponseView where
  status : Nat
  headers : List (String × List String)
  body : List UInt8
  deriving Repr, DecidableEq

def Request.capture (request : Request) : Traced (RequestView × Request) := do
  let (form, request) ← request.formParameters
  let query ← request.queryParameters
  let (body, request) := request.readBody
  return ({ method := request.method, target := request.target,
            headers := request.headers.texts, query, form, body }, request)

def Response.capture (response : Response) : ResponseView × Response :=
  let (body, response) := response.readBody
  ({ status := response.status, headers := response.headers.texts, body }, response)

end HttpInspection.Http
