import HttpInspection.Http.RawText
import HttpInspection.Http.View

/-!
# What looking at a message gives and leaves

Taking the raw text or the view of a message gives a function of the message, wherever its body is
read from, and leaves the message with its body at its start.
-/

set_option autoImplicit false

namespace HttpInspection.Http

theorem Body.readAll_eq (body : Body) : body.readAll = (body.bytes, body.rewound) := by
  simp [Body.readAll, Body.read, Body.rewound, Body.size]

namespace Request

theorem readBody_eq (request : Request) :
    request.readBody = (request.body.bytes, request.rewound) := by
  simp only [readBody, Body.readAll_eq, rewound]

theorem dump_eq (request : Request) : request.dump = (request.rawText, request.rewound) := by
  simp only [dump, readBody_eq, rawText]

@[simp] theorem rewound_rewound (request : Request) :
    request.rewound.rewound = request.rewound := rfl

@[simp] theorem rawText_rewound (request : Request) :
    request.rewound.rawText = request.rawText := rfl

theorem formParameters_eq (request : Request) :
    request.formParameters.value =
      (if request.hasForm then (parsePairs (lossyText request.body.bytes)).value else [],
        if request.hasForm then request.rewound else request) := by
  unfold formParameters
  by_cases form : request.hasForm = true
  · simp only [if_pos form, readBody_eq]
  · simp only [if_neg form]

def view (request : Request) : RequestView where
  method := request.method
  target := request.target
  headers := request.headers.texts
  query := request.queryParameters.value
  form := if request.hasForm then (parsePairs (lossyText request.body.bytes)).value else []
  body := request.body.bytes

theorem capture_eq (request : Request) :
    request.capture.value = (request.view, request.rewound) := by
  change ((_ : RequestView), (_ : Request)) = _
  simp only [formParameters_eq]
  by_cases form : request.hasForm = true
  · simp only [if_pos form, readBody_eq, view]
    rfl
  · simp only [if_neg form, readBody_eq, view]
    rfl

@[simp] theorem view_rewound (request : Request) : request.rewound.view = request.view := rfl

end Request

namespace Response

theorem readBody_eq (response : Response) :
    response.readBody = (response.body.bytes, response.rewound) := by
  simp only [readBody, Body.readAll_eq, rewound]

theorem dump_eq (response : Response) : response.dump = (response.rawText, response.rewound) := by
  simp only [dump, readBody_eq, rawText]

@[simp] theorem rewound_rewound (response : Response) :
    response.rewound.rewound = response.rewound := rfl

@[simp] theorem rawText_rewound (response : Response) :
    response.rewound.rawText = response.rawText := rfl

def view (response : Response) : ResponseView where
  status := response.status
  headers := response.headers.texts
  body := response.body.bytes

theorem capture_eq (response : Response) :
    response.capture = (response.view, response.rewound) := by
  simp only [capture, readBody_eq, view]
  rfl

@[simp] theorem view_rewound (response : Response) : response.rewound.view = response.view := rfl

end Response

end HttpInspection.Http
