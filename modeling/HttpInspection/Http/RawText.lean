import HttpInspection.Http.Parameters

/-!
# The raw exchange

The text in which findings have their places: a start line, the headers one in a line, an empty line
and the body.
-/

set_option autoImplicit false

namespace HttpInspection.Http

/-- A header in a line of its own, its values with semicolons between them. -/
def headerLine (entry : String × List String) : String :=
  entry.1 ++ ": " ++ ";".intercalate entry.2 ++ "\n"

def headerLines (entries : List (String × List String)) : String :=
  String.join (entries.map headerLine)

namespace Request

/-- The start line of a request, with its target decoded. -/
def startLine (request : Request) : String :=
  request.method ++ " " ++ request.target ++ " " ++ request.version.name ++ "\n"

/-- The lines of a request in front of its body; the host comes first. -/
def head (request : Request) : String :=
  request.startLine ++ "Host: " ++ request.host ++ "\n" ++
    headerLines (request.headers.texts.filter fun entry => entry.1 != "host") ++ "\n"

def rawText (request : Request) : String :=
  request.head ++ lossyText request.body.bytes

def dump (request : Request) : String × Request :=
  let (body, rewound) := request.readBody
  (request.head ++ lossyText body, rewound)

end Request

namespace Response

def startLine (response : Response) : String :=
  response.version.name ++ " " ++ toString response.status ++ " " ++ reasonOf response.status ++ "\n"

def head (response : Response) : String :=
  response.startLine ++ headerLines response.headers.texts ++ "\n"

def rawText (response : Response) : String :=
  response.head ++ lossyText response.body.bytes

def dump (response : Response) : String × Response :=
  let (body, rewound) := response.readBody
  (response.head ++ lossyText body, rewound)

end Response

end HttpInspection.Http
