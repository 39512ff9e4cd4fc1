import CodeAtlas.Json.Basic

set_option autoImplicit false

/-! # Tool responses

What a tool answers: a text for people and a JSON object for programs. -/

namespace CodeAtlas

/-- The answer of a tool. -/
structure Response where
  text : String
  structured : List (String × Json)
  failed : Bool := false

namespace Response

/-- The answer of a tool that failed. -/
def failure (message : String) : Response where
  text := "Error: " ++ message
  structured := [("success", .bool false), ("error", .string message)]
  failed := true

/-- The answer of a tool that succeeded; the data is marked as a success. -/
def success (text : String) (data : List (String × Json)) : Response where
  text := text
  structured := Json.setMember "success" (.bool true) data

/-- The answer to a result: the formatted value, or the failure. -/
def ofResult {α : Type} (format : α → Response) : Except String α → Response
  | .ok a => format a
  | .error message => failure message

/-- A response as JSON. -/
def toJson (r : Response) : Json :=
  .object ([("content", .array [.object [("type", .string "text"), ("text", .string r.text)]]),
    ("structuredContent", .object r.structured)]
    ++ (if r.failed then [("isError", .bool true)] else []))

end Response

end CodeAtlas
