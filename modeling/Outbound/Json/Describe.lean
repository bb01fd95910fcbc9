import Outbound.Json.Printer
import Outbound.Text.Quoted

namespace Outbound

namespace Json

mutual

/-- The text that shows a value together with the kinds of its parts. -/
def describe : Json → String
  | null => "Null"
  | bool b => "Bool(" ++ (if b then "true" else "false") ++ ")"
  | number n => "Number(" ++ String.ofList (writeNumber n) ++ ")"
  | string s => "String(" ++ quoted s ++ ")"
  | array items => "Array [" ++ ", ".intercalate (describeItems items) ++ "]"
  | object members => "Object \x7b" ++ ", ".intercalate (describeMembers members) ++ "\x7d"

def describeItems : List Json → List String
  | [] => []
  | v :: rest => describe v :: describeItems rest

def describeMembers : List (String × Json) → List String
  | [] => []
  | (k, v) :: rest => (quoted k ++ ": " ++ describe v) :: describeMembers rest

end

end Json

end Outbound
