import Outbound.Json.Record
import Outbound.Policy.Select

namespace Outbound

/-- The namespaces of an application, and the types whose events leave it by name. -/
structure Settings where
  namespaces : List String
  declarations : RouteTable

namespace Settings

def empty : Settings := ⟨[], .empty⟩

instance : BEq Settings :=
  ⟨fun a b => a.namespaces == b.namespaces && a.declarations == b.declarations⟩

inductive Part where
  | namespaces (roots : List String)
  | declarations (routes : RouteTable)

def Part.namespaces? : Part → Option (List String)
  | namespaces roots => some roots
  | declarations _ => none

def Part.declarations? : Part → Option RouteTable
  | namespaces _ => none
  | declarations routes => some routes

def readNamespaces : Parser Part := fun s =>
  match Parser.skipSpaces s with
  | '[' :: rest => do
    let (roots, rest) ← Parser.sequence Parser.string ']' rest
    some (.namespaces roots, rest)
  | _ => none

def readDeclarations : Parser Part := fun s =>
  match Parser.skipSpaces s with
  | '\x7b' :: rest => do
    let (routes, rest) ←
      Parser.sequence
        (Parser.member Parser.string fun name s =>
          (Parser.string s).map fun (route, rest) => ((name, route), rest))
        '\x7d' rest
    some (.declarations (Keyed.ofList routes), rest)
  | _ => none

def fields : List (RecordField Part) :=
  [⟨"namespaces", readNamespaces⟩, ⟨"declarations", readDeclarations⟩]

/-- The settings that a JSON text stands for. Both members may be left out. -/
def parse? (s : String) : Option Settings := do
  let parts ← Parser.document (RecordField.readRecord fields) s.toList
  let namespaces ← RecordField.atMostOne Part.namespaces? parts
  let declarations ← RecordField.atMostOne Part.declarations? parts
  return ⟨namespaces.getD [], declarations.getD .empty⟩

/-- The JSON text of settings, namespaces first. -/
def render (s : Settings) : String :=
  String.ofList <|
    "\x7b\"namespaces\":".toList ++ (Json.array (s.namespaces.map .string)).write ++
      ",\"declarations\":".toList ++
      (Json.object (s.declarations.entries.map fun e => (e.1, .string e.2))).write ++ ['\x7d']

/-- What events declare themselves comes before what the settings declare. -/
def registry (s : Settings) : Registry :=
  Registry.standard.add (.table s.declarations)

def policy (s : Settings) : Except EvalError Policy :=
  Policy.preset s.namespaces s.registry

/-- What `check` tells about settings: whether they can be used, and what they say. -/
def overview (s : Settings) : String :=
  "Settings OK\n" ++
    "Namespaces (" ++ Nat.repr s.namespaces.length ++ "):\n" ++
    String.join (s.namespaces.map fun root => "  " ++ root ++ "\n") ++
    "Declared types (" ++ Nat.repr s.declarations.size ++ "):\n" ++
    String.join (s.declarations.entries.map declarationLine) ++
    "Resolvers: " ++ ", ".intercalate s.registry.names ++ "\n"
where
  declarationLine (e : String × String) : String :=
    "  " ++ e.1 ++ (if isBlank e.2 then " (default route)" else " -> " ++ e.2) ++ "\n"

def check (s : Settings) : Except EvalError String := do
  let _ ← s.policy
  return s.overview

end Settings

end Outbound
