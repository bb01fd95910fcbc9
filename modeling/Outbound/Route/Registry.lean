import Outbound.Traced

namespace Outbound

/-- Routes by the names of event types. A blank route covers a type without routing it. -/
abbrev RouteTable := Keyed String

/-- A source of routes: the first declaration of one type that an event carries, a table, or
something that the caller brings along. -/
inductive RouteSource where
  | declared (kind : DeclarationKind)
  | table (routes : RouteTable)
  | custom (name : String) (covers : Event → Traced Bool)
      (routeOf : Event → Traced (Option String))

namespace RouteSource

def name : RouteSource → String
  | declared kind => kind.typeName
  | table _ => "declaration-table"
  | custom name _ _ => name

/-- Whether the source knows the event, with a route or without. -/
def covers : RouteSource → Event → Traced Bool
  | declared kind, e => pure (e.declares kind)
  | table routes, e => pure (routes.contains e.type.name)
  | custom _ covers _, e => covers e

/-- The route of the event. Only what the caller brings along may answer with a blank one. -/
def routeOf : RouteSource → Event → Traced (Option String)
  | declared kind, e => pure (((e.declaration? kind).bind Declaration.route).bind unlessBlank)
  | table routes, e => pure ((routes.get? e.type.name).bind unlessBlank)
  | custom _ _ routeOf, e => routeOf e

end RouteSource

/-- Sources of routes in order of priority. -/
structure Registry where
  sources : List RouteSource

namespace Registry

def empty : Registry := ⟨[]⟩

/-- The registry that knows the `outbound` declarations of events. -/
def standard : Registry := ⟨[.declared .outbound]⟩

/-- Adds a source of lowest priority. -/
def add (r : Registry) (source : RouteSource) : Registry :=
  ⟨r.sources ++ [source]⟩

def names (r : Registry) : List String :=
  r.sources.map RouteSource.name

/-- Asks one source after the other until one knows the event. -/
def coveredBy : List RouteSource → Event → Traced Bool
  | [], _ => pure false
  | source :: rest, e => do
    if ← source.covers e then pure true else coveredBy rest e

/-- Asks one source after the other until one has a route. -/
def routeFrom : List RouteSource → Event → Traced (Option String)
  | [], _ => pure none
  | source :: rest, e => do
    match ← source.routeOf e with
    | some route => pure (some route)
    | none => routeFrom rest e

def covers (r : Registry) (e : Event) : Traced Bool :=
  coveredBy r.sources e

def routeOf (r : Registry) (e : Event) : Traced (Option String) :=
  routeFrom r.sources e

/-- The text that describes a registry by the names of its sources. -/
def describe (r : Registry) : String :=
  "ResolverChain \x7b resolvers: [" ++ ", ".intercalate (r.names.map quoted) ++ "] \x7d"

end Registry

end Outbound
