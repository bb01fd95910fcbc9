import Outbound.Text.Blank
import Outbound.Text.Quoted

namespace Outbound

/-- What an application attaches to the type of an event. `outbound` sends events to a target,
which may be left blank; applications add declarations of their own, with or without a route. -/
inductive Declaration where
  | outbound (target : String)
  | custom (typeName : String) (route : Option String)
  deriving DecidableEq

/-- The types of declarations. -/
inductive DeclarationKind where
  | outbound
  | custom (typeName : String)
  deriving DecidableEq

def DeclarationKind.typeName : DeclarationKind → String
  | outbound => "externalize_core::declaration::Externalized"
  | custom typeName => typeName

namespace Declaration

def kind : Declaration → DeclarationKind
  | outbound _ => .outbound
  | custom typeName _ => .custom typeName

/-- The route that is declared. A blank target declares none. -/
def route : Declaration → Option String
  | outbound target => unlessBlank target
  | custom _ route => route

/-- The text that describes an `outbound` declaration. -/
def describeOutbound (target : String) : String :=
  "Externalized \x7b target: " ++ quoted target ++ " \x7d"

end Declaration

end Outbound
