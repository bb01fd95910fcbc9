import Outbound.Event.TypePath

namespace Outbound

/-- What went wrong in a function of the caller: a message, and the causes behind it with the
nearest one first. -/
structure Failure where
  message : String
  causes : List String
  deriving DecidableEq

namespace Failure

def ofMessage (message : String) : Failure :=
  ⟨message, []⟩

/-- All messages, the outermost first. -/
def chain (f : Failure) : List String :=
  f.message :: f.causes

/-- Puts a message in front of a failure. -/
def within (f : Failure) (message : String) : Failure :=
  ⟨message, f.chain⟩

end Failure

/-- The arguments that are refused. -/
inductive InvalidArgument where
  | emptyDestination
  | noNamespaces
  | noBaseNamespaces
  | blankNamespace
  deriving DecidableEq

def InvalidArgument.message : InvalidArgument → String
  | emptyDestination => "Routing target must not be empty"
  | noNamespaces => "Namespaces must not be empty"
  | noBaseNamespaces => "Base namespaces must not be empty"
  | blankNamespace => "Base namespace must not be empty"

/-- Why a policy cannot be made, or cannot decide on an event. Failures of the caller's functions
come with the type of the event that the function was given. -/
inductive EvalError where
  | invalidArgument (reason : InvalidArgument)
  | transform (type : TypePath) (source : Failure)
  | route (type : TypePath) (source : Failure)
  deriving DecidableEq

def EvalError.message : EvalError → String
  | invalidArgument reason => "invalid argument: " ++ reason.message
  | transform type _ => "failed to map event of type " ++ type.name
  | route type _ => "failed to route event of type " ++ type.name

end Outbound
