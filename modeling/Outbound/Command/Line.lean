namespace Outbound

/-- What the program can be asked to do. -/
inductive Command where
  | route (settings : String) (input : Option String)
  | check (settings : String)
  | version
  deriving DecidableEq

/-- The words that name a command. -/
inductive CommandName where
  | route
  | check
  | version
  | help
  deriving DecidableEq

def CommandName.ofWord? (s : String) : Option CommandName :=
  match s with
  | "route" => some .route
  | "check" => some .check
  | "version" => some .version
  | "help" => some .help
  | _ => none

/-- Why arguments do not name a command that can be run. Asking for help, on the program or on one
command, and asking for the version are among the reasons. -/
inductive UsageError where
  | help (topic : Option CommandName)
  | showVersion
  | nothingAsked
  | invalidSubcommand
  | unknownArgument
  | invalidValue
  | repeatedArgument
  | missingArgument
  | tooManyValues
  deriving DecidableEq

/-- Answers to a question leave the program content, mistakes do not. -/
def UsageError.exitCode : UsageError → Nat
  | help _ => 0
  | showVersion => 0
  | _ => 2

/-- An argument by its form. What follows the letter of a short option, or the equals sign of a
long one, is attached to it. -/
inductive Argument where
  | separator
  | long (name : String) (attached : Option String)
  | short (letter : Char) (attached : List Char)
  | word (s : String)

/-- A lone dash and the empty text are words. -/
def Argument.ofText (s : String) : Argument :=
  match s.toList with
  | ['-', '-'] => .separator
  | '-' :: '-' :: rest =>
    let name := String.ofList (rest.takeWhile (· != '='))
    match rest.dropWhile (· != '=') with
    | _ :: value => .long name (some (String.ofList value))
    | [] => .long name none
  | '-' :: c :: rest => .short c rest
  | _ => .word s

/-- The options, each of which takes a path. -/
inductive PathOption where
  | settings
  | input
  deriving DecidableEq

namespace PathOption

def letter : PathOption → Char
  | settings => 's'
  | input => 'i'

def name : PathOption → String
  | settings => "settings"
  | input => "input"

end PathOption

/-- The options read so far. The last one may still wait for its path, and is not looked at more
closely before the next one comes. -/
structure GivenOptions where
  settings : Option String
  input : Option String
  pending : Option (PathOption × Option String)

namespace GivenOptions

def initial : GivenOptions := ⟨none, none, none⟩

def get? (g : GivenOptions) : PathOption → Option String
  | .settings => g.settings
  | .input => g.input

/-- Accepts an option once, with a path that is not empty. -/
def set (g : GivenOptions) (o : PathOption) (path : String) : Except UsageError GivenOptions :=
  if (g.get? o).isSome then .error .repeatedArgument
  else if path = "" then .error .invalidValue
  else
    match o with
    | .settings => .ok { g with settings := some path }
    | .input => .ok { g with input := some path }

/-- Accepts the option that is pending. -/
def settle (g : GivenOptions) : Except UsageError GivenOptions :=
  match g.pending with
  | none => .ok g
  | some (_, none) => .error .invalidValue
  | some (o, some path) => { g with pending := none }.set o path

/-- Begins a further option. An attached path is looked at immediately. -/
def start (g : GivenOptions) (o : PathOption) (attached : Option String) :
    Except UsageError GivenOptions := do
  let g ← g.settle
  match attached with
  | some path => g.set o path
  | none => return { g with pending := some (o, none) }

/-- Takes a word as the path of the option that waits for one. -/
def takeWord (g : GivenOptions) (s : String) : Except UsageError GivenOptions :=
  match g.pending with
  | some (o, none) => .ok { g with pending := some (o, some s) }
  | _ => .error .unknownArgument

/-- The path behind the letter of an option, where an equals sign may stand between them. -/
def attachedPath : List Char → Option String
  | [] => none
  | '=' :: path => some (String.ofList path)
  | path => some (String.ofList path)

/-- Reads the arguments of a command that has the given options. -/
def read (topic : CommandName) (options : List PathOption) :
    GivenOptions → List String → Except UsageError GivenOptions
  | g, [] => g.settle
  | g, s :: rest =>
    match Argument.ofText s with
    | .separator => if rest.isEmpty then g.settle else .error .unknownArgument
    | .long name attached =>
      match options.find? fun o => o.name = name with
      | some o => do read topic options (← g.start o attached) rest
      | none =>
        if name = "help" then
          match attached with
          | some _ => .error .tooManyValues
          | none => do
            let _ ← g.settle
            throw (.help (some topic))
        else .error .unknownArgument
    | .short letter attached =>
      match options.find? fun o => o.letter = letter with
      | some o => do read topic options (← g.start o (attachedPath attached)) rest
      | none =>
        if letter = 'h' then do
          let _ ← g.settle
          throw (.help (some topic))
        else .error .unknownArgument
    | .word s => do read topic options (← g.takeWord s) rest

end GivenOptions

namespace Command

/-- The help that is asked for by name. Commands have no commands of their own. -/
def askedHelp : List String → UsageError
  | [] => .help none
  | [s] =>
    match CommandName.ofWord? s with
    | some name => .help (some name)
    | none => .invalidSubcommand
  | _ => .invalidSubcommand

/-- The path that a command cannot do without. -/
def requiredSettings (g : GivenOptions) : Except UsageError String :=
  match g.settings with
  | some path => .ok path
  | none => .error .missingArgument

/-- Reads what follows the name of a command. -/
def ofArguments (name : CommandName) (args : List String) : Except UsageError Command :=
  match name with
  | .route => do
    let g ← GivenOptions.read .route [.settings, .input] .initial args
    return .route (← requiredSettings g) g.input
  | .check => do
    let g ← GivenOptions.read .check [.settings] .initial args
    return .check (← requiredSettings g)
  | .version => do
    let _ ← GivenOptions.read .version [] .initial args
    return .version
  | .help => .error (askedHelp args)

/-- The command that the arguments of the program name. -/
def parse : List String → Except UsageError Command
  | [] => .error .nothingAsked
  | s :: rest =>
    match Argument.ofText s with
    | .separator =>
      match rest with
      | [] => .error .nothingAsked
      | word :: _ =>
        if (CommandName.ofWord? word).isSome then .error .unknownArgument
        else .error .invalidSubcommand
    | .long name attached =>
      match name, attached with
      | "help", none => .error (.help none)
      | "version", none => .error .showVersion
      | "help", some _ => .error .tooManyValues
      | "version", some _ => .error .tooManyValues
      | _, _ => .error .unknownArgument
    | .short 'h' _ => .error (.help none)
    | .short 'V' _ => .error .showVersion
    | .short _ _ => .error .unknownArgument
    | .word word =>
      match CommandName.ofWord? word with
      | some name => ofArguments name rest
      | none => .error .invalidSubcommand

end Command

end Outbound
