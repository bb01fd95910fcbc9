import Outbound.Pattern.Symbol

namespace Outbound.Pattern

/-- How deep several parts in a row are nested: one part counts by itself, more of them lie one
deeper than the deepest. -/
def depthOfParts : List Nat → Nat
  | [] => 0
  | [d] => d
  | ds => ds.foldl max 0 + 1

/-- A set of characters between brackets as far as it has been read: the depth of what is left of
its last operation, and the depths of its members since then. -/
structure CharSet where
  left : Option Nat
  members : List Nat
  /-- whether nothing but dashes has been read -/
  leading : Bool

namespace CharSet

def empty : CharSet := ⟨none, [], true⟩

def add (set : CharSet) (depth : Nat) : CharSet :=
  { set with members := depth :: set.members, leading := false }

/-- A dash at the beginning is a member. -/
def addDash (set : CharSet) : CharSet :=
  { set with members := 0 :: set.members }

def depth (set : CharSet) : Nat :=
  match set.left with
  | none => depthOfParts set.members
  | some d => max d (depthOfParts set.members) + 1

/-- The members so far become the left side of an operation. -/
def operate (set : CharSet) : CharSet :=
  ⟨some set.depth, [], false⟩

/-- Names of sets of ASCII characters. -/
def names : List String :=
  ["alnum", "alpha", "ascii", "blank", "cntrl", "digit", "graph", "lower", "print", "punct",
    "space", "upper", "word", "xdigit"]

/-- A name between colons up to a closing bracket, and whether it is negated by a circumflex. -/
def named? : List Char → Option (Bool × List Char)
  | ':' :: s =>
    let (negated, s) := match s with
      | '^' :: s => (true, s)
      | s => (false, s)
    match s.dropWhile (· != ':') with
    | ':' :: ']' :: rest =>
      if names.contains (String.ofList (s.takeWhile (· != ':'))) then some (negated, rest)
      else none
    | _ => none
  | _ => none

/-- Whether a named set can be a member. -/
def isNameAdmitted (m : Modes) (negated : Bool) : Bool :=
  if m.unicode then !m.caseless else !negated

/-- Passes over the circumflex that negates a set; without Unicode, no set can be negated. -/
def begin? (m : Modes) (s : List Char) : Option (List Char) :=
  match m.skip s with
  | '^' :: s => if m.unicode then some s else none
  | s => some s

/-- Reads a character, or two with a dash between them, of which the second must not come before
the first. A dash in front of a closing bracket or of another dash makes no range. -/
def member? (m : Modes) (s : List Char) : Option (List Char) := do
  let (first, s) ← Symbol.inSet? m s
  let s := m.skip s
  match s with
  | '-' :: rest =>
    if m.peek rest == some ']' || m.peek rest == some '-' then
      if first.isMember m then some s else none
    else
      let (last, rest) ← Symbol.inSet? m (m.skip rest)
      match first, last with
      | .literal a _, .literal b _ =>
        if a ≤ b && first.isMember m && last.isMember m then some rest else none
      | _, _ => none
  | s => if first.isMember m then some s else none

/-- Reads on to the bracket that closes the set. Each step takes a character at least, so that
there need be no more steps than characters. -/
def readOn (m : Modes) : Nat → CharSet → List Char → Option (CharSet × List Char)
  | 0, _, _ => none
  | fuel + 1, set, s =>
    let s := m.skip s
    if set.leading && s.head? == some '-' then
      if (Symbol.literal '-' false).isMember m then readOn m fuel set.addDash s.tail else none
    else if set.leading && set.members.isEmpty && s.head? == some ']' then
      if (Symbol.literal ']' false).isMember m then readOn m fuel (set.add 0) s.tail else none
    else
      match s with
      | ']' :: s => some (set, s)
      | '[' :: s =>
        match named? s with
        | some (negated, s) =>
          if isNameAdmitted m negated then readOn m fuel (set.add 0) s else none
        | none => do
          let (inner, s) ← readOn m fuel empty (← begin? m s)
          readOn m fuel (set.add (inner.depth + 1)) s
      | '&' :: '&' :: s => readOn m fuel set.operate s
      | '-' :: '-' :: s => readOn m fuel set.operate s
      | '~' :: '~' :: s => readOn m fuel set.operate s
      | s => do readOn m fuel (set.add 0) (← member? m s)

/-- The set after an opening bracket. -/
def read? (m : Modes) (s : List Char) : Option (CharSet × List Char) := do
  readOn m (s.length + 1) empty (← begin? m s)

end CharSet

end Outbound.Pattern
