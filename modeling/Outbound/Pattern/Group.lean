import Outbound.Pattern.CharSet
import Outbound.Text.CharClass

namespace Outbound.Pattern

/-- What an opening parenthesis begins: other modes for the rest of the group that it stands in, or
a group of its own. -/
inductive Opening where
  | change (m : Modes)
  | group (name : Option (List Char)) (m : Modes)

namespace Opening

/-- Whether a group can have the given name. -/
def isName : List Char → Bool
  | [] => false
  | c :: s =>
    (c == '_' || isAlphabetic c) && s.all fun c => "_.[]".toList.contains c || isAlphanumeric c

/-- A group whose name ends with an angle bracket. -/
def named? (m : Modes) (s : List Char) : Option (Opening × List Char) :=
  let name := s.takeWhile (· != '>')
  match s.dropWhile (· != '>') with
  | _ :: rest => if isName name then some (.group (some name) m, rest) else none
  | [] => none

/-- Letters of modes, which hold for a group after a colon, and otherwise from here on. -/
def modes? (m : Modes) (s : List Char) : Option (Opening × List Char) :=
  let isLetter := fun c => c != ':' && c != ')'
  let letters := s.takeWhile isLetter
  if Modes.areLetters letters then
    match s.dropWhile isLetter with
    | ':' :: rest => some (.group none (m.change letters), rest)
    | _ :: rest => if letters.isEmpty then none else some (.change (m.change letters), rest)
    | [] => none
  else none

/-- Reads what follows an opening parenthesis. -/
def read? (m : Modes) (s : List Char) : Option (Opening × List Char) :=
  match m.skip s with
  | '?' :: 'P' :: '<' :: s => named? m s
  | '?' :: '<' :: s => named? m s
  | '?' :: s => modes? m s
  | s => some (.group none m, s)

end Opening

/-- A group as far as it has been read, with the depths of its finished alternatives and of the
items of the current one, the latest first. -/
structure Group where
  alternatives : List Nat
  items : List Nat
  /-- whether the latest item can be repeated, which a change of modes cannot -/
  repeatable : Bool

namespace Group

def empty : Group := ⟨[], [], false⟩

def add (g : Group) (depth : Nat) : Group :=
  { g with items := depth :: g.items, repeatable := true }

/-- Counts a change of modes as an item. -/
def addChange (g : Group) : Group :=
  { g with items := 0 :: g.items, repeatable := false }

/-- Begins another alternative. -/
def branch (g : Group) : Group :=
  ⟨depthOfParts g.items :: g.alternatives, [], false⟩

/-- Repeats the latest item. -/
def repeat? (g : Group) : Option Group :=
  match g.items with
  | d :: items => if g.repeatable then some { g with items := (d + 1) :: items } else none
  | [] => none

def depth (g : Group) : Nat :=
  depthOfParts g.branch.alternatives

/-- Reads on to a parenthesis that closes the group, or to the end of the text. Group names must
differ; those in use are handed on. Each step takes a character at least, so that there need be no
more steps than characters. -/
def readOn : Nat → Group → List (List Char) → Modes → List Char →
    Option (Group × List (List Char) × List Char)
  | 0, _, _, _, _ => none
  | fuel + 1, g, names, m, s =>
    match m.skip s with
    | [] => some (g, names, [])
    | ')' :: s => some (g, names, ')' :: s)
    | '|' :: s => readOn fuel g.branch names m s
    | '(' :: s => do
      match ← Opening.read? m s with
      | (.change m, s) => readOn fuel g.addChange names m s
      | (.group name inside, s) =>
        if name.any names.contains then none
        else
          match ← readOn fuel empty (name.toList ++ names) inside s with
          | (inner, names, ')' :: s) => readOn fuel (g.add (inner.depth + 1)) names m s
          | _ => none
    | '[' :: s => do
      let (set, s) ← CharSet.read? m s
      readOn fuel (g.add (set.depth + 1)) names m s
    | '\x7b' :: _ => none
    | c :: s =>
      if c == '?' || c == '*' || c == '+' then do
        let g ← g.repeat?
        match s with
        | '?' :: s => readOn fuel g names m s
        | s => readOn fuel g names m s
      else do
        let (symbol, s) ← Symbol.read? m (c :: s)
        if symbol.isAdmitted m then readOn fuel (g.add 0) names m s else none

end Group

/-- How deeply the parts of a pattern may be nested. -/
def maxDepth : Nat := 250

/-- Whether a text is a pattern for the value of a field. Such a text stands between braces, so
that no brace that is opened inside it is ever closed: an opening brace outside of a set begins a
count of repetitions that has no end. -/
def isWellFormed (s : List Char) : Bool :=
  match Group.readOn (s.length + 1) .empty [] .usual s with
  | some (g, _, []) => g.depth ≤ maxDepth
  | _ => false

end Outbound.Pattern
