import Outbound.Text.Bytes

namespace Outbound

-- Paths of types as lists of characters. Two colons separate their segments.
namespace Path

/-- The path without generic arguments: what stands before the first angle bracket. -/
def plain (s : List Char) : List Char :=
  s.takeWhile (· != '<')

/-- Splits at the last separator. Of overlapping separators the one further right counts. -/
def splitLast : List Char → Option (List Char × List Char)
  | [] => none
  | c :: rest =>
    match splitLast rest with
    | some (before, after) => some (c :: before, after)
    | none =>
      match c, rest with
      | ':', ':' :: after => some ([], after)
      | _, _ => none

/-- Removes the separators that a text begins with. -/
def dropSeparators : List Char → List Char
  | ':' :: ':' :: rest => dropSeparators rest
  | s => s

/-- Removes the separators that a text ends with. -/
def trim (s : List Char) : List Char :=
  (dropSeparators s.reverse).reverse

/-- Whether a text is empty or begins with a separator. -/
def atBoundary : List Char → Bool
  | [] => true
  | ':' :: ':' :: _ => true
  | _ => false

/-- What stands before the last separator of the plain path, and nothing where there is none. -/
def enclosing (s : List Char) : List Char :=
  match splitLast (plain s) with
  | some (before, _) => before
  | none => []

/-- What follows the enclosing namespace, generic arguments included. -/
def leaf (s : List Char) : List Char :=
  match enclosing s with
  | [] => s
  | before => s.drop (before.length + 2)

/-- Whether the path lies in a namespace or in one below it. Matching is by whole segments, and
separators at the end of the namespace are ignored. -/
def isWithin (s root : List Char) : Bool :=
  match trim root with
  | [] => false
  | root =>
    match root.isPrefixOf? (enclosing s) with
    | some rest => atBoundary rest
    | none => false

/-- What follows a namespace that the path lies in, behind the bytes of the namespace and of a
separator. -/
def localPart (s root : List Char) : Option (List Char) :=
  if isWithin s root then dropBytes ((String.ofList (trim root)).utf8ByteSize + 2) s else none

end Path

end Outbound
