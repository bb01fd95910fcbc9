import Outbound.Text.Blank

namespace Outbound.Pattern

/-- How a stretch of a pattern is read: whether a letter stands for both its cases, whether
characters are taken from all of Unicode or from ASCII, and whether white space and comments are
passed over. -/
structure Modes where
  caseless : Bool
  unicode : Bool
  spaced : Bool

namespace Modes

/-- The modes in which a pattern begins. -/
def usual : Modes := ⟨false, true, false⟩

/-- Modes are named by different letters; those after a dash are switched off. -/
def areLetters (letters : List Char) : Bool :=
  letters.all "imsUuRx-".toList.contains && decide letters.Nodup && letters.getLast? != some '-'

/-- Whether a mode that is named by `letter` is on after the given letters. -/
def switch (letters : List Char) (letter : Char) (now : Bool) : Bool :=
  if (letters.takeWhile (· != '-')).contains letter then true
  else now && !letters.contains letter

/-- The modes after the given letters. Those of lines, of greed and of the dot play no part in
what a pattern may be. -/
def change (letters : List Char) (m : Modes) : Modes where
  caseless := switch letters 'i' m.caseless
  unicode := switch letters 'u' m.unicode
  spaced := switch letters 'x' m.spaced

/-- Passes over white space and comments, which run from a hash to the end of the line. -/
def skipLayout (inComment : Bool) : List Char → List Char
  | [] => []
  | c :: s =>
    if inComment then skipLayout (c != '\n') s
    else if c = '#' then skipLayout true s
    else if isWhiteSpace c then skipLayout false s
    else c :: s

/-- The text from the next character that counts. -/
def skip (m : Modes) (s : List Char) : List Char :=
  if m.spaced then skipLayout false s else s

/-- The next character that is no white space, seen from a place where a comment may begin. Only
the hash of a comment is passed over, not its text; where nothing is left, the next character
counts whatever it is. -/
def peek (m : Modes) (s : List Char) : Option Char :=
  if m.spaced then
    let shown := match s.dropWhile isWhiteSpace with
      | '#' :: rest => rest.dropWhile isWhiteSpace
      | rest => rest
    shown.head?.or s.head?
  else s.head?

end Modes

end Outbound.Pattern
