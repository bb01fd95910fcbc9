import Outbound.Settings.Basic

namespace Outbound

/-- Why a file cannot be read. -/
inductive FileError where
  | notFound
  | isDirectory
  | notText
  deriving DecidableEq

def FileError.message : FileError → String
  | notFound => "No such file or directory (os error 2)"
  | isDirectory => "Is a directory (os error 21)"
  | notText => "stream did not contain valid UTF-8"

/-- The bytes of a file, if it can be read. -/
abbrev FileContents := Except FileError ByteArray

/-- Why settings cannot be loaded from a file. Of malformed settings no more is known than that
they are; where in the text they go wrong is left out. -/
inductive SettingsError where
  | unreadable (path : String) (reason : FileError)
  | malformed
  deriving DecidableEq

def SettingsError.message : SettingsError → String
  | unreadable path _ => "failed to read settings from " ++ path
  | malformed => "malformed settings"

namespace Settings

def ofText (s : String) : Except SettingsError Settings :=
  match parse? s with
  | some settings => .ok settings
  | none => .error .malformed

/-- The settings in a file, which has to be a text. -/
def load (path : String) (contents : FileContents) : Except SettingsError Settings :=
  match contents with
  | .error reason => .error (.unreadable path reason)
  | .ok bytes =>
    match String.fromUTF8? bytes with
    | some s => ofText s
    | none => .error (.unreadable path .notText)

end Settings

end Outbound
