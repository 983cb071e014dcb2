import SessionLayer.Fault.Class
import SessionLayer.Text.Numeral

/-!
# Faults of settings

Why settings could not be loaded: a file that cannot be read, or a setting without a meaning.
-/

set_option autoImplicit false

namespace SessionLayer

/-- Why a file cannot be read. -/
inductive ReadFailure where
  | absent
  | directory
  | notText
  deriving DecidableEq, Repr

def ReadFailure.message : ReadFailure → String
  | absent => "No such file or directory (os error 2)"
  | directory => "Is a directory (os error 21)"
  | notText => "stream did not contain valid UTF-8"

/-- Why settings could not be loaded. -/
inductive SettingsFault where
  /-- A file cannot be read. -/
  | unreadable (path : String) (reason : ReadFailure)
  /-- A file is no document of the expected form. -/
  | unparsable (path : String)
  /-- A capacity in a file is zero. -/
  | zeroCapacity (setting : String)
  /-- An isolation level, in a file or in a variable, is not a known one. -/
  | levelOutOfBounds (setting : String)
  /-- The value of a variable is not a number of the expected range. -/
  | badNumeral (variableName : String) (reason : Text.NumeralFault)
  deriving DecidableEq, Repr

namespace SettingsFault

/-- The class of a fault. -/
def cls : SettingsFault → FaultClass
  | unreadable _ _ => .interface
  | _ => .value

/-- The wording of a fault. -/
def message : SettingsFault → String
  | unreadable path reason => "Failed to read config file " ++ path ++ ": " ++ reason.message
  | unparsable path => "Failed to parse config file " ++ path
  | zeroCapacity setting => "Invalid " ++ setting ++ ": must be > 0"
  | levelOutOfBounds setting => "Invalid " ++ setting ++ ": isolation level out of bounds (0,3)"
  | badNumeral variableName reason => "Invalid " ++ variableName ++ ": " ++ reason.message

end SettingsFault

end SessionLayer
