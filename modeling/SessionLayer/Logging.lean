import SessionLayer.Fault.Class
import SessionLayer.LogFilter
import SessionLayer.Settings

/-!
# Setting up logging

The filter of the environment counts where it is one, else the level of the settings. A filter can be
installed only once in a program.
-/

set_option autoImplicit false

namespace SessionLayer

/-- Why logging could not be set up. -/
inductive LoggingFault where
  | invalidLevel (level : String)
  | alreadyInstalled
  deriving DecidableEq, Repr

namespace LoggingFault

/-- The class of a fault. -/
def cls : LoggingFault → FaultClass
  | _ => .interface

/-- The wording of a fault. -/
def message : LoggingFault → String
  | invalidLevel level => "Invalid log level '" ++ level ++ "'"
  | alreadyInstalled =>
    "Failed to install subscriber: a global default trace dispatcher has already been set"

end LoggingFault

namespace LogSettings

/-- The filter that applies, given the one of the environment. -/
def filter (s : LogSettings) (fromEnvironment : Option String) : Except LoggingFault String :=
  match fromEnvironment.filter LogFilter.isFilter with
  | some text => .ok text
  | none => if LogFilter.isFilter s.level then .ok s.level else .error (.invalidLevel s.level)

/-- Sets logging up; `isInstalled` tells whether that was done before. -/
def install (s : LogSettings) (fromEnvironment : Option String) (isInstalled : Bool) :
    Except LoggingFault String :=
  match s.filter fromEnvironment with
  | .error fault => .error fault
  | .ok text => if isInstalled then .error .alreadyInstalled else .ok text

end LogSettings

end SessionLayer
