import SessionLayer.Settings
import SessionLayer.Settings.Fault
import SessionLayer.Text.Blank

/-!
# Settings in the environment

Each setting has a variable of its own. Numbers may have blanks around them. A variable whose value is
not valid UTF-8 counts as one that is not set, and every text for the truth value other than the four
that say "yes" says "no".
-/

set_option autoImplicit false

namespace SessionLayer

/-- The names of the variables that are set, with their values. -/
structure Environment where
  values : List (String × ByteArray) := []

namespace Environment

/-- The value of a variable that is set to a text. -/
def text? (env : Environment) (name : String) : Option String :=
  (List.lookup name env.values).bind String.fromUTF8?

def noticeCapacityVariable : String := "PGSESSION_NOTICE_CAPACITY"

def notificationCapacityVariable : String := "PGSESSION_NOTIFY_CAPACITY"

def isolationVariable : String := "PGSESSION_ISOLATION_LEVEL"

def logLevelVariable : String := "PGSESSION_LOG_LEVEL"

def logJsonVariable : String := "PGSESSION_JSON_LOGS"

/-- A capacity as the value of a variable. -/
def capacity (name text : String) : Except SettingsFault Capacity :=
  match Text.readPositive Text.maxUnsigned64 (Text.trim text).toList with
  | .error reason => .error (.badNumeral name reason)
  | .ok n => if h : 0 < n then .ok ⟨n, h⟩ else .error (.badNumeral name .zero)

def isolationLevel (name text : String) : Except SettingsFault Isolation :=
  match Text.readSigned Text.maxSigned32 (Text.trim text).toList with
  | .error reason => .error (.badNumeral name reason)
  | .ok n => (Isolation.ofLevel n).mapError fun _ => .levelOutOfBounds name

/-- Whether a text says "yes", in whatever case. -/
def saysYes (text : String) : Bool :=
  ["true", "1", "yes", "on"].contains (String.ofList (text.toList.map Char.toLower))

/-- A change where a variable is set. -/
def given (env : Environment) (name : String)
    (change : String → Except SettingsFault Settings.Change) :
    Except SettingsFault (List Settings.Change) :=
  match env.text? name with
  | none => .ok []
  | some text => (change text).map fun c => [c]

/-- The changes that the environment makes. -/
def settingsChanges (env : Environment) : Except SettingsFault (List Settings.Change) := do
  let notice ← env.given noticeCapacityVariable fun text =>
    (capacity noticeCapacityVariable text).map .noticeCapacity
  let notification ← env.given notificationCapacityVariable fun text =>
    (capacity notificationCapacityVariable text).map .notificationCapacity
  let isolation ← env.given isolationVariable fun text =>
    (isolationLevel isolationVariable text).map .isolation
  let logLevel ← env.given logLevelVariable fun text => .ok (.logLevel text)
  let logJson ← env.given logJsonVariable fun text => .ok (.logJson (saysYes text))
  return notice ++ notification ++ isolation ++ logLevel ++ logJson

end Environment

end SessionLayer
