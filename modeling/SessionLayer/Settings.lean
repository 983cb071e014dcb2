import SessionLayer.Isolation
import SessionLayer.Mailbox.Bounded
import SessionLayer.Text.Quoted

/-!
# Settings

How many messages a connection buffers, the isolation level that it starts with, and how the program
logs. `Change` is a single setting that is given a value; later changes of one setting win.
-/

set_option autoImplicit false

namespace SessionLayer

structure LogSettings where
  /-- The filter that applies where the environment gives none. -/
  level : String := "info"
  json : Bool := false
  deriving DecidableEq, Repr

structure Settings where
  noticeCapacity : Capacity := ⟨50, by decide⟩
  notificationCapacity : Capacity := ⟨1024, by decide⟩
  isolation : Isolation := .readCommitted
  log : LogSettings := {}
  deriving DecidableEq, Repr

namespace Settings

/-- The settings that apply where nothing is said. -/
def standard : Settings := {}

/-- One setting with its value. -/
inductive Change where
  | noticeCapacity (n : Capacity)
  | notificationCapacity (n : Capacity)
  | isolation (level : Isolation)
  | logLevel (text : String)
  | logJson (enabled : Bool)
  deriving DecidableEq, Repr

/-- The settings with one of them changed. -/
def change (s : Settings) : Change → Settings
  | .noticeCapacity n => { s with noticeCapacity := n }
  | .notificationCapacity n => { s with notificationCapacity := n }
  | .isolation level => { s with isolation := level }
  | .logLevel text => { s with log := { s.log with level := text } }
  | .logJson enabled => { s with log := { s.log with json := enabled } }

/-- The settings with changes made one after the other. -/
def changeAll (s : Settings) (changes : List Change) : Settings :=
  changes.foldl change s

/-- A truth value in diagnostics. -/
def flag (b : Bool) : String :=
  if b then "true" else "false"

/-- The settings in one line, for readers. -/
def diagnostic (s : Settings) : String :=
  "SessionConfig \x7b notice_capacity: " ++ toString s.noticeCapacity.val
    ++ ", notify_capacity: " ++ toString s.notificationCapacity.val
    ++ ", default_isolation_level: " ++ s.isolation.name
    ++ ", logging: LoggingConfig \x7b log_level: " ++ Text.quoted s.log.level
    ++ ", json_logs: " ++ flag s.log.json ++ " \x7d \x7d"

end Settings

end SessionLayer
