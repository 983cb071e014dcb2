import SessionLayer.Settings
import SessionLayer.Settings.Fault
import SessionLayer.Toml

/-!
# Settings in a file

A settings file has two sections, `session` and `logging`, in which every setting is optional and
nothing else may stand. A section may also be an array that gives all of its settings in order; what
follows them does not count. Values are checked in a fixed order, and the first bad one is the fault.
-/

set_option autoImplicit false

namespace SessionLayer

structure FileSettings where
  noticeCapacity : Option Nat := none
  notificationCapacity : Option Nat := none
  isolation : Option Int := none
  logLevel : Option String := none
  logJson : Option Bool := none
  deriving DecidableEq, Repr

namespace FileSettings

/-- A value as a number of 64 bits without a sign. -/
def natural? : Toml.Value → Option Nat
  | .integer (some n) => if 0 ≤ n ∧ n ≤ Text.maxUnsigned64 then some n.toNat else none
  | _ => none

/-- A value as a number of 32 bits with a sign. -/
def level? : Toml.Value → Option Int
  | .integer (some n) =>
    if -(Text.maxSigned32 : Int) - 1 ≤ n ∧ n ≤ Text.maxSigned32 then some n else none
  | _ => none

def text? : Toml.Value → Option String
  | .text s => some s
  | _ => none

/-- A value as a truth value. -/
def boolean? : Toml.Value → Option Bool
  | .boolean b => some b
  | _ => none

/-- The entries of a section whose keys have to be known. -/
def sectionEntries? (known : List String) : Toml.Value → Option Toml.Entries
  | .table _ entries =>
    if entries.all fun entry => known.contains entry.1 then some entries else none
  | .array items => if known.length ≤ items.length then some (known.zip items) else none
  | _ => none

/-- A setting that may be left out, but has to have the right form where it is given. -/
def setting? {α : Type} (entries : Toml.Entries) (key : String) (read : Toml.Value → Option α) :
    Option (Option α) :=
  match entries.get? key with
  | none => some none
  | some value => (read value).map some

/-- The settings of a section that may be left out. -/
def section? (root : Toml.Entries) (name : String) (known : List String) : Option Toml.Entries :=
  match root.get? name with
  | none => some []
  | some value => sectionEntries? known value

/-- What a document gives, `none` if it has another form. -/
def ofDocument? (root : Toml.Entries) : Option FileSettings := do
  let root ← sectionEntries? ["session", "logging"] (.table .header root)
  let session ← section? root "session" ["notice_capacity", "notify_capacity", "isolation_level"]
  let logging ← section? root "logging" ["log_level", "json_logs"]
  return {
    noticeCapacity := ← setting? session "notice_capacity" natural?
    notificationCapacity := ← setting? session "notify_capacity" natural?
    isolation := ← setting? session "isolation_level" level?
    logLevel := ← setting? logging "log_level" text?
    logJson := ← setting? logging "json_logs" boolean? }

/-- A capacity that was given, which may not be zero. -/
def capacity (setting : String) (n : Nat) : Except SettingsFault Capacity :=
  if h : 0 < n then .ok ⟨n, h⟩ else .error (.zeroCapacity setting)

def isolationLevel (setting : String) (n : Int) : Except SettingsFault Isolation :=
  (Isolation.ofLevel n).mapError fun _ => .levelOutOfBounds setting

/-- A change where a setting was given. -/
def given {α : Type} (value : Option α) (change : α → Except SettingsFault Settings.Change) :
    Except SettingsFault (List Settings.Change) :=
  match value with
  | none => .ok []
  | some x => (change x).map fun c => [c]

/-- The changes that a settings file makes. -/
def changes (f : FileSettings) : Except SettingsFault (List Settings.Change) := do
  let notice ← given f.noticeCapacity fun n =>
    (capacity "session.notice_capacity" n).map .noticeCapacity
  let notification ← given f.notificationCapacity fun n =>
    (capacity "session.notify_capacity" n).map .notificationCapacity
  let isolation ← given f.isolation fun n =>
    (isolationLevel "session.isolation_level" n).map .isolation
  let logLevel ← given f.logLevel fun text => .ok (.logLevel text)
  let logJson ← given f.logJson fun b => .ok (.logJson b)
  return notice ++ notification ++ isolation ++ logLevel ++ logJson

end FileSettings

/-- What stands at a path of the file system. -/
inductive FileEntry where
  | absent
  | directory
  | file (content : ByteArray)

namespace FileEntry

/-- Whether something stands at the path. -/
def isPresent : FileEntry → Bool
  | absent => false
  | _ => true

/-- The text of a file. -/
def read : FileEntry → Except ReadFailure String
  | absent => .error .absent
  | directory => .error .directory
  | file content =>
    match String.fromUTF8? content with
    | some text => .ok text
    | none => .error .notText

/-- The changes that the settings file at a path makes. -/
def settingsChanges (entry : FileEntry) (path : String) :
    Except SettingsFault (List Settings.Change) := do
  let text ← entry.read.mapError (.unreadable path)
  match (Toml.parse? text).bind FileSettings.ofDocument? with
  | none => throw (.unparsable path)
  | some settings => settings.changes

end FileEntry

end SessionLayer
