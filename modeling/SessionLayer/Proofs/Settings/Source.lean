import SessionLayer.Settings.Load

/-!
# Sources of settings

A settings file and the environment are two sources of one kind: `Source.choice` tells of each setting
whether the source leaves it out, gives it a value, or gives it something that is no value of it. The
changes that a source makes are the values that it gives, in the order of `Key.all`, unless something in
it is bad; then there is no change at all, and the first bad setting in that order is the fault.
-/

set_option autoImplicit false

namespace SessionLayer

namespace Settings

/-- The settings by name. -/
inductive Key where
  | noticeCapacity
  | notificationCapacity
  | isolation
  | logLevel
  | logJson
  deriving DecidableEq, Repr

namespace Key

/-- Every setting, in the order in which a source is checked. -/
def all : List Key := [noticeCapacity, notificationCapacity, isolation, logLevel, logJson]

theorem nodup_all : all.Nodup := by
  decide

theorem mem_all (key : Key) : key ∈ all := by
  cases key <;> decide

/-- The variable of a setting in the environment. -/
def variableName : Key → String
  | noticeCapacity => "PGSESSION_NOTICE_CAPACITY"
  | notificationCapacity => "PGSESSION_NOTIFY_CAPACITY"
  | isolation => "PGSESSION_ISOLATION_LEVEL"
  | logLevel => "PGSESSION_LOG_LEVEL"
  | logJson => "PGSESSION_JSON_LOGS"

/-- A setting in a file, with its section. -/
def fileName : Key → String
  | noticeCapacity => "session.notice_capacity"
  | notificationCapacity => "session.notify_capacity"
  | isolation => "session.isolation_level"
  | logLevel => "logging.log_level"
  | logJson => "logging.json_logs"

end Key

/-- The setting that a change is about. -/
def Change.key : Change → Key
  | .noticeCapacity _ => .noticeCapacity
  | .notificationCapacity _ => .notificationCapacity
  | .isolation _ => .isolation
  | .logLevel _ => .logLevel
  | .logJson _ => .logJson

/-- What a setting is set to, as the change that sets it so. -/
def value (s : Settings) : Key → Change
  | .noticeCapacity => .noticeCapacity s.noticeCapacity
  | .notificationCapacity => .notificationCapacity s.notificationCapacity
  | .isolation => .isolation s.isolation
  | .logLevel => .logLevel s.log.level
  | .logJson => .logJson s.log.json

/-- A change sets one setting and leaves the others. -/
theorem value_change (s : Settings) (c : Change) (key : Key) :
    (s.change c).value key = if c.key = key then c else s.value key := by
  cases c <;> cases key <;> rfl

/-- A fault that says of a setting, by the name that it has in its source, what is wrong with it. -/
def FaultNames (name : String) (fault : SettingsFault) : Prop :=
  fault.cls = .value ∧ ∃ reason, fault.message = "Invalid " ++ name ++ ": " ++ reason

/-- What a source says about each setting, and the names that it has for them. -/
structure Source where
  name : Key → String
  choice : Key → Option (Except SettingsFault Change)
  /-- A value is one of the setting in question. -/
  key_eq : ∀ {key change}, choice key = some (.ok change) → change.key = key
  /-- A fault names the setting in question. -/
  names : ∀ {key fault}, choice key = some (.error fault) → FaultNames (name key) fault

/-! ## Answers in order -/

section Answers

variable {ε α : Type}

/-- The fault, where an answer is one. -/
def fault? : Option (Except ε α) → Option ε
  | some (.error fault) => some fault
  | _ => none

/-- The value, where an answer is one. -/
def value? : Option (Except ε α) → Option α
  | some (.ok x) => some x
  | _ => none

/-- An answer as a list of values. -/
def listed : Option (Except ε α) → Except ε (List α)
  | none => .ok []
  | some outcome => outcome.map fun x => [x]

/-- The values of some answers, up to the first fault. -/
def gather : List (Option (Except ε α)) → Except ε (List α)
  | [] => pure []
  | answer :: rest => do
    let first ← listed answer
    let others ← gather rest
    return first ++ others

/-- A fault anywhere leaves no value, and the first one counts. -/
theorem gather_eq (answers : List (Option (Except ε α))) :
    gather answers =
      match answers.findSome? fault? with
      | some fault => .error fault
      | none => .ok (answers.filterMap value?) := by
  induction answers with
  | nil => rfl
  | cons answer rest ih =>
    rw [gather, ih, List.findSome?_cons, List.filterMap_cons]
    match answer with
    | none => cases rest.findSome? fault? <;> rfl
    | some (.error fault) => rfl
    | some (.ok x) => cases rest.findSome? fault? <;> rfl

end Answers

/-! ## The changes that a source makes -/

namespace Source

variable (source : Source)

def answers : List (Option (Except SettingsFault Change)) :=
  Key.all.map source.choice

/-- The first bad setting. -/
def firstFault? : Option SettingsFault :=
  Key.all.findSome? fun key => fault? (source.choice key)

/-- The value of a setting, where the source gives one. -/
def given? (key : Key) : Option Change :=
  value? (source.choice key)

/-- The changes of a source, unless one of its settings is bad. -/
theorem gather_answers :
    gather source.answers =
      match source.firstFault? with
      | some fault => .error fault
      | none => .ok (Key.all.filterMap source.given?) := by
  have hfault : (Key.all.map source.choice).findSome? fault? = source.firstFault? := List.findSome?_map
  have hgiven : (Key.all.map source.choice).filterMap value? = Key.all.filterMap source.given? :=
    List.filterMap_map
  rw [gather_eq, answers, hfault, hgiven]
  cases source.firstFault? <;> rfl

theorem key_eq_of_given? {source : Source} {key : Key} {change : Change}
    (h : source.given? key = some change) : change.key = key := by
  unfold given? value? at h
  split at h
  · cases h
    exact source.key_eq ‹_›
  · exact nomatch h

/-- The first fault of a source names the setting that it is about. -/
theorem names_of_firstFault? {source : Source} {fault : SettingsFault}
    (h : source.firstFault? = some fault) : ∃ key, FaultNames (source.name key) fault := by
  obtain ⟨before, key, after, -, hkey, -⟩ := List.findSome?_eq_some_iff.1 h
  unfold fault? at hkey
  split at hkey
  · cases hkey
    exact ⟨key, source.names ‹_›⟩
  · exact nomatch hkey

/-- After the changes of a source, a setting has the value that the source gives, if any. -/
theorem value_changeAll_filterMap (s : Settings) (keys : List Key) (hnodup : keys.Nodup) (key : Key) :
    (s.changeAll (keys.filterMap source.given?)).value key =
      if key ∈ keys then (source.given? key).getD (s.value key) else s.value key := by
  induction keys generalizing s with
  | nil => rfl
  | cons first rest ih =>
    obtain ⟨hfirst, hrest⟩ := List.nodup_cons.1 hnodup
    rw [List.filterMap_cons]
    cases hgiven : source.given? first with
    | none =>
      dsimp only
      rw [ih s hrest]
      by_cases hkey : key = first
      · subst hkey
        simp [hfirst, hgiven]
      · simp [hkey]
    | some change =>
      have hchange : (s.changeAll (change :: rest.filterMap source.given?)) =
          (s.change change).changeAll (rest.filterMap source.given?) := rfl
      dsimp only
      rw [hchange, ih (s.change change) hrest, value_change, key_eq_of_given? hgiven]
      by_cases hkey : key = first
      · subst hkey
        simp [hfirst, hgiven]
      · simp [hkey, Ne.symm hkey]

theorem value_changeAll (s : Settings) (key : Key) :
    (s.changeAll (Key.all.filterMap source.given?)).value key =
      (source.given? key).getD (s.value key) := by
  rw [source.value_changeAll_filterMap s Key.all Key.nodup_all, if_pos key.mem_all]

end Source

/-! ## The two sources -/

theorem faultNames_zeroCapacity (setting : String) :
    FaultNames setting (.zeroCapacity setting) := by
  refine ⟨rfl, "must be > 0", ?_⟩
  rw [String.append_assoc]
  rfl

theorem faultNames_levelOutOfBounds (setting : String) :
    FaultNames setting (.levelOutOfBounds setting) := by
  refine ⟨rfl, "isolation level out of bounds (0,3)", ?_⟩
  rw [String.append_assoc]
  rfl

theorem faultNames_badNumeral (name : String) (reason : Text.NumeralFault) :
    FaultNames name (.badNumeral name reason) :=
  ⟨rfl, reason.message, rfl⟩

/-- What was read for a setting is a change of it, or a fault that names it. -/
inductive Reads (name : String) (key : Key) : Except SettingsFault Change → Prop
  | fault {fault : SettingsFault} : FaultNames name fault → Reads name key (.error fault)
  | change {change : Change} : change.key = key → Reads name key (.ok change)

theorem reads_map {α : Type} {name : String} {key : Key} {outcome : Except SettingsFault α}
    {change : α → Change} (hnames : ∀ fault, outcome = .error fault → FaultNames name fault)
    (hkey : ∀ x, (change x).key = key) : Reads name key (outcome.map change) := by
  cases outcome with
  | error fault => exact .fault (hnames fault rfl)
  | ok x => exact .change (hkey x)

/-- The source of the settings that are read, by the names that they are read under. -/
def Source.ofReads (name : Key → String) (choice : Key → Option (Except SettingsFault Change))
    (h : ∀ key outcome, choice key = some outcome → Reads (name key) key outcome) : Source where
  name := name
  choice := choice
  key_eq hchoice := by
    cases h _ _ hchoice with
    | change hkey => exact hkey
  names hchoice := by
    cases h _ _ hchoice with
    | fault hnames => exact hnames

end Settings

open Settings

namespace FileSettings

section Numbers

variable {setting : String} {fault : SettingsFault}

/-- Every positive number is taken over as it stands. -/
theorem capacity_eq_ok_iff {n : Nat} {c : Capacity} : capacity setting n = .ok c ↔ n = c.val := by
  unfold capacity
  split
  · rw [Except.ok.injEq]
    exact Subtype.ext_iff
  · rename_i hzero
    refine ⟨nofun, ?_⟩
    rintro rfl
    exact absurd c.property hzero

theorem capacity_eq_error_iff {n : Nat} :
    capacity setting n = .error fault ↔ n = 0 ∧ fault = .zeroCapacity setting := by
  unfold capacity
  split
  · rename_i hpos
    refine ⟨nofun, ?_⟩
    rintro ⟨rfl, -⟩
    exact absurd hpos (Nat.lt_irrefl 0)
  · rename_i hzero
    rw [Except.error.injEq, eq_comm]
    exact ⟨fun h => ⟨Nat.eq_zero_of_not_pos hzero, h⟩, And.right⟩

theorem isolationLevel_eq_ok_iff {n : Int} {level : Isolation} :
    isolationLevel setting n = .ok level ↔ n = level.level := by
  rw [← Isolation.ofLevel_eq_ok_iff, isolationLevel]
  cases Isolation.ofLevel n with
  | ok _ =>
    constructor
    · rintro ⟨⟩
      rfl
    · rintro ⟨⟩
      rfl
  | error _ => exact ⟨nofun, nofun⟩

theorem isolationLevel_eq_error_iff {n : Int} :
    isolationLevel setting n = .error fault ↔
      (n < 0 ∨ 2 < n) ∧ fault = .levelOutOfBounds setting := by
  unfold isolationLevel
  cases hlevel : Isolation.ofLevel n with
  | ok level =>
    have hn := Isolation.ofLevel_eq_ok_iff.1 hlevel
    have hbounds : level.level ≤ 2 := by cases level <;> decide
    refine ⟨nofun, fun h => ?_⟩
    omega
  | error f =>
    have hbad := (Isolation.ofLevel_eq_error_iff.1 hlevel).1
    refine ⟨?_, ?_⟩
    · rintro ⟨⟩
      exact ⟨hbad, rfl⟩
    · rintro ⟨-, rfl⟩
      rfl

theorem names_capacity {n : Nat} (h : capacity setting n = .error fault) :
    FaultNames setting fault := by
  obtain ⟨-, rfl⟩ := capacity_eq_error_iff.1 h
  exact faultNames_zeroCapacity setting

theorem names_isolationLevel {n : Int} (h : isolationLevel setting n = .error fault) :
    FaultNames setting fault := by
  obtain ⟨-, rfl⟩ := isolationLevel_eq_error_iff.1 h
  exact faultNames_levelOutOfBounds setting

end Numbers

/-- What is read for each setting that a file gives. -/
def choice (f : FileSettings) : Key → Option (Except SettingsFault Change)
  | .noticeCapacity =>
    f.noticeCapacity.map fun n => (capacity Key.noticeCapacity.fileName n).map .noticeCapacity
  | .notificationCapacity =>
    f.notificationCapacity.map fun n =>
      (capacity Key.notificationCapacity.fileName n).map .notificationCapacity
  | .isolation => f.isolation.map fun n => (isolationLevel Key.isolation.fileName n).map .isolation
  | .logLevel => f.logLevel.map fun text => .ok (.logLevel text)
  | .logJson => f.logJson.map fun enabled => .ok (.logJson enabled)

theorem reads_choice {f : FileSettings} {key : Key} {outcome : Except SettingsFault Change}
    (h : f.choice key = some outcome) : Reads key.fileName key outcome := by
  cases key with
  | noticeCapacity | notificationCapacity =>
    obtain ⟨n, -, rfl⟩ := Option.map_eq_some_iff.1 h
    exact reads_map (fun _ => names_capacity) fun _ => rfl
  | isolation =>
    obtain ⟨n, -, rfl⟩ := Option.map_eq_some_iff.1 h
    exact reads_map (fun _ => names_isolationLevel) fun _ => rfl
  | logLevel | logJson =>
    obtain ⟨x, -, rfl⟩ := Option.map_eq_some_iff.1 h
    exact .change rfl

/-- A settings file as a source. -/
def source (f : FileSettings) : Source :=
  .ofReads Key.fileName f.choice fun _ _ => reads_choice

theorem given_eq {α : Type} (value : Option α) (change : α → Except SettingsFault Change) :
    given value change = listed (value.map change) := by
  cases value <;> rfl

theorem changes_eq (f : FileSettings) : f.changes = gather f.source.answers := by
  unfold changes
  simp only [given_eq, Source.answers, source, Source.ofReads, choice, Key.fileName, Key.all,
    List.map_cons, List.map_nil, gather, bind_assoc, pure_bind, List.append_assoc, List.append_nil]

end FileSettings

namespace Environment

theorem names_capacity {name text : String} {fault : SettingsFault}
    (h : capacity name text = .error fault) : FaultNames name fault := by
  unfold capacity at h
  split at h
  · cases h
    exact faultNames_badNumeral name _
  · split at h
    · exact nomatch h
    · cases h
      exact faultNames_badNumeral name _

theorem names_isolationLevel {name text : String} {fault : SettingsFault}
    (h : isolationLevel name text = .error fault) : FaultNames name fault := by
  unfold isolationLevel at h
  split at h
  · cases h
    exact faultNames_badNumeral name _
  · exact FileSettings.names_isolationLevel h

/-- What is read for a setting from the text of its variable. -/
def read (text : String) : Key → Except SettingsFault Change
  | .noticeCapacity => (capacity Key.noticeCapacity.variableName text).map .noticeCapacity
  | .notificationCapacity =>
    (capacity Key.notificationCapacity.variableName text).map .notificationCapacity
  | .isolation => (isolationLevel Key.isolation.variableName text).map .isolation
  | .logLevel => .ok (.logLevel text)
  | .logJson => .ok (.logJson (saysYes text))

/-- What is read for each setting whose variable is set to a text. -/
def choice (env : Environment) (key : Key) : Option (Except SettingsFault Change) :=
  (env.text? key.variableName).map fun text => read text key

theorem reads_read (text : String) (key : Key) : Reads key.variableName key (read text key) := by
  cases key with
  | noticeCapacity | notificationCapacity =>
    rw [read]
    exact reads_map (fun _ => names_capacity) fun _ => rfl
  | isolation =>
    rw [read]
    exact reads_map (fun _ => names_isolationLevel) fun _ => rfl
  | logLevel | logJson => exact .change rfl

theorem reads_choice {env : Environment} {key : Key} {outcome : Except SettingsFault Change}
    (h : env.choice key = some outcome) : Reads key.variableName key outcome := by
  obtain ⟨text, -, rfl⟩ := Option.map_eq_some_iff.1 h
  exact reads_read text key

/-- The environment as a source. -/
def source (env : Environment) : Source :=
  .ofReads Key.variableName env.choice fun _ _ => reads_choice

theorem given_eq (env : Environment) (name : String)
    (change : String → Except SettingsFault Change) :
    env.given name change = listed ((env.text? name).map change) := by
  unfold given
  cases env.text? name <;> rfl

theorem settingsChanges_eq (env : Environment) :
    env.settingsChanges = gather env.source.answers := by
  unfold settingsChanges noticeCapacityVariable notificationCapacityVariable isolationVariable
    logLevelVariable logJsonVariable
  simp only [given_eq, Source.answers, source, Source.ofReads, choice, read, Key.variableName, Key.all,
    List.map_cons, List.map_nil, gather, bind_assoc, pure_bind, List.append_assoc, List.append_nil]

end Environment

end SessionLayer
