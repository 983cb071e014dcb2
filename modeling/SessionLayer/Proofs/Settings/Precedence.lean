import SessionLayer.Proofs.Settings.Variables

/-!
# Which source of settings counts

The file is checked before the environment, each in the order of the settings, and the first bad setting
ends the loading, also where the environment would have given a good value in its place. If nothing is
bad, each setting for itself is what the environment says, or else the file, or else the standard.

`Account` says what a source gives, and what in it is bad, without regard to how it is read: a file by the
numbers that stand in it, and a variable by what its text denotes. `Precedence` is what has to come of two
accounts. The sources that are read agree with their accounts, and this is all that the proof needs to know
of them.
-/

set_option autoImplicit false

namespace SessionLayer

namespace Settings

/-! ## Accounts of the sources -/

/-- What a source says of the settings: the names that it has for them, the values that it gives, and where
it gives something that is no value of the setting. -/
structure Account where
  name : Key → String
  Gives : Key → Change → Prop
  IsBad : Key → Prop

/-- Loading ends with a fault of a class and with a wording. -/
def FailsWith (outcome : Except SettingsFault Settings) (cls : FaultClass) (text : String) : Prop :=
  ∃ fault, outcome = .error fault ∧ fault.cls = cls ∧ fault.message = text

namespace Account

end Account

end Settings

open Settings

namespace FileSettings

/-- A file gives a setting a value. -/
inductive Gives (f : FileSettings) : Key → Change → Prop
  | noticeCapacity {n : Capacity} : f.noticeCapacity = some n.val →
      Gives f .noticeCapacity (.noticeCapacity n)
  | notificationCapacity {n : Capacity} : f.notificationCapacity = some n.val →
      Gives f .notificationCapacity (.notificationCapacity n)
  | isolation {level : Isolation} : f.isolation = some (level.level : Int) →
      Gives f .isolation (.isolation level)
  | logLevel {text : String} : f.logLevel = some text → Gives f .logLevel (.logLevel text)
  | logJson {enabled : Bool} : f.logJson = some enabled → Gives f .logJson (.logJson enabled)

/-- A file gives a capacity of zero, or a number that is not that of a level. -/
inductive IsBad (f : FileSettings) : Key → Prop
  | noticeCapacity : f.noticeCapacity = some 0 → IsBad f .noticeCapacity
  | notificationCapacity : f.notificationCapacity = some 0 → IsBad f .notificationCapacity
  | isolation {n : Int} : f.isolation = some n → n < 0 ∨ 2 < n → IsBad f .isolation

/-- A file by the numbers, texts and truth values that stand in it. -/
def account (f : FileSettings) : Account where
  name := Key.fileName
  Gives := f.Gives
  IsBad := f.IsBad

end FileSettings

namespace Environment

/-- The variable of a setting is set to a text. -/
def SetTo (env : Environment) (key : Key) (text : String) : Prop :=
  ∃ bytes, env.values.lookup key.variableName = some bytes ∧ String.fromUTF8? bytes = some text

/-- The environment gives a setting what the text of its variable denotes. The truth value is also given by
a text that denotes none. -/
inductive Gives (env : Environment) : Key → Change → Prop
  | denoted {key : Key} {text : String} {change : Change} : env.SetTo key text →
      key.Denotes text change → Gives env key change
  | otherwiseNo {text : String} : env.SetTo .logJson text → Key.logJson.Meaningless text →
      Gives env .logJson (.logJson false)

/-- The variable of a setting is set to a text that denotes no value of it. -/
def IsBad (env : Environment) (key : Key) : Prop :=
  key ≠ .logJson ∧ ∃ text, env.SetTo key text ∧ key.Meaningless text

/-- The environment by what the texts of its variables denote. -/
def account (env : Environment) : Account where
  name := Key.variableName
  Gives := env.Gives
  IsBad := env.IsBad

end Environment

/-! ## The sources agree with their accounts -/

namespace Settings

/-- What is read from a source is what its account says. -/
structure Source.Agrees (source : Source) (account : Account) : Prop where
  name : source.name = account.name
  given : ∀ key change, source.choice key = some (.ok change) ↔ account.Gives key change
  bad : ∀ key, (∃ fault, source.choice key = some (.error fault)) ↔ account.IsBad key

namespace Source.Agrees

variable {source : Source} {account : Account} {key : Key}

end Source.Agrees

end Settings

namespace FileSettings

section Given

variable {α β : Type} {value : Option α} {read : α → Except SettingsFault β} {change : β → Change}
  {c : Change} {setting : String}

theorem map_read_eq_ok_iff :
    (value.map fun x => (read x).map change) = some (.ok c) ↔
      ∃ x, value = some x ∧ ∃ y, read x = .ok y ∧ change y = c := by
  rw [Option.map_eq_some_iff]
  exact exists_congr fun x => and_congr_right fun _ => Text.exists_ok_iff

theorem map_read_eq_error_iff :
    (∃ fault, (value.map fun x => (read x).map change) = some (.error fault)) ↔
      ∃ x, value = some x ∧ ∃ fault, read x = .error fault := by
  cases value with
  | none => simp
  | some x => cases hread : read x <;> simp [hread, Except.map]

/-- A capacity is given by every number but zero, which is bad. -/
theorem map_capacity_eq_ok_iff {value : Option Nat} {change : Capacity → Change} :
    (value.map fun n => (capacity setting n).map change) = some (.ok c) ↔
      ∃ n : Capacity, value = some n.val ∧ change n = c := by
  rw [map_read_eq_ok_iff]
  simp only [capacity_eq_ok_iff]
  constructor
  · rintro ⟨_, hvalue, n, rfl, hchange⟩
    exact ⟨n, hvalue, hchange⟩
  · rintro ⟨n, hvalue, hchange⟩
    exact ⟨n.val, hvalue, n, rfl, hchange⟩

theorem map_capacity_eq_error_iff {value : Option Nat} {change : Capacity → Change} :
    (∃ fault, (value.map fun n => (capacity setting n).map change) = some (.error fault)) ↔
      value = some 0 := by
  rw [map_read_eq_error_iff]
  simp only [capacity_eq_error_iff]
  constructor
  · rintro ⟨_, hvalue, _, rfl, -⟩
    exact hvalue
  · exact fun hvalue => ⟨0, hvalue, _, rfl, rfl⟩

end Given

section Choice

variable {f : FileSettings} {key : Key}

/-- The numbers of a file are read as what they are. -/
theorem choice_eq_ok_iff {change : Change} :
    f.choice key = some (.ok change) ↔ f.Gives key change := by
  cases key with
  | noticeCapacity =>
    refine map_capacity_eq_ok_iff.trans ⟨?_, ?_⟩
    · rintro ⟨n, hn, rfl⟩
      exact .noticeCapacity hn
    · rintro (h : f.Gives .noticeCapacity change)
      cases h with
      | noticeCapacity hn => exact ⟨_, hn, rfl⟩
  | notificationCapacity =>
    refine map_capacity_eq_ok_iff.trans ⟨?_, ?_⟩
    · rintro ⟨n, hn, rfl⟩
      exact .notificationCapacity hn
    · rintro (h : f.Gives .notificationCapacity change)
      cases h with
      | notificationCapacity hn => exact ⟨_, hn, rfl⟩
  | isolation =>
    refine map_read_eq_ok_iff.trans ⟨?_, ?_⟩
    · rintro ⟨n, hn, level, hlevel, rfl⟩
      cases isolationLevel_eq_ok_iff.1 hlevel
      exact .isolation hn
    · rintro (h : f.Gives .isolation change)
      cases h with
      | isolation hn => exact ⟨_, hn, _, isolationLevel_eq_ok_iff.2 rfl, rfl⟩
  | logLevel =>
    refine Option.map_eq_some_iff.trans ⟨?_, ?_⟩
    · rintro ⟨text, htext, ⟨⟩⟩
      exact .logLevel htext
    · rintro (h : f.Gives .logLevel change)
      cases h with
      | logLevel htext => exact ⟨_, htext, rfl⟩
  | logJson =>
    refine Option.map_eq_some_iff.trans ⟨?_, ?_⟩
    · rintro ⟨enabled, henabled, ⟨⟩⟩
      exact .logJson henabled
    · rintro (h : f.Gives .logJson change)
      cases h with
      | logJson henabled => exact ⟨_, henabled, rfl⟩

theorem choice_eq_error_iff : (∃ fault, f.choice key = some (.error fault)) ↔ f.IsBad key := by
  cases key with
  | noticeCapacity =>
    refine map_capacity_eq_error_iff.trans ⟨.noticeCapacity, ?_⟩
    rintro (h : f.IsBad .noticeCapacity)
    cases h with
    | noticeCapacity hn => exact hn
  | notificationCapacity =>
    refine map_capacity_eq_error_iff.trans ⟨.notificationCapacity, ?_⟩
    rintro (h : f.IsBad .notificationCapacity)
    cases h with
    | notificationCapacity hn => exact hn
  | isolation =>
    refine map_read_eq_error_iff.trans ⟨?_, ?_⟩
    · rintro ⟨n, hn, fault, hfault⟩
      exact .isolation hn (isolationLevel_eq_error_iff.1 hfault).1
    · rintro (h : f.IsBad .isolation)
      cases h with
      | isolation hn hbad => exact ⟨_, hn, _, isolationLevel_eq_error_iff.2 ⟨hbad, rfl⟩⟩
  | logLevel | logJson =>
    -- texts and truth values are taken as they stand
    refine ⟨?_, nofun⟩
    rintro ⟨fault, hfault⟩
    obtain ⟨x, -, hx⟩ := Option.map_eq_some_iff.1 hfault
    exact nomatch hx

end Choice

theorem agrees (f : FileSettings) : f.source.Agrees f.account where
  name := rfl
  given := fun _ _ => choice_eq_ok_iff
  bad := fun _ => choice_eq_error_iff

end FileSettings

namespace Environment

theorem setTo_iff {env : Environment} {key : Key} {text : String} :
    env.SetTo key text ↔ env.text? key.variableName = some text :=
  Option.bind_eq_some_iff.symm

section Choice

variable {env : Environment} {key : Key}

theorem choice_eq_some_iff {outcome : Except SettingsFault Change} :
    env.source.choice key = some outcome ↔ ∃ text, env.SetTo key text ∧ read text key = outcome := by
  simp only [setTo_iff]
  exact Option.map_eq_some_iff

/-- The texts of variables are read as what they denote. -/
theorem choice_eq_ok_iff {change : Change} :
    env.source.choice key = some (.ok change) ↔ env.Gives key change := by
  rw [choice_eq_some_iff]
  constructor
  · rintro ⟨text, htext, hread⟩
    rcases denotes_of_read hread with hdenotes | ⟨rfl, hmeaningless, rfl⟩
    · exact .denoted htext hdenotes
    · exact .otherwiseNo htext hmeaningless
  · rintro (h : env.Gives key change)
    cases h with
    | denoted htext hdenotes => exact ⟨_, htext, read_of_denotes hdenotes⟩
    | otherwiseNo htext hmeaningless =>
      exact ⟨_, htext, by rw [read, saysYes_of_meaningless hmeaningless]⟩

theorem choice_eq_error_iff :
    (∃ fault, env.source.choice key = some (.error fault)) ↔ env.IsBad key := by
  simp only [choice_eq_some_iff]
  constructor
  · rintro ⟨fault, text, htext, hread⟩
    have hmeaningless : key.Meaningless text := by
      refine meaningless_of_read fun change hchange => ?_
      rw [hread] at hchange
      cases hchange
    -- every text is read as a truth value
    refine ⟨?_, text, htext, hmeaningless⟩
    rintro rfl
    cases hread
  · rintro ⟨hkey, text, htext, hmeaningless⟩
    cases hread : read text key with
    | error fault => exact ⟨fault, text, htext, hread⟩
    | ok change =>
      rcases denotes_of_read hread with hdenotes | ⟨hjson, -⟩
      · exact absurd hdenotes (hmeaningless change)
      · exact absurd hjson hkey

end Choice

theorem agrees (env : Environment) : env.source.Agrees env.account where
  name := rfl
  given := fun _ _ => choice_eq_ok_iff
  bad := fun _ => choice_eq_error_iff

end Environment

/-! ## Loading -/

namespace FileEntry

/-- What stands at a path cannot be read, for a reason. -/
inductive IsUnreadable : FileEntry → String → Prop
  | absent : IsUnreadable .absent "No such file or directory (os error 2)"
  | directory : IsUnreadable .directory "Is a directory (os error 21)"
  | notText {content : ByteArray} : String.fromUTF8? content = none →
      IsUnreadable (.file content) "stream did not contain valid UTF-8"

end FileEntry

namespace Settings

variable (files : FileSystem) (env : Environment)

variable {files} {env}

end Settings

end SessionLayer
