import SessionLayer.Proofs.Settings.Merging
import SessionLayer.Proofs.Text.Numeral

/-!
# What the variables of the environment say

`Key.Denotes` says which value the text of a variable denotes for its setting, without regard to how the
text is read. A text is read as what it denotes. One that denotes nothing ends the loading, but for the
truth value, where every text that does not say "yes" counts as "no".
-/

set_option autoImplicit false

namespace SessionLayer

namespace Settings

namespace Key

/-- The words for a truth value, in lower case. -/
def words : Bool → List String
  | true => ["true", "1", "yes", "on"]
  | false => ["false", "0", "no", "off"]

/-- A text denotes a value of a setting: numbers are decimal numerals that may have blanks around them,
the text for the level of logging stands for itself, and words may be in whatever case. -/
inductive Denotes : Key → String → Change → Prop
  | noticeCapacity {text : String} {n : Capacity} :
    Text.Denotes (Text.trim text).toList n.val → n.val < 2 ^ 64 →
      Denotes .noticeCapacity text (.noticeCapacity n)
  | notificationCapacity {text : String} {n : Capacity} :
    Text.Denotes (Text.trim text).toList n.val → n.val < 2 ^ 64 →
      Denotes .notificationCapacity text (.notificationCapacity n)
  | isolation {text : String} {level : Isolation} :
    Text.Denotes (Text.trim text).toList level.level → Denotes .isolation text (.isolation level)
  | logLevel {text : String} : Denotes .logLevel text (.logLevel text)
  | logJson {text word : String} {enabled : Bool} :
    word ∈ words enabled → text.toList.map Char.toLower = word.toList →
      Denotes .logJson text (.logJson enabled)

/-- A text is no value of a setting. -/
def Meaningless (key : Key) (text : String) : Prop :=
  ∀ change, ¬ key.Denotes text change

end Key

end Settings

open Settings

namespace Environment

theorem capacity_eq_ok_iff {name text : String} {n : Capacity} :
    capacity name text = .ok n ↔ Text.Denotes (Text.trim text).toList n.val ∧ n.val < 2 ^ 64 := by
  have hread : capacity name text = .ok n ↔
      Text.readPositive Text.maxUnsigned64 (Text.trim text).toList = .ok n.val := by
    unfold capacity
    cases hread : Text.readPositive Text.maxUnsigned64 (Text.trim text).toList with
    | error fault => exact ⟨nofun, nofun⟩
    | ok m =>
      have hm : 0 < m := (Text.readPositive_eq_ok_iff.1 hread).2.1
      simp only [dif_pos hm, Except.ok.injEq]
      exact Subtype.ext_iff
  rw [hread, Text.readPositive_eq_ok_iff]
  constructor
  · exact fun h => ⟨h.1, Nat.lt_succ_of_le h.2.2⟩
  · exact fun h => ⟨h.1, n.property, Nat.le_of_lt_succ h.2⟩

theorem isolationLevel_eq_ok_iff {name text : String} {level : Isolation} :
    isolationLevel name text = .ok level ↔
      Text.Denotes (Text.trim text).toList level.level := by
  have hread : isolationLevel name text = .ok level ↔
      Text.readSigned Text.maxSigned32 (Text.trim text).toList = .ok level.level := by
    unfold isolationLevel
    cases Text.readSigned Text.maxSigned32 (Text.trim text).toList with
    | error fault => exact ⟨nofun, nofun⟩
    | ok z =>
      dsimp only
      rw [Except.ok.injEq, ← Isolation.ofLevel_eq_ok_iff]
      cases Isolation.ofLevel z <;> simp [Except.mapError]
  have hrange : -(Text.maxSigned32 : Int) - 1 ≤ level.level ∧
      (level.level : Int) ≤ Text.maxSigned32 := by
    cases level <;> decide
  rw [hread, Text.readSigned_eq_ok_iff]
  exact and_iff_left hrange

theorem saysYes_iff {text : String} :
    saysYes text = true ↔ Key.logJson.Denotes text (.logJson true) := by
  unfold saysYes
  rw [List.contains_iff_mem]
  constructor
  · exact fun h => .logJson h (String.toList_ofList ..).symm
  · rintro (h : Key.logJson.Denotes text (.logJson true))
    cases h with
    | logJson hword htext => rwa [htext, String.ofList_toList]

/-- No word says both "yes" and "no". -/
theorem saysYes_of_denotes {text : String} {enabled : Bool}
    (h : Key.logJson.Denotes text (.logJson enabled)) : saysYes text = enabled := by
  cases enabled with
  | true => exact saysYes_iff.2 h
  | false =>
    rw [← Bool.not_eq_true, saysYes_iff]
    intro hyes
    cases h with
    | logJson hword htext =>
      cases hyes with
      | logJson hword' htext' =>
        have heq := String.toList_inj.1 (htext.symm.trans htext')
        subst heq
        have hdisjoint : ∀ word ∈ Key.words false, word ∉ Key.words true := by decide
        exact hdisjoint _ hword hword'

theorem saysYes_of_meaningless {text : String} (h : Key.logJson.Meaningless text) :
    saysYes text = false :=
  Bool.eq_false_iff.2 fun hyes => h _ (saysYes_iff.1 hyes)

/-- A text is read as the value that it denotes. -/
theorem read_of_denotes {key : Key} {text : String} {change : Change}
    (h : key.Denotes text change) : read text key = .ok change := by
  cases h with
  | noticeCapacity hvalue hlimit =>
    rw [read, capacity_eq_ok_iff.2 ⟨hvalue, hlimit⟩]
    rfl
  | notificationCapacity hvalue hlimit =>
    rw [read, capacity_eq_ok_iff.2 ⟨hvalue, hlimit⟩]
    rfl
  | isolation hvalue =>
    rw [read, isolationLevel_eq_ok_iff.2 hvalue]
    rfl
  | logLevel => rfl
  | logJson hword htext => rw [read, saysYes_of_denotes (.logJson hword htext)]

/-- What is read is what the text denotes, or the truth value "no" where the text denotes none. -/
theorem denotes_of_read {key : Key} {text : String} {change : Change}
    (h : read text key = .ok change) :
    key.Denotes text change ∨
      key = .logJson ∧ key.Meaningless text ∧ change = .logJson false := by
  cases key with
  | noticeCapacity =>
    obtain ⟨n, hn, rfl⟩ := Text.exists_ok_iff.1 h
    exact Or.inl (.noticeCapacity (capacity_eq_ok_iff.1 hn).1 (capacity_eq_ok_iff.1 hn).2)
  | notificationCapacity =>
    obtain ⟨n, hn, rfl⟩ := Text.exists_ok_iff.1 h
    exact Or.inl (.notificationCapacity (capacity_eq_ok_iff.1 hn).1 (capacity_eq_ok_iff.1 hn).2)
  | isolation =>
    obtain ⟨level, hlevel, rfl⟩ := Text.exists_ok_iff.1 h
    exact Or.inl (.isolation (isolationLevel_eq_ok_iff.1 hlevel))
  | logLevel =>
    cases h
    exact Or.inl .logLevel
  | logJson =>
    cases h
    by_cases hmeaning : Key.logJson.Meaningless text
    · exact Or.inr ⟨rfl, hmeaning, by rw [saysYes_of_meaningless hmeaning]⟩
    · obtain ⟨change, hchange⟩ := not_forall_not.1 hmeaning
      left
      have hread := read_of_denotes hchange
      cases hread
      exact hchange

theorem source_choice {env : Environment} {key : Key} {text : String}
    (h : env.text? key.variableName = some text) : env.source.choice key = some (read text key) :=
  congrArg (Option.map _) h

/-- The environment has no bad setting exactly if each variable that is set to a text has one with a
meaning, the truth value apart. -/
theorem firstFault?_eq_none_iff {env : Environment} :
    env.source.firstFault? = none ↔
      ∀ (key : Key) (text : String), env.text? key.variableName = some text →
        key.Meaningless text → key = .logJson := by
  unfold Source.firstFault?
  rw [List.findSome?_eq_none_iff]
  constructor
  · intro h key text htext hmeaningless
    have hgood := h key key.mem_all
    rw [source_choice htext] at hgood
    cases hread : read text key with
    | error fault =>
      rw [hread] at hgood
      exact nomatch hgood
    | ok change =>
      obtain hdenotes | ⟨hkey, -⟩ := denotes_of_read hread
      · exact absurd hdenotes (hmeaningless change)
      · exact hkey
  · intro h key _
    cases htext : env.text? key.variableName with
    | none =>
      have hchoice : env.source.choice key = none := congrArg (Option.map _) htext
      rw [hchoice]
      rfl
    | some text =>
      rw [source_choice htext]
      by_cases hmeaning : key.Meaningless text
      · cases h key text htext hmeaning
        rfl
      · obtain ⟨change, hchange⟩ := not_forall_not.1 hmeaning
        rw [read_of_denotes hchange]
        rfl

/-- An environment without a bad setting gives what it reads. -/
theorem given?_eq_of_read {env : Environment} {key : Key} {text : String}
    (hgood : env.source.firstFault? = none) (htext : env.text? key.variableName = some text) :
    ∃ change, read text key = .ok change ∧ env.source.given? key = some change := by
  unfold Source.firstFault? at hgood
  have hkey := List.findSome?_eq_none_iff.1 hgood key key.mem_all
  unfold Source.given?
  rw [source_choice htext] at hkey ⊢
  cases hread : read text key with
  | error fault =>
    rw [hread] at hkey
    exact nomatch hkey
  | ok change => exact ⟨change, rfl, rfl⟩

end Environment

namespace Settings

/-- What comes of loading settings, from a file at a given path or from one that is looked for. -/
inductive Loads (files : FileSystem) (env : Environment) : Except SettingsFault Settings → Prop
  | fromPath (path : String) : Loads files env (loadFrom files path env)
  | found (home : Option String) : Loads files env (load files home env)

/-- Settings that were loaded have the value that the text of a variable denotes, or the truth value "no"
where it denotes none. A fault is one of a value, unless the file could not be read. -/
def ReadAs (files : FileSystem) (key : Key) (text : String) : Except SettingsFault Settings → Prop
  | .ok s =>
    key.Denotes text (s.value key) ∨
      key = .logJson ∧ key.Meaningless text ∧ s.value key = .logJson false
  | .error fault =>
    fault.cls = .value ∨
      ∃ path reason, (files path).read = .error reason ∧ fault = .unreadable path reason

section ReadAs

variable {files : FileSystem} {env : Environment} {key : Key} {text : String}

theorem readAs_of_settles {file : Source} {outcome : Except SettingsFault Settings}
    (htext : env.text? key.variableName = some text) (h : Settles file env.source outcome) :
    ReadAs files key text outcome := by
  unfold Settles at h
  cases hfile : file.firstFault? with
  | some fault =>
    rw [hfile] at h
    obtain ⟨rfl, _, hnames⟩ := h
    exact Or.inl hnames.1
  | none =>
    cases henv : env.source.firstFault? with
    | some fault =>
      rw [hfile, henv] at h
      obtain ⟨rfl, _, hnames⟩ := h
      exact Or.inl hnames.1
    | none =>
      rw [hfile, henv] at h
      obtain ⟨s, rfl, hvalues⟩ := h
      obtain ⟨change, hread, hgiven⟩ := Environment.given?_eq_of_read henv htext
      have hvalue : s.value key = change := by
        rw [hvalues key, hgiven]
        rfl
      exact Environment.denotes_of_read (hread.trans (congrArg Except.ok hvalue.symm))

theorem readAs_loadFrom (htext : env.text? key.variableName = some text) (path : String) :
    ReadAs files key text (loadFrom files path env) := by
  unfold loadFrom
  cases hread : (files path).read with
  | error reason =>
    rw [settingsChanges_of_unreadable hread]
    exact Or.inr ⟨path, reason, hread, rfl⟩
  | ok content =>
    rw [settingsChanges_of_read hread]
    cases (Toml.parse? content).bind FileSettings.ofDocument? with
    | none => exact Or.inl rfl
    | some file => exact readAs_of_settles htext (settles_merge file env)

theorem readAs_of_loads {outcome : Except SettingsFault Settings}
    (htext : env.text? key.variableName = some text) (hload : Loads files env outcome) :
    ReadAs files key text outcome := by
  cases hload with
  | fromPath path => exact readAs_loadFrom htext path
  | found home =>
    unfold load
    cases findFile files home with
    | some path => exact readAs_loadFrom htext path
    | none => exact readAs_of_settles htext (changes_empty ▸ settles_merge {} env)

end ReadAs

/-- Where there is no settings file, loading succeeds exactly if every variable that is set to a text has
one with a meaning, the truth value apart. -/
theorem load_eq_ok_iff {files : FileSystem} {home : Option String} {env : Environment}
    (hfile : findFile files home = none) :
    (∃ s, load files home env = .ok s) ↔
      ∀ (key : Key) (text : String), env.text? key.variableName = some text →
        key.Meaningless text → key = .logJson := by
  rw [← Environment.firstFault?_eq_none_iff]
  have hsettles : Settles (FileSettings.source {}) env.source (load files home env) := by
    unfold load
    rw [hfile]
    exact changes_empty ▸ settles_merge {} env
  have hempty : (FileSettings.source {}).firstFault? = none := rfl
  unfold Settles at hsettles
  rw [hempty] at hsettles
  cases henv : env.source.firstFault? with
  | none =>
    rw [henv] at hsettles
    obtain ⟨s, hload, -⟩ := hsettles
    exact ⟨fun _ => rfl, fun _ => ⟨s, hload⟩⟩
  | some fault =>
    rw [henv] at hsettles
    rw [hsettles.1]
    exact ⟨nofun, nofun⟩

/-- A variable that is set to a text is not misread: loading either fails, with a fault of a value or
because the file cannot be read, or the setting is what the text denotes. A text that denotes no value of
its setting makes loading fail, but for the truth value, which is then "no". -/
theorem variables_mean_what_they_say {files : FileSystem} {env : Environment} {key : Key}
    {text : String} {outcome : Except SettingsFault Settings}
    (htext : env.text? key.variableName = some text) (hload : Loads files env outcome) :
    ReadAs files key text outcome ∧
      (key.Meaningless text → key ≠ .logJson → ∃ fault, outcome = .error fault) := by
  have hread := readAs_of_loads htext hload
  refine ⟨hread, fun hmeaningless hkey => ?_⟩
  cases outcome with
  | error fault => exact ⟨fault, rfl⟩
  | ok s =>
    obtain hdenotes | ⟨hjson, -⟩ := hread
    · exact absurd hdenotes (hmeaningless _)
    · exact absurd hjson hkey

/-- What is not read as a change is no value. -/
theorem meaningless_of_read {key : Key} {text : String}
    (h : ∀ change, Environment.read text key ≠ .ok change) : key.Meaningless text :=
  fun change hdenotes => h change (Environment.read_of_denotes hdenotes)

theorem variables_mean_what_they_say_zero :
    let env : Environment := { values := [("PGSESSION_NOTIFY_CAPACITY", "0".toUTF8)] }
    let outcome := loadFrom (fun _ => .file "".toUTF8) "config.toml" env
    env.text? Key.notificationCapacity.variableName = some "0" ∧
      Key.notificationCapacity.Meaningless "0" ∧
      ReadAs (fun _ => .file "".toUTF8) .notificationCapacity "0" outcome ∧
      ∃ fault, outcome = .error fault := by
  intro env outcome
  have htext : env.text? Key.notificationCapacity.variableName = some "0" := rfl
  have hload : Loads (fun _ => .file "".toUTF8) env outcome := .fromPath "config.toml"
  have hmeaningless : Key.notificationCapacity.Meaningless "0" :=
    meaningless_of_read fun change => nofun
  have h := variables_mean_what_they_say htext hload
  exact ⟨htext, hmeaningless, h.1, h.2 hmeaningless (by decide)⟩

/-- Not everything without a meaning is refused: a text that is no truth value is read as "no", a value
that is no text counts as one that is not set, and with a file that cannot be read the fault is not one
of a value. -/
theorem meaningless_variables_pass :
    (Key.logJson.Meaningless "nope" ∧
      loadFrom (fun _ => .file "".toUTF8) "config.toml"
        { values := [("PGSESSION_JSON_LOGS", "nope".toUTF8)] } = .ok standard) ∧
    (String.fromUTF8? ⟨#[255]⟩ = none ∧
      loadFrom (fun _ => .file "".toUTF8) "config.toml"
        { values := [("PGSESSION_NOTICE_CAPACITY", ⟨#[255]⟩)] } = .ok standard) ∧
    ∃ fault, loadFrom (fun _ => .absent) "config.toml"
        { values := [("PGSESSION_NOTICE_CAPACITY", "0".toUTF8)] } = .error fault ∧
      fault.cls = .interface := by
  refine ⟨⟨?_, rfl⟩, ⟨rfl, rfl⟩, _, rfl, rfl⟩
  intro change hdenotes
  cases hdenotes with
  | @logJson _ word enabled hword htext =>
    have hother : ∀ enabled, ∀ word ∈ Key.words enabled, ['n', 'o', 'p', 'e'] ≠ word.toList := by
      decide
    exact hother enabled word hword htext

end Settings

end SessionLayer
