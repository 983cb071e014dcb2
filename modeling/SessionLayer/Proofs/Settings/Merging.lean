import SessionLayer.Proofs.Settings.Source

/-!
# Settings from two sources

The changes of a file and of the environment are made in this order, unless one of the two has a bad
setting. Where both are good, each setting for itself is what the environment gives, or else the file, or
else the standard.
-/

set_option autoImplicit false

namespace SessionLayer

namespace Settings

/-- How settings come about from a file and the environment. -/
def Settles (file env : Source) (outcome : Except SettingsFault Settings) : Prop :=
  match file.firstFault?, env.firstFault? with
  | some fault, _ => outcome = .error fault ∧ ∃ key, FaultNames (file.name key) fault
  | none, some fault => outcome = .error fault ∧ ∃ key, FaultNames (env.name key) fault
  | none, none =>
    ∃ s, outcome = .ok s ∧ ∀ key, s.value key =
      ((env.given? key).or (file.given? key)).getD (standard.value key)

theorem settles_merge (file : FileSettings) (env : Environment) :
    Settles file.source env.source (merge file.changes env) := by
  unfold merge Settles
  rw [file.changes_eq, env.settingsChanges_eq, file.source.gather_answers, env.source.gather_answers]
  cases hfile : file.source.firstFault? with
  | some fault => exact ⟨rfl, Source.names_of_firstFault? hfile⟩
  | none =>
    cases henv : env.source.firstFault? with
    | some fault => exact ⟨rfl, Source.names_of_firstFault? henv⟩
    | none =>
      refine ⟨_, rfl, fun key => ?_⟩
      rw [Source.value_changeAll, Source.value_changeAll]
      cases env.source.given? key <;> rfl

theorem settingsChanges_of_unreadable {entry : FileEntry} {reason : ReadFailure}
    (h : entry.read = .error reason) (path : String) :
    entry.settingsChanges path = .error (.unreadable path reason) := by
  unfold FileEntry.settingsChanges
  rw [h]
  rfl

theorem settingsChanges_of_read {entry : FileEntry} {text : String} (h : entry.read = .ok text)
    (path : String) :
    entry.settingsChanges path =
      match (Toml.parse? text).bind FileSettings.ofDocument? with
      | none => .error (.unparsable path)
      | some file => file.changes := by
  unfold FileEntry.settingsChanges
  rw [h]
  rfl

/-- A file that gives nothing changes nothing. -/
theorem changes_empty : FileSettings.changes {} = .ok [] :=
  rfl

end Settings

end SessionLayer
