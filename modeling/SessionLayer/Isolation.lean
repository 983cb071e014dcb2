import SessionLayer.Fault

/-!
# Isolation levels

A connection works at one of three isolation levels. Below the two transactional ones every statement
runs inside of a transaction block, which a statement of the level opens; at `autocommit` each
statement commits on its own.
-/

set_option autoImplicit false

namespace SessionLayer

/-- How statements are isolated from those of other sessions. -/
inductive Isolation where
  /-- Every statement commits on its own. -/
  | autocommit
  | readCommitted
  | serializable
  deriving DecidableEq, Repr

namespace Isolation

/-- The number by which callers name a level. -/
def level : Isolation → Nat
  | autocommit => 0
  | readCommitted => 1
  | serializable => 2

/-- The level that a number names. -/
def ofLevel (n : Int) : Except Fault Isolation :=
  if n = 0 then .ok autocommit
  else if n = 1 then .ok readCommitted
  else if n = 2 then .ok serializable
  else .error .levelOutOfBounds

/-- The name of a level in diagnostics. -/
def name : Isolation → String
  | autocommit => "Autocommit"
  | readCommitted => "ReadCommitted"
  | serializable => "Serializable"

/-- The statement that opens a transaction block at a level, `none` where none is needed. -/
def beginStatement : Isolation → Option String
  | autocommit => none
  | readCommitted => some "BEGIN; SET TRANSACTION ISOLATION LEVEL READ COMMITTED"
  | serializable => some "BEGIN; SET TRANSACTION ISOLATION LEVEL SERIALIZABLE"

/-- Levels are ordered by how strongly they isolate. -/
instance : Ord Isolation where
  compare a b := compare a.level b.level

theorem ofLevel_level (l : Isolation) : ofLevel l.level = .ok l := by
  cases l <;> rfl

/-- A number names the level that has it. -/
theorem ofLevel_eq_ok_iff {n : Int} {l : Isolation} : ofLevel n = .ok l ↔ n = l.level := by
  constructor
  · intro h
    unfold ofLevel at h
    split at h
    · cases h
      assumption
    · split at h
      · cases h
        assumption
      · split at h
        · cases h
          assumption
        · exact nomatch h
  · rintro rfl
    exact l.ofLevel_level

/-- The other numbers name no level. -/
theorem ofLevel_eq_error_iff {n : Int} {fault : Fault} :
    ofLevel n = .error fault ↔ (n < 0 ∨ 2 < n) ∧ fault = .levelOutOfBounds := by
  unfold ofLevel
  split
  · exact ⟨nofun, fun h => by omega⟩
  · split
    · exact ⟨nofun, fun h => by omega⟩
    · split
      · exact ⟨nofun, fun h => by omega⟩
      · constructor
        · rintro ⟨⟩
          exact ⟨by omega, rfl⟩
        · rintro ⟨-, rfl⟩
          rfl

end Isolation

end SessionLayer
