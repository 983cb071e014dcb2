/-!
# Named slots

A table from names to what the slots of these names hold, in ascending order of the names.
-/

set_option autoImplicit false

namespace SessionLayer.Scenario

/-- Names and contents of slots, in ascending order of the names. -/
structure Slots (α : Type) where
  entries : List (String × α) := []

namespace Slots

variable {α : Type}

/-- What the slot of a name holds. -/
def get? (s : Slots α) (name : String) : Option α :=
  s.entries.lookup name

/-- Inserts an entry in its place, where it takes the place of one with the same name. -/
def insertEntry (name : String) (x : α) : List (String × α) → List (String × α)
  | [] => [(name, x)]
  | (other, y) :: rest =>
    if name = other then (name, x) :: rest
    else if name < other then (name, x) :: (other, y) :: rest
    else (other, y) :: insertEntry name x rest

/-- Fills a slot. -/
def put (s : Slots α) (name : String) (x : α) : Slots α :=
  { entries := insertEntry name x s.entries }

/-- Empties a slot. -/
def erase (s : Slots α) (name : String) : Slots α :=
  { entries := s.entries.filter (·.1 ≠ name) }

/-- The names of the slots that are filled, in ascending order. -/
def names (s : Slots α) : List String :=
  s.entries.map (·.1)

/-- What the slots hold, in the order of their names. -/
def contents (s : Slots α) : List α :=
  s.entries.map (·.2)

theorem lookup_insertEntry_self (name : String) (x : α) (entries : List (String × α)) :
    (insertEntry name x entries).lookup name = some x := by
  induction entries with
  | nil => simp [insertEntry]
  | cons entry rest ih =>
    obtain ⟨other, y⟩ := entry
    by_cases h : name = other
    · simp [insertEntry, h]
    · by_cases hl : name < other
      · simp [insertEntry, h, hl]
      · have hb : (name == other) = false := by simpa using h
        simp [insertEntry, h, hl, List.lookup_cons, hb, ih]

theorem lookup_insertEntry_of_ne {name other : String} (h : other ≠ name) (x : α)
    (entries : List (String × α)) :
    (insertEntry name x entries).lookup other = entries.lookup other := by
  have hb : (other == name) = false := by simpa using h
  induction entries with
  | nil => simp [insertEntry, List.lookup_cons, hb]
  | cons entry rest ih =>
    obtain ⟨key, y⟩ := entry
    by_cases hk : name = key
    · subst hk
      simp [insertEntry, List.lookup_cons, hb]
    · by_cases hl : name < key
      · simp [insertEntry, hk, hl, List.lookup_cons, hb]
      · simp [insertEntry, hk, hl, List.lookup_cons, ih]

theorem lookup_filter_ne_self (name : String) (entries : List (String × α)) :
    (entries.filter (·.1 ≠ name)).lookup name = none := by
  induction entries with
  | nil => rfl
  | cons entry rest ih =>
    obtain ⟨key, y⟩ := entry
    by_cases h : key = name
    · simpa [h] using ih
    · have hb : (name == key) = false := by simpa using fun e => h e.symm
      simpa [h, List.lookup_cons, hb] using ih

theorem lookup_filter_ne_of_ne {name other : String} (h : other ≠ name)
    (entries : List (String × α)) :
    (entries.filter (·.1 ≠ name)).lookup other = entries.lookup other := by
  induction entries with
  | nil => rfl
  | cons entry rest ih =>
    obtain ⟨key, y⟩ := entry
    by_cases hk : key = name
    · subst hk
      have hb : (other == key) = false := by simpa using h
      simpa [List.lookup_cons, hb] using ih
    · simp only [ne_eq, hk, not_false_eq_true, decide_true, List.filter_cons_of_pos,
        List.lookup_cons]
      simp only [ne_eq] at ih
      rw [ih]

theorem get?_put_self (s : Slots α) (name : String) (x : α) : (s.put name x).get? name = some x :=
  lookup_insertEntry_self name x s.entries

theorem get?_put_of_ne (s : Slots α) {name other : String} (h : other ≠ name) (x : α) :
    (s.put name x).get? other = s.get? other :=
  lookup_insertEntry_of_ne h x s.entries

theorem get?_erase_self (s : Slots α) (name : String) : (s.erase name).get? name = none :=
  lookup_filter_ne_self name s.entries

theorem get?_erase_of_ne (s : Slots α) {name other : String} (h : other ≠ name) :
    (s.erase name).get? other = s.get? other :=
  lookup_filter_ne_of_ne h s.entries

theorem mem_contents_of_get? {s : Slots α} {name : String} {x : α} (h : s.get? name = some x) :
    x ∈ s.contents := by
  obtain ⟨before, rest, hentries, -⟩ := List.lookup_eq_some_iff.1 h
  rw [contents, hentries, List.map_append]
  exact List.mem_append_right _ List.mem_cons_self

theorem mem_contents_of_put {s : Slots α} {name : String} {x y : α}
    (h : y ∈ (s.put name x).contents) : y = x ∨ y ∈ s.contents := by
  have inserted : ∀ entries : List (String × α), y ∈ (insertEntry name x entries).map (·.2) →
      y = x ∨ y ∈ entries.map (·.2) := by
    intro entries
    induction entries with
    | nil => simp [insertEntry]
    | cons entry rest ih =>
      obtain ⟨other, z⟩ := entry
      by_cases hname : name = other
      · simp only [insertEntry, hname, if_true, List.map_cons, List.mem_cons]
        exact fun hy => hy.imp_right Or.inr
      · by_cases hlt : name < other
        · simp only [insertEntry, hname, hlt, if_true, if_false, List.map_cons, List.mem_cons]
          exact id
        · simp only [insertEntry, hname, hlt, if_false, List.map_cons, List.mem_cons]
          rintro (rfl | hy)
          · exact Or.inr (Or.inl rfl)
          · exact (ih hy).imp_right Or.inr
  exact inserted s.entries h

theorem mem_contents_of_erase {s : Slots α} {name : String} {x : α}
    (h : x ∈ (s.erase name).contents) : x ∈ s.contents := by
  obtain ⟨entry, hentry, rfl⟩ := List.mem_map.1 h
  exact List.mem_map_of_mem (List.mem_filter.1 hentry).1

end Slots

end SessionLayer.Scenario
