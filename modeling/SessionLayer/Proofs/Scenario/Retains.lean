import SessionLayer.Proofs.Scenario.Idle

/-!
# What stays held

A world `Retains` what another one holds if its running steps are the same and no connection was let go,
except for one at most. To empty a slot or to put something else into it lets go of what was in it and of
nothing else, as long as the names of the slots are in order.
-/

set_option autoImplicit false

namespace SessionLayer.Scenario

namespace Slots

variable {α : Type} {s : Slots α} {name : String} {x y : α}

/-- The names of the slots are in ascending order. -/
def Ordered (s : Slots α) : Prop :=
  s.entries.Pairwise fun a b => a.1 < b.1

theorem mem_insertEntry {entries : List (String × α)} {entry : String × α}
    (h : entry ∈ insertEntry name x entries) : entry = (name, x) ∨ entry ∈ entries := by
  induction entries with
  | nil => simpa [insertEntry] using h
  | cons head rest ih =>
    obtain ⟨other, z⟩ := head
    unfold insertEntry at h
    split at h
    · simp only [List.mem_cons] at h ⊢
      exact h.imp_right Or.inr
    · split at h
      · simpa only [List.mem_cons] using h
      · simp only [List.mem_cons] at h ⊢
        rcases h with h | h
        · exact Or.inr (Or.inl h)
        · exact (ih h).imp_right Or.inr

theorem pairwise_insertEntry {entries : List (String × α)} (name : String) (x : α)
    (h : entries.Pairwise fun a b => a.1 < b.1) :
    (insertEntry name x entries).Pairwise fun a b => a.1 < b.1 := by
  induction h with
  | nil => simp [insertEntry]
  | @cons head rest hhead hrest ih =>
    obtain ⟨other, z⟩ := head
    unfold insertEntry
    split
    · next hname =>
      subst hname
      exact .cons hhead hrest
    · split
      · next hlt =>
        refine .cons (fun entry hentry => ?_) (.cons hhead hrest)
        rcases List.mem_cons.1 hentry with rfl | hentry
        · exact hlt
        · exact String.lt_trans hlt (hhead entry hentry)
      · next hne hlt =>
        have hgt : other < name := Std.lt_of_le_of_ne (String.not_lt.1 hlt) fun h => hne h.symm
        refine .cons (fun entry hentry => ?_) ih
        rcases mem_insertEntry hentry with rfl | hentry
        · exact hgt
        · exact hhead entry hentry

theorem Ordered.put (h : s.Ordered) (name : String) (x : α) : (s.put name x).Ordered :=
  pairwise_insertEntry name x h

theorem Ordered.erase (h : s.Ordered) (name : String) : (s.erase name).Ordered :=
  h.filter _

theorem mem_map_insertEntry_or {entries : List (String × α)} (h : y ∈ entries.map (·.2))
    (name : String) (x : α) :
    y ∈ (insertEntry name x entries).map (·.2) ∨ entries.lookup name = some y := by
  induction entries with
  | nil => simp at h
  | cons head rest ih =>
    obtain ⟨other, z⟩ := head
    simp only [List.map_cons, List.mem_cons] at h
    unfold insertEntry
    split
    · next hname =>
      subst hname
      rcases h with rfl | h
      · simp
      · simp [h]
    · split
      · rcases h with rfl | h
        · simp
        · exact Or.inl (List.mem_cons_of_mem _ (List.mem_cons_of_mem _ h))
      · next hname _ =>
        have hne : (name == other) = false := by simpa using hname
        rcases h with rfl | h
        · simp
        · rw [List.lookup_cons, hne]
          exact (ih h).imp_left (List.mem_cons_of_mem _)

/-- What a slot is filled with takes the place of what the slot holds, and of nothing else. -/
theorem mem_contents_put_or (h : y ∈ s.contents) (name : String) (x : α) :
    y ∈ (s.put name x).contents ∨ s.get? name = some y :=
  mem_map_insertEntry_or h name x

theorem mem_contents_put_self (s : Slots α) (name : String) (x : α) :
    x ∈ (s.put name x).contents :=
  mem_contents_of_get? (get?_put_self s name x)

theorem lookup_of_mem {entries : List (String × α)} (hs : entries.Pairwise fun a b => a.1 < b.1)
    (h : (name, y) ∈ entries) : entries.lookup name = some y := by
  induction hs with
  | nil => simp at h
  | @cons head rest hhead hrest ih =>
    rcases List.mem_cons.1 h with rfl | hmem
    · simp
    · have hlt := hhead _ hmem
      have hne : (name == head.1) = false := by
        simp only [beq_eq_false_iff_ne, ne_eq]
        intro hname
        rw [hname] at hlt
        exact String.lt_irrefl _ hlt
      rw [List.lookup_cons, hne]
      exact ih hmem

/-- With the names in order, to empty a slot lets go of what the slot holds, and of nothing else. -/
theorem Ordered.mem_contents_erase_or (hs : s.Ordered) (h : y ∈ s.contents) (name : String) :
    y ∈ (s.erase name).contents ∨ s.get? name = some y := by
  obtain ⟨⟨other, z⟩, hentry, rfl⟩ := List.mem_map.1 h
  by_cases hname : other = name
  · subst hname
    exact Or.inr (lookup_of_mem hs hentry)
  · refine Or.inl (List.mem_map.2 ⟨(other, z), List.mem_filter.2 ⟨hentry, ?_⟩, rfl⟩)
    simpa using hname

end Slots

namespace World

variable {κ σ : Type} {w w₁ w₂ : World κ σ} {but : Option Nat}

theorem connectionHeld_iff {key : Nat} :
    w.connectionHeld key ↔ key ∈ w.connectionSlots.contents ∨ Holder.connection key ∈ w.running ∨
      (∃ (k : Nat) (c : Cursor), w.cursorHeld k ∧ w.cursors[k]? = some c ∧ c.connection = key) ∨
      ∃ object ∈ w.largeObjectSlots.contents, object.connection = key := by
  have hcursor : (List.range w.cursors.length).any (fun k => w.cursorConnection? k == some key) ↔
      ∃ (k : Nat) (c : Cursor), w.cursorHeld k ∧ w.cursors[k]? = some c ∧ c.connection = key := by
    simp only [List.any_eq_true, List.mem_range, beq_iff_eq, cursorConnection?]
    constructor
    · rintro ⟨k, hk, hheld⟩
      split at hheld
      · next hk =>
        rw [Option.map_eq_some_iff] at hheld
        obtain ⟨c, hc, hkey⟩ := hheld
        exact ⟨k, c, hk, hc, hkey⟩
      · exact nomatch hheld
    · rintro ⟨k, c, hheld, hc, hkey⟩
      refine ⟨k, (List.getElem?_eq_some_iff.1 hc).1, ?_⟩
      rw [if_pos hheld, hc, Option.map_some, hkey]
  simp only [connectionHeld, Bool.or_eq_true, hcursor, or_assoc]
  simp

/-- The names of all slots that hold connections are in order. -/
structure Ordered (w : World κ σ) : Prop where
  connections : w.connectionSlots.Ordered
  cursors : w.cursorSlots.Ordered
  largeObjects : w.largeObjectSlots.Ordered

/-- What is held stays held, except perhaps for one connection, and the running steps are the same. -/
structure Retains (but : Option Nat) (w w' : World κ σ) : Prop where
  running : w'.running = w.running
  cursor : ∀ (key : Nat) (c : Cursor), w.cursors[key]? = some c → ∃ c',
    w'.cursors[key]? = some c' ∧ c'.connection = c.connection
  ordered : w.Ordered → w'.Ordered
  held : w.Ordered → ∀ key, but ≠ some key → w.connectionHeld key → w'.connectionHeld key

namespace Retains

/-- Everything that holds connections is left alone. -/
theorem of_eq (hrunning : w₁.running = w.running) (hcursors : w₁.cursors = w.cursors)
    (hconnectionSlots : w₁.connectionSlots = w.connectionSlots)
    (hcursorSlots : w₁.cursorSlots = w.cursorSlots)
    (hlargeObjectSlots : w₁.largeObjectSlots = w.largeObjectSlots) : w.Retains but w₁ where
  running := hrunning
  cursor := fun key c hc => ⟨c, by rw [hcursors, hc], rfl⟩
  ordered := fun h => by
    refine ⟨?_, ?_, ?_⟩
    · rw [hconnectionSlots]
      exact h.connections
    · rw [hcursorSlots]
      exact h.cursors
    · rw [hlargeObjectSlots]
      exact h.largeObjects
  held := fun _ key _ hheld => by
    unfold connectionHeld cursorConnection? cursorHeld at hheld ⊢
    rwa [hrunning, hcursors, hconnectionSlots, hcursorSlots, hlargeObjectSlots]

theorem refl (w : World κ σ) : w.Retains but w :=
  .of_eq rfl rfl rfl rfl rfl

theorem trans (h : w.Retains but w₁) (h' : w₁.Retains but w₂) : w.Retains but w₂ where
  running := h'.running.trans h.running
  cursor := by
    intro key c hc
    obtain ⟨c₁, hc₁, hsame⟩ := h.cursor key c hc
    obtain ⟨c₂, hc₂, hsame'⟩ := h'.cursor key c₁ hc₁
    exact ⟨c₂, hc₂, hsame'.trans hsame⟩
  ordered := fun ho => h'.ordered (h.ordered ho)
  held := fun ho key hkey hheld => h'.held (h.ordered ho) key hkey (h.held ho key hkey hheld)

/-- Cursors stay what they were, and other cursors may be added; what leaves its slot holds only the
connection that may be let go. -/
theorem of_slots (hrunning : w₁.running = w.running)
    (hcursors : ∀ (key : Nat) (c : Cursor), w.cursors[key]? = some c → ∃ c',
      w₁.cursors[key]? = some c' ∧ c'.connection = c.connection)
    (hordered : w.Ordered → w₁.Ordered)
    (hconnection : w.Ordered → ∀ key ∈ w.connectionSlots.contents,
      key ∈ w₁.connectionSlots.contents ∨ but = some key)
    (hcursor : w.Ordered → ∀ key ∈ w.cursorSlots.contents,
      key ∈ w₁.cursorSlots.contents ∨ but = w.cursors[key]?.map (·.connection))
    (hobject : w.Ordered → ∀ object ∈ w.largeObjectSlots.contents,
      object ∈ w₁.largeObjectSlots.contents ∨ but = some object.connection) :
    w.Retains but w₁ where
  running := hrunning
  cursor := hcursors
  ordered := hordered
  held := by
    intro ho key hbut hheld
    rw [connectionHeld_iff] at hheld ⊢
    rw [hrunning]
    rcases hheld with hslot | hstep | ⟨k, c, hk, hc, hkey⟩ | ⟨object, hslot, hkey⟩
    · refine Or.inl ((hconnection ho key hslot).resolve_right hbut)
    · exact Or.inr (Or.inl hstep)
    · obtain ⟨c', hc', hsame⟩ := hcursors k c hc
      refine Or.inr (Or.inr (Or.inl ⟨k, c', ?_, hc', hsame.trans hkey⟩))
      rw [cursorHeld_iff, hrunning]
      rcases cursorHeld_iff.1 hk with hslot | hstep
      · refine Or.inl ((hcursor ho k hslot).resolve_right fun hgone => hbut ?_)
        rw [hgone, hc, Option.map_some, hkey]
      · exact Or.inr hstep
    · refine Or.inr (Or.inr (Or.inr ⟨object, ?_, hkey⟩))
      refine (hobject ho object hslot).resolve_right fun hgone => hbut ?_
      rw [hgone, hkey]

/-- The state of a cursor has nothing to do with what it holds. -/
theorem modifyCursor (w : World κ σ) (key : Nat) {f : Cursor → Cursor}
    (hf : ∀ c, (f c).connection = c.connection) : w.Retains but (w.modifyCursor key f) := by
  refine of_slots rfl ?_ (fun h => ⟨h.connections, h.cursors, h.largeObjects⟩)
    (fun _ _ => Or.inl) (fun _ _ => Or.inl) (fun _ _ => Or.inl)
  intro k c hc
  by_cases hk : key = k
  · exact ⟨f c, by simp [World.modifyCursor, hk, hc], hf c⟩
  · exact ⟨c, by simp [World.modifyCursor, hk, hc], rfl⟩

/-- A new cursor holds nothing yet. -/
theorem addCursor (w : World κ σ) (cursor : Cursor) :
    w.Retains but { w with cursors := w.cursors ++ [cursor] } := by
  refine of_slots rfl ?_ (fun h => ⟨h.connections, h.cursors, h.largeObjects⟩)
    (fun _ _ => Or.inl) (fun _ _ => Or.inl) (fun _ _ => Or.inl)
  intro k c hc
  refine ⟨c, ?_, rfl⟩
  rw [List.getElem?_append_left (List.getElem?_eq_some_iff.1 hc).1, hc]

/-! ## Slots -/

theorem putConnection (w : World κ σ) (slot : String) (key : Nat) :
    w.Retains (w.connectionSlots.get? slot)
      { w with connectionSlots := w.connectionSlots.put slot key } :=
  of_slots rfl (fun _ c hc => ⟨c, hc, rfl⟩)
    (fun h => ⟨h.connections.put slot key, h.cursors, h.largeObjects⟩)
    (fun _ _ hmem => Slots.mem_contents_put_or hmem slot key) (fun _ _ => Or.inl) (fun _ _ => Or.inl)

theorem eraseConnection (w : World κ σ) (slot : String) :
    w.Retains (w.connectionSlots.get? slot)
      { w with connectionSlots := w.connectionSlots.erase slot } :=
  of_slots rfl (fun _ c hc => ⟨c, hc, rfl⟩)
    (fun h => ⟨h.connections.erase slot, h.cursors, h.largeObjects⟩)
    (fun ho _ hmem => ho.connections.mem_contents_erase_or hmem slot) (fun _ _ => Or.inl)
    (fun _ _ => Or.inl)

theorem putCursor (w : World κ σ) (slot : String) (key : Nat) :
    w.Retains (((w.cursorSlots.get? slot).bind (w.cursors[·]?)).map (·.connection))
      { w with cursorSlots := w.cursorSlots.put slot key } := by
  refine of_slots rfl (fun _ c hc => ⟨c, hc, rfl⟩)
    (fun h => ⟨h.connections, h.cursors.put slot key, h.largeObjects⟩)
    (fun _ _ => Or.inl) (fun _ k hmem => ?_) (fun _ _ => Or.inl)
  refine (Slots.mem_contents_put_or hmem slot key).imp_right fun hget => ?_
  rw [hget, Option.bind_some]

theorem eraseCursor (w : World κ σ) (slot : String) :
    w.Retains (((w.cursorSlots.get? slot).bind (w.cursors[·]?)).map (·.connection))
      { w with cursorSlots := w.cursorSlots.erase slot } := by
  refine of_slots rfl (fun _ c hc => ⟨c, hc, rfl⟩)
    (fun h => ⟨h.connections, h.cursors.erase slot, h.largeObjects⟩)
    (fun _ _ => Or.inl) (fun ho k hmem => ?_) (fun _ _ => Or.inl)
  refine (ho.cursors.mem_contents_erase_or hmem slot).imp_right fun hget => ?_
  rw [hget, Option.bind_some]

theorem putLargeObject (w : World κ σ) (slot : String) (object : LargeObject) :
    w.Retains ((w.largeObjectSlots.get? slot).map (·.connection))
      { w with largeObjectSlots := w.largeObjectSlots.put slot object } := by
  refine of_slots rfl (fun _ c hc => ⟨c, hc, rfl⟩)
    (fun h => ⟨h.connections, h.cursors, h.largeObjects.put slot object⟩)
    (fun _ _ => Or.inl) (fun _ _ => Or.inl) (fun _ o hmem => ?_)
  refine (Slots.mem_contents_put_or hmem slot object).imp_right fun hget => ?_
  rw [hget, Option.map_some]

theorem eraseLargeObject (w : World κ σ) (slot : String) :
    w.Retains ((w.largeObjectSlots.get? slot).map (·.connection))
      { w with largeObjectSlots := w.largeObjectSlots.erase slot } := by
  refine of_slots rfl (fun _ c hc => ⟨c, hc, rfl⟩)
    (fun h => ⟨h.connections, h.cursors, h.largeObjects.erase slot⟩)
    (fun _ _ => Or.inl) (fun _ _ => Or.inl) (fun ho o hmem => ?_)
  refine (ho.largeObjects.mem_contents_erase_or hmem slot).imp_right fun hget => ?_
  rw [hget, Option.map_some]

end Retains

/-! ## Holding -/

/-- A step begins to hold something. -/
def hold (holder : Holder) (w : World κ σ) : World κ σ :=
  { w with running := holder :: w.running }

/-- The innermost step ends, and what it held is let go. -/
def unhold (w : World κ σ) : World κ σ :=
  { w with running := w.running.tail }

/-- What a step may hold: a connection, a cursor that is held already, or a listener that exists. -/
def Holdable (w : World κ σ) : Holder → Prop
  | .connection _ => True
  | .cursor key => w.cursorHeld key
  | .listener key => key < w.listeners.length

/-- What the holder holds is a connection at most, and no other one than that of the key. -/
def Binds (w : World κ σ) (key : Option Nat) : Holder → Prop
  | .connection held => key = some held
  | .cursor cursor => ∃ c, w.cursors[cursor]? = some c ∧ key = some c.connection
  | .listener _ => True

theorem Holdable.of_cursorSlots {w : World κ σ} {slot : String} {key : Nat}
    (h : w.cursorSlots.get? slot = some key) : w.Holdable (.cursor key) :=
  cursorHeld_iff.2 (Or.inl (Slots.mem_contents_of_get? h))

theorem Minor.hold {w : World κ σ} (holder : Holder) (h : w.Holdable holder) :
    w.Minor (w.hold holder) := by
  refine .of_held rfl rfl rfl rfl (fun key hheld => ?_) (fun key hheld => ?_) rfl
  · rcases cursorHeld_iff.1 hheld with hslot | hrunning
    · exact cursorHeld_iff.2 (Or.inl hslot)
    · rcases List.mem_cons.1 hrunning with rfl | hrunning
      · exact h
      · exact cursorHeld_iff.2 (Or.inr hrunning)
  · rcases listenerHeld_iff.1 hheld with hslot | hrunning
    · exact Or.inl (listenerHeld_iff.2 (Or.inl hslot))
    · rcases List.mem_cons.1 hrunning with rfl | hrunning
      · exact Or.inr h
      · exact Or.inl (listenerHeld_iff.2 (Or.inr hrunning))

theorem Minor.unhold (w : World κ σ) : w.Minor w.unhold := by
  refine .of_held rfl rfl rfl rfl (fun key hheld => ?_) (fun key hheld => Or.inl ?_) rfl
  · exact cursorHeld_iff.2 ((cursorHeld_iff.1 hheld).imp_right List.mem_of_mem_tail)
  · exact listenerHeld_iff.2 ((listenerHeld_iff.1 hheld).imp_right List.mem_of_mem_tail)

/-! ## What happens between operations -/

/-- Something minor happens, and no connection is let go, except perhaps for one. -/
structure Yields (but : Option Nat) (w w' : World κ σ) : Prop where
  minor : w.Minor w'
  retains : w.Retains but w'

/-- Slots other than those of cursors and owners may change. -/
theorem Minor.of_slots {w w' : World κ σ} (hconnector : w'.connector = w.connector)
    (hconnections : w'.connections = w.connections) (hcursors : w'.cursors = w.cursors)
    (hlisteners : w'.listeners = w.listeners) (hcursorSlots : w'.cursorSlots = w.cursorSlots)
    (hownerSlots : w'.ownerSlots = w.ownerSlots) (hrunning : w'.running = w.running)
    (htrace : w'.trace = w.trace) : w.Minor w' := by
  refine .of_held hconnector hconnections hcursors hlisteners (fun key hheld => ?_)
    (fun key hheld => Or.inl ?_) htrace
  · rwa [cursorHeld, hcursorSlots, hrunning] at hheld
  · rwa [listenerHeld, hownerSlots, hrunning] at hheld

theorem Yields.putConnection (w : World κ σ) (slot : String) (key : Nat) :
    w.Yields (w.connectionSlots.get? slot)
      { w with connectionSlots := w.connectionSlots.put slot key } :=
  ⟨.of_slots rfl rfl rfl rfl rfl rfl rfl rfl, .putConnection w slot key⟩

theorem Yields.eraseConnection (w : World κ σ) (slot : String) :
    w.Yields (w.connectionSlots.get? slot)
      { w with connectionSlots := w.connectionSlots.erase slot } :=
  ⟨.of_slots rfl rfl rfl rfl rfl rfl rfl rfl, .eraseConnection w slot⟩

theorem Yields.putLargeObject (w : World κ σ) (slot : String) (object : LargeObject) :
    w.Yields ((w.largeObjectSlots.get? slot).map (·.connection))
      { w with largeObjectSlots := w.largeObjectSlots.put slot object } :=
  ⟨.of_slots rfl rfl rfl rfl rfl rfl rfl rfl, .putLargeObject w slot object⟩

theorem Yields.eraseLargeObject (w : World κ σ) (slot : String) :
    w.Yields ((w.largeObjectSlots.get? slot).map (·.connection))
      { w with largeObjectSlots := w.largeObjectSlots.erase slot } :=
  ⟨.of_slots rfl rfl rfl rfl rfl rfl rfl rfl, .eraseLargeObject w slot⟩

theorem Yields.eraseCursor (w : World κ σ) (slot : String) :
    w.Yields (((w.cursorSlots.get? slot).bind (w.cursors[·]?)).map (·.connection))
      { w with cursorSlots := w.cursorSlots.erase slot } where
  minor := by
    refine .of_held rfl rfl rfl rfl (fun key hheld => ?_) (fun _ => Or.inl) rfl
    exact cursorHeld_iff.2 ((cursorHeld_iff.1 hheld).imp_left Slots.mem_contents_of_erase)
  retains := .eraseCursor w slot

/-- A new cursor may be put into a slot: it has run nothing. -/
theorem Yields.makeCursor (w : World κ σ) (cursor : Cursor) (hcursor : cursor.state = {})
    (slot : String) :
    w.Yields (((w.cursorSlots.get? slot).bind ((w.cursors ++ [cursor])[·]?)).map (·.connection))
      { w with
        cursors := w.cursors ++ [cursor]
        cursorSlots := w.cursorSlots.put slot w.cursors.length } where
  minor :=
    { idle := .of_eq rfl rfl (Nat.le_refl _) rfl
      calm :=
        { cursor := fun key c hc => by
            rw [List.getElem?_append_left (List.getElem?_eq_some_iff.1 hc).1]
            exact hc
          newCursor := fun key c hkey hc => by
            rw [List.getElem?_append_right hkey] at hc
            have hmem := List.mem_of_getElem? hc
            rw [List.mem_singleton.1 hmem]
            exact hcursor
          cursorHeld := fun key hkey hheld => by
            rcases cursorHeld_iff.1 hheld with hslot | hrunning
            · rcases Slots.mem_contents_of_put hslot with rfl | hslot
              · exact absurd hkey (Nat.lt_irrefl _)
              · exact cursorHeld_iff.2 (Or.inl hslot)
            · exact cursorHeld_iff.2 (Or.inr hrunning)
          length_listeners := Nat.le_refl _
          listenerHeld := fun _ => Or.inl
          deliveries := rfl } }
  retains := (Retains.addCursor w cursor).trans
    (.putCursor { w with cursors := w.cursors ++ [cursor] } slot w.cursors.length)

theorem Yields.dropOwner (w : World κ σ) (slot : String) :
    w.Yields none { w with ownerSlots := w.ownerSlots.erase slot } where
  minor := by
    refine .of_held rfl rfl rfl rfl (fun _ => id) (fun key hheld => Or.inl ?_) rfl
    exact listenerHeld_iff.2 ((listenerHeld_iff.1 hheld).imp_left Slots.mem_contents_of_erase)
  retains := .of_eq rfl rfl rfl rfl rfl

theorem Calm.addListener (w : World κ σ) (listener : Listener) : w.Calm (w.addListener listener) where
  cursor := fun _ _ => id
  newCursor := fun key c hkey hc => by
    rw [show (w.addListener listener).cursors = w.cursors from rfl,
      List.getElem?_eq_none hkey] at hc
    exact nomatch hc
  cursorHeld := fun _ _ => id
  length_listeners := by
    rw [World.addListener, List.length_append]
    exact Nat.le_add_right _ _
  listenerHeld := fun _ => Or.inl
  deliveries := rfl

theorem Calm.putOwner {w : World κ σ} {key : Nat} (hkey : key < w.listeners.length) (id : String) :
    w.Calm { w with ownerSlots := w.ownerSlots.put id key } := by
  refine .of_held rfl rfl (fun _ => fun h => h) (fun k hheld => ?_) rfl
  rcases listenerHeld_iff.1 hheld with hslot | hrunning
  · rcases Slots.mem_contents_of_put hslot with rfl | hslot
    · exact Or.inr hkey
    · exact Or.inl (listenerHeld_iff.2 (Or.inl hslot))
  · exact Or.inl (listenerHeld_iff.2 (Or.inr hrunning))

/-- A new owner is put into a slot. -/
theorem Yields.makeOwner (w : World κ σ) (listener : Listener) (id : String) :
    w.Yields none
      { w.addListener listener with ownerSlots := w.ownerSlots.put id w.listeners.length } where
  minor :=
    { idle := by
        refine .of_eq rfl rfl ?_ rfl
        simp [addListener]
      calm := by
        refine (Calm.addListener w listener).trans (.putOwner ?_ id)
        rw [addListener, List.length_append]
        exact Nat.lt_add_one _ }
  retains := .of_eq rfl rfl rfl rfl rfl

/-- A new observer is registered with a connection. -/
theorem Yields.observe (w : World κ σ) (key : Nat) (listener : Listener) :
    w.Yields none ((w.modifyConnection key fun c =>
      { c with mailbox := c.mailbox.addObserver w.listeners.length }).addListener listener) where
  minor :=
    { idle := .observe w key listener
      calm := by
        have hjoined : w.Calm (w.modifyConnection key fun c =>
            { c with mailbox := c.mailbox.addObserver w.listeners.length }) :=
          .of_held rfl rfl (fun _ => id) (fun _ => Or.inl) rfl
        exact hjoined.trans (.addListener _ listener) }
  retains := .of_eq rfl rfl rfl rfl rfl

/-- The notifications of a connection are taken. -/
theorem Yields.takeNotifications (w : World κ σ) (key : Nat) {c : Connection σ}
    (hc : w.connections[key]? = some c) :
    w.Yields none (w.modifyConnection key
      ({ · with mailbox := c.mailbox.drainNotifications.2 })) where
  minor :=
    { idle := .drainNotifications hc
      calm := .of_held rfl rfl (fun _ => id) (fun _ => Or.inl) rfl }
  retains := .of_eq rfl rfl rfl rfl rfl

theorem Yields.stepped (w : World κ σ) (id : String) (index : Nat) (reply : Reply) :
    w.Yields none (w.record (.stepped id index reply)) :=
  ⟨.stepped w id index reply, .of_eq rfl rfl rfl rfl rfl⟩

end World

end SessionLayer.Scenario
