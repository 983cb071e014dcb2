import SessionLayer.Proofs.Scenario.Course
import SessionLayer.Proofs.Scenario.Tidy

/-!
# What holders stand on

A world is `Grounded` if every connection that something holds exists. What the client does between
spans, when it fills slots and lets go, is `Furnishing`: it concerns neither the hook nor the past, and
the world stays grounded as long as only connections are handed out that exist. A world has `twin`s that
differ from it in nothing but the hook and the past.
-/

set_option autoImplicit false

namespace SessionLayer.Scenario.World

variable {κ σ : Type} {w w₁ w₂ : World κ σ} {key n : Nat}

/-- Every connection that a slot, a cursor, a large object or a running step holds exists. -/
structure Grounded (w : World κ σ) : Prop where
  slot : ∀ key ∈ w.connectionSlots.contents, key < w.connections.length
  cursor : ∀ cursor ∈ w.cursors, cursor.connection < w.connections.length
  largeObject : ∀ object ∈ w.largeObjectSlots.contents, object.connection < w.connections.length
  running : ∀ key, Holder.connection key ∈ w.running → key < w.connections.length

theorem grounded_start (connector : κ) (hook : Nat → Nat) :
    ({ connector, hook } : World κ σ).Grounded where
  slot := fun _ h => nomatch h
  cursor := fun _ h => nomatch h
  largeObject := fun _ h => nomatch h
  running := fun _ h => nomatch h

theorem Grounded.lt_of_held (h : w.Grounded) (hheld : w.connectionHeld key) :
    key < w.connections.length := by
  rcases connectionHeld_iff.1 hheld with hslot | hstep | ⟨k, c, -, hc, rfl⟩ | ⟨object, hobject, rfl⟩
  · exact h.slot key hslot
  · exact h.running key hstep
  · exact h.cursor c (List.mem_of_getElem? hc)
  · exact h.largeObject object hobject

/-- The same things are held, and no connection is gone. -/
structure HoldsOn (w w₁ : World κ σ) : Prop where
  connectionSlots : w₁.connectionSlots = w.connectionSlots
  cursors : w₁.cursors = w.cursors
  cursorSlots : w₁.cursorSlots = w.cursorSlots
  largeObjectSlots : w₁.largeObjectSlots = w.largeObjectSlots
  running : w₁.running = w.running
  length_connections : w.connections.length ≤ w₁.connections.length

namespace HoldsOn

theorem refl (w : World κ σ) : w.HoldsOn w :=
  ⟨rfl, rfl, rfl, rfl, rfl, Nat.le_refl _⟩

theorem trans (h : w.HoldsOn w₁) (h' : w₁.HoldsOn w₂) : w.HoldsOn w₂ :=
  ⟨h'.connectionSlots.trans h.connectionSlots, h'.cursors.trans h.cursors,
    h'.cursorSlots.trans h.cursorSlots, h'.largeObjectSlots.trans h.largeObjectSlots,
    h'.running.trans h.running, Nat.le_trans h.length_connections h'.length_connections⟩

theorem grounded (h : w.HoldsOn w₁) (hw : w.Grounded) : w₁.Grounded where
  slot := by
    rw [h.connectionSlots]
    exact fun key hkey => Nat.lt_of_lt_of_le (hw.slot key hkey) h.length_connections
  cursor := by
    rw [h.cursors]
    exact fun c hc => Nat.lt_of_lt_of_le (hw.cursor c hc) h.length_connections
  largeObject := by
    rw [h.largeObjectSlots]
    exact fun o ho => Nat.lt_of_lt_of_le (hw.largeObject o ho) h.length_connections
  running := by
    rw [h.running]
    exact fun key hkey => Nat.lt_of_lt_of_le (hw.running key hkey) h.length_connections

theorem connectionHeld_iff (h : w.HoldsOn w₁) : w₁.connectionHeld key ↔ w.connectionHeld key := by
  unfold connectionHeld cursorConnection? cursorHeld
  rw [h.connectionSlots, h.cursors, h.cursorSlots, h.largeObjectSlots, h.running]

theorem detached {α : Type} {hooked : Bool} {call : World κ σ → α × World κ σ}
    (hcall : ∀ w : World κ σ, w.HoldsOn (call w).2) (w : World κ σ) :
    w.HoldsOn (World.detached key hooked call w).2 :=
  detached_of_trans (R := HoldsOn) trans (fun _ => ⟨rfl, rfl, rfl, rfl, rfl, Nat.le_refl _⟩)
    (fun _ => ⟨rfl, rfl, rfl, rfl, rfl, Nat.le_refl _⟩) hcall w

theorem record (w : World κ σ) (event : Event) : w.HoldsOn (w.record event) :=
  ⟨rfl, rfl, rfl, rfl, rfl, Nat.le_refl _⟩

theorem modifyConnection (w : World κ σ) (key : Nat) (f : Connection σ → Connection σ) :
    w.HoldsOn (w.modifyConnection key f) :=
  ⟨rfl, rfl, rfl, rfl, rfl, Nat.le_of_eq (List.length_modify ..).symm⟩

theorem creating (w : World κ σ) (dsn : String) (asynchronous : Bool) (settings : Settings)
    (hooked : Bool) : w.HoldsOn (w.creating dsn asynchronous settings hooked) :=
  ⟨rfl, rfl, rfl, rfl, rfl, by simp [World.creating]⟩

theorem absorbing (w : World κ σ) (key : Nat) (batch : Batch) : w.HoldsOn (w.absorbing key batch) := by
  unfold World.absorbing
  split
  · exact .refl w
  · split
    · exact .refl w
    · exact (HoldsOn.modifyConnection w key _).trans (.record _ _)

variable [WireSession σ]

theorem runSpan {α : Type} (w : World κ σ) (key : Nat) (span : Connection σ → Span σ α) :
    w.HoldsOn (w.runSpan key span).2 := by
  have hlength := Nat.le_of_eq (w.length_connections_runSpan key span).symm
  cases hc : w.connections[key]? with
  | none =>
    rw [runSpan_of_none hc]
    exact .refl w
  | some c =>
    rw [runSpan_of_some hc] at hlength ⊢
    exact ⟨rfl, rfl, rfl, rfl, rfl, hlength⟩

theorem operating (w : World κ σ) (key : Nat) (hooked : Bool) (op : Operation) :
    w.HoldsOn (w.operating key hooked op) :=
  .detached (fun w => .runSpan w key _) w

theorem opening [Connector κ σ] (w : World κ σ) (dsn : String) (asynchronous : Bool)
    (settings : Settings) (hooked : Bool) :
    w.HoldsOn (w.opening dsn asynchronous settings hooked).2 := by
  refine (creating w dsn asynchronous settings hooked).trans (.detached (fun w => ?_) _)
  exact establish_of_trans (R := HoldsOn) trans
    (fun _ _ _ => ⟨rfl, rfl, rfl, rfl, rfl, Nat.le_refl _⟩) (fun w span => .runSpan w _ span) w

end HoldsOn

/-! ## Between spans -/

/-- What changes has to do neither with the hook, nor with the past, nor with any span. -/
structure Furnishes (w w₁ : World κ σ) : Prop where
  alike : w.Alike w₁
  trace : w₁.trace = w.trace
  hook : w₁.hook = w.hook
  hookCalls : w₁.hookCalls = w.hookCalls

theorem Furnishes.of_eq (hconnector : w₁.connector = w.connector)
    (hconnections : w₁.connections = w.connections) (htrace : w₁.trace = w.trace)
    (hhook : w₁.hook = w.hook) (hcalls : w₁.hookCalls = w.hookCalls) : w.Furnishes w₁ where
  alike := .of_eq hconnector hconnections htrace
  trace := htrace
  hook := hhook
  hookCalls := hcalls

/-- The same world with another hook and another past. -/
def twin (hook : Nat → Nat) (trace : List Event) (w : World κ σ) : World κ σ :=
  { w with hook, trace }

/-- A change that furnishes every world, and in the same way every twin of it; a grounded world with at
least the given number of connections stays grounded. -/
structure Furnishing (n : Nat) (f : World κ σ → World κ σ) : Prop where
  furnishes : ∀ w : World κ σ, w.Furnishes (f w)
  grounded : ∀ w : World κ σ, w.Grounded → n ≤ w.connections.length → (f w).Grounded
  twin : ∀ (w : World κ σ) hook trace, f (w.twin hook trace) = (f w).twin hook trace

namespace Furnishing

/-- A mailbox may change. -/
theorem modifyConnection (key : Nat) {f : Connection σ → Connection σ}
    (hf : ∀ c, ∃ mailbox, f c = { c with mailbox }) :
    Furnishing n (World.modifyConnection key f : World κ σ → World κ σ) where
  furnishes := fun w => ⟨.modifyConnection w key hf, rfl, rfl, rfl⟩
  grounded := fun w hw _ => (HoldsOn.modifyConnection w key f).grounded hw
  twin := fun _ _ _ => rfl

/-- A cursor may go on to another state. -/
theorem modifyCursor (key : Nat) {f : Cursor → Cursor} (hf : ∀ c, (f c).connection = c.connection) :
    Furnishing n (World.modifyCursor key f : World κ σ → World κ σ) where
  furnishes := fun _ => .of_eq rfl rfl rfl rfl rfl
  grounded := fun _ hw _ =>
    { hw with
      cursor := by
        intro c hc
        obtain ⟨k, hk⟩ := List.mem_iff_getElem?.1 hc
        rw [World.modifyCursor, List.getElem?_modify, Option.map_eq_map, Option.map_eq_some_iff] at hk
        obtain ⟨d, hd, rfl⟩ := hk
        have hlt := hw.cursor d (List.mem_of_getElem? hd)
        split
        · rwa [hf]
        · exact hlt }
  twin := fun _ _ _ => rfl

/-- What only listeners have to do with may change. -/
theorem of_listeners {f : World κ σ → World κ σ} (hfurnishes : ∀ w : World κ σ, w.Furnishes (f w))
    (hholds : ∀ w : World κ σ, w.HoldsOn (f w))
    (htwin : ∀ (w : World κ σ) hook trace, f (w.twin hook trace) = (f w).twin hook trace) :
    Furnishing n f where
  furnishes := hfurnishes
  grounded := fun w hw _ => (hholds w).grounded hw
  twin := htwin

theorem hold (holder : Holder) (hholder : ∀ key, holder = .connection key → key < n) :
    Furnishing n (World.hold holder : World κ σ → World κ σ) where
  furnishes := fun _ => .of_eq rfl rfl rfl rfl rfl
  grounded := fun _ hw hn =>
    { hw with
      running := by
        intro key hkey
        rcases List.mem_cons.1 hkey with hkey | hkey
        · exact Nat.lt_of_lt_of_le (hholder key hkey.symm) hn
        · exact hw.running key hkey }
  twin := fun _ _ _ => rfl

theorem unhold : Furnishing n (World.unhold : World κ σ → World κ σ) where
  furnishes := fun _ => .of_eq rfl rfl rfl rfl rfl
  grounded := fun _ hw _ =>
    { hw with running := fun key hkey => hw.running key (List.mem_of_mem_tail hkey) }
  twin := fun _ _ _ => rfl

theorem putConnection (slot : String) (hkey : key < n) :
    Furnishing n fun w : World κ σ => { w with connectionSlots := w.connectionSlots.put slot key } where
  furnishes := fun _ => .of_eq rfl rfl rfl rfl rfl
  grounded := fun _ hw hn =>
    { hw with
      slot := by
        intro k hk
        rcases Slots.mem_contents_of_put hk with rfl | hk
        · exact Nat.lt_of_lt_of_le hkey hn
        · exact hw.slot k hk }
  twin := fun _ _ _ => rfl

theorem eraseConnection (slot : String) :
    Furnishing n fun w : World κ σ => { w with connectionSlots := w.connectionSlots.erase slot } where
  furnishes := fun _ => .of_eq rfl rfl rfl rfl rfl
  grounded := fun _ hw _ =>
    { hw with slot := fun key hkey => hw.slot key (Slots.mem_contents_of_erase hkey) }
  twin := fun _ _ _ => rfl

/-- Whether a cursor is in a slot does not matter: it holds its connection by being there at all. -/
theorem setCursorSlots (f : Slots Nat → Slots Nat) :
    Furnishing n fun w : World κ σ => { w with cursorSlots := f w.cursorSlots } where
  furnishes := fun _ => .of_eq rfl rfl rfl rfl rfl
  grounded := fun _ hw _ => { hw with }
  twin := fun _ _ _ => rfl

theorem addCursor (cursor : Cursor) (hcursor : cursor.connection < n) :
    Furnishing n fun w : World κ σ => { w with cursors := w.cursors ++ [cursor] } where
  furnishes := fun _ => .of_eq rfl rfl rfl rfl rfl
  grounded := fun _ hw hn =>
    { hw with
      cursor := by
        intro c hc
        rcases List.mem_append.1 hc with hc | hc
        · exact hw.cursor c hc
        · rw [List.mem_singleton.1 hc]
          exact Nat.lt_of_lt_of_le hcursor hn }
  twin := fun _ _ _ => rfl

theorem putLargeObject (slot : String) (object : LargeObject) (hobject : object.connection < n) :
    Furnishing n fun w : World κ σ =>
      { w with largeObjectSlots := w.largeObjectSlots.put slot object } where
  furnishes := fun _ => .of_eq rfl rfl rfl rfl rfl
  grounded := fun _ hw hn =>
    { hw with
      largeObject := by
        intro o ho
        rcases Slots.mem_contents_of_put ho with rfl | ho
        · exact Nat.lt_of_lt_of_le hobject hn
        · exact hw.largeObject o ho }
  twin := fun _ _ _ => rfl

theorem eraseLargeObject (slot : String) :
    Furnishing n fun w : World κ σ =>
      { w with largeObjectSlots := w.largeObjectSlots.erase slot } where
  furnishes := fun _ => .of_eq rfl rfl rfl rfl rfl
  grounded := fun _ hw _ =>
    { hw with largeObject := fun o ho => hw.largeObject o (Slots.mem_contents_of_erase ho) }
  twin := fun _ _ _ => rfl

end Furnishing

end SessionLayer.Scenario.World
