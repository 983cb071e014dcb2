import SessionLayer.Proofs.Scenario.Alike

/-!
# Changes that no message has to do with

A world may go `Idle` to another one: messages are only taken out of mailboxes, observers are only added,
and nothing is said to a session, put into a mailbox or told to an observer. Such a change is `Minor` if
it is calm besides, which is all that happens in a scenario between operations.
-/

set_option autoImplicit false

namespace SessionLayer

/-- Messages were taken out of the mailbox, and listeners with keys between the two numbers joined its
observers. -/
structure Mailbox.Lightens (first last : Nat) (m m' : Mailbox Nat) : Prop where
  notices : m'.notices.items.Sublist m.notices.items
  notifications : m'.notifications.items.Sublist m.notifications.items
  observers : ∃ joined : List Nat, m'.observers = m.observers ++ joined ∧ joined.Nodup ∧
    ∀ listener ∈ joined, first ≤ listener ∧ listener < last

namespace Mailbox.Lightens

variable {m m₁ m₂ : Mailbox Nat} {first middle last : Nat}

theorem refl (first last : Nat) (m : Mailbox Nat) : m.Lightens first last m where
  notices := List.Sublist.refl _
  notifications := List.Sublist.refl _
  observers := ⟨[], by simp⟩

theorem trans (h : m.Lightens first middle m₁) (h' : m₁.Lightens middle last m₂)
    (hfirst : first ≤ middle) (hlast : middle ≤ last) : m.Lightens first last m₂ where
  notices := h'.notices.trans h.notices
  notifications := h'.notifications.trans h.notifications
  observers := by
    obtain ⟨joined, hjoined, hnodup, hrange⟩ := h.observers
    obtain ⟨joined', hjoined', hnodup', hrange'⟩ := h'.observers
    refine ⟨joined ++ joined', ?_, ?_, ?_⟩
    · rw [hjoined', hjoined, List.append_assoc]
    · refine List.nodup_append.2 ⟨hnodup, hnodup', ?_⟩
      intro a ha b hb
      have hlt := (hrange a ha).2
      have hle := (hrange' b hb).1
      omega
    · intro listener hmem
      rcases List.mem_append.1 hmem with hmem | hmem
      · have hlistener := hrange listener hmem
        omega
      · have hlistener := hrange' listener hmem
        omega

theorem clear (first last : Nat) (m : Mailbox Nat) : m.Lightens first last m.clear where
  notices := List.nil_sublist _
  notifications := List.nil_sublist _
  observers := ⟨[], by simp [Mailbox.clear]⟩

theorem drainNotifications (first last : Nat) (m : Mailbox Nat) :
    m.Lightens first last m.drainNotifications.2 where
  notices := List.Sublist.refl _
  notifications := List.nil_sublist _
  observers := ⟨[], by simp [Mailbox.drainNotifications]⟩

/-- A listener that has just been made may join. -/
theorem addObserver (m : Mailbox Nat) (key : Nat) :
    m.Lightens key (key + 1) (m.addObserver key) where
  notices := List.Sublist.refl _
  notifications := List.Sublist.refl _
  observers := ⟨[key], rfl, by simp, by simp⟩

end Mailbox.Lightens

namespace Scenario

/-- Whether an event tells nothing of a session, of a mailbox, or of a notice. -/
def Event.isIdle : Event → Bool
  | .connected .. | .exchanged .. | .absorbed .. | .signalled _ _ (.notice _) => false
  | _ => true

theorem Event.isQuiet_of_isIdle {event : Event} (h : event.isIdle) : event.isQuiet := by
  cases event with
  | connected | exchanged => simp [isIdle] at h
  | _ => rfl

namespace World

variable {κ σ : Type} {w w₁ w₂ : World κ σ}

/-- Nothing happens to messages, except that they are taken out of mailboxes. -/
structure Idle (w w' : World κ σ) : Prop where
  connector : w'.connector = w.connector
  length_connections : w'.connections.length = w.connections.length
  length_listeners : w.listeners.length ≤ w'.listeners.length
  connection : ∀ (key : Nat) (c : Connection σ), w.connections[key]? = some c → ∃ mailbox,
    w'.connections[key]? = some { c with mailbox } ∧
      c.mailbox.Lightens w.listeners.length w'.listeners.length mailbox
  trace : ∃ events, w'.trace = w.trace ++ events ∧ ∀ event ∈ events, event.isIdle

namespace Idle

theorem alike (h : w.Idle w₁) : w.Alike w₁ where
  connector := h.connector
  length_connections := h.length_connections
  connection := by
    intro key c hc
    obtain ⟨mailbox, hc', -⟩ := h.connection key c hc
    exact ⟨mailbox, hc'⟩
  trace := by
    obtain ⟨events, htrace, hidle⟩ := h.trace
    exact ⟨events, htrace, fun event hmem => Event.isQuiet_of_isIdle (hidle event hmem)⟩

/-- Every connection has been there before. -/
theorem connection_before (h : w.Idle w₁) {key : Nat} {c' : Connection σ}
    (hc' : w₁.connections[key]? = some c') :
    ∃ c, w.connections[key]? = some c ∧ c'.guarded = c.guarded ∧
      c.mailbox.Lightens w.listeners.length w₁.listeners.length c'.mailbox := by
  have hlt := (List.getElem?_eq_some_iff.1 hc').1
  rw [h.length_connections] at hlt
  have hc := List.getElem?_eq_getElem hlt
  obtain ⟨mailbox, hafter, hlightens⟩ := h.connection key _ hc
  cases hafter.symm.trans hc'
  exact ⟨_, hc, rfl, hlightens⟩

/-- Connections and the trace are left alone. -/
theorem of_eq (hconnector : w₁.connector = w.connector) (hconnections : w₁.connections = w.connections)
    (hlisteners : w.listeners.length ≤ w₁.listeners.length) (htrace : w₁.trace = w.trace) :
    w.Idle w₁ where
  connector := hconnector
  length_connections := by rw [hconnections]
  length_listeners := hlisteners
  connection := fun key c hc => ⟨c.mailbox, by rw [hconnections, hc], .refl _ _ _⟩
  trace := ⟨[], by rw [htrace, List.append_nil], by simp⟩

theorem refl (w : World κ σ) : w.Idle w :=
  of_eq rfl rfl (Nat.le_refl _) rfl

theorem trans (h : w.Idle w₁) (h' : w₁.Idle w₂) : w.Idle w₂ where
  connector := h'.connector.trans h.connector
  length_connections := h'.length_connections.trans h.length_connections
  length_listeners := Nat.le_trans h.length_listeners h'.length_listeners
  connection := by
    intro key c hc
    obtain ⟨mailbox, hc₁, hlightens⟩ := h.connection key c hc
    obtain ⟨mailbox', hc₂, hlightens'⟩ := h'.connection key _ hc₁
    exact ⟨mailbox', hc₂, hlightens.trans hlightens' h.length_listeners h'.length_listeners⟩
  trace := by
    obtain ⟨events, htrace, hidle⟩ := h.trace
    obtain ⟨events', htrace', hidle'⟩ := h'.trace
    refine ⟨events ++ events', by rw [htrace', htrace, List.append_assoc], fun event hmem => ?_⟩
    exact (List.mem_append.1 hmem).elim (hidle event) (hidle' event)

theorem record (w : World κ σ) {event : Event} (h : event.isIdle) : w.Idle (w.record event) where
  connector := rfl
  length_connections := rfl
  length_listeners := Nat.le_refl _
  connection := fun key c hc => ⟨c.mailbox, hc, .refl _ _ _⟩
  trace := ⟨[event], rfl, by simpa using h⟩

/-- The mailbox of one connection may become lighter. -/
theorem of_modifyConnection (key : Nat) {f : Connection σ → Connection σ}
    (hf : ∀ c, ∃ mailbox, f c = { c with mailbox } ∧
      c.mailbox.Lightens w.listeners.length w₁.listeners.length mailbox)
    (hconnector : w₁.connector = w.connector)
    (hconnections : w₁.connections = w.connections.modify key f)
    (hlisteners : w.listeners.length ≤ w₁.listeners.length) (htrace : w₁.trace = w.trace) :
    w.Idle w₁ where
  connector := hconnector
  length_connections := by rw [hconnections, List.length_modify]
  length_listeners := hlisteners
  connection := by
    intro k c hc
    obtain ⟨mailbox, hmailbox, hlightens⟩ := hf c
    by_cases hk : key = k
    · refine ⟨mailbox, ?_, hlightens⟩
      simp [hconnections, hk, hc, hmailbox]
    · refine ⟨c.mailbox, ?_, .refl _ _ _⟩
      simp [hconnections, hk, hc]
  trace := ⟨[], by simp [htrace]⟩

theorem clearMailbox (w : World κ σ) (key : Nat) : w.Idle (w.clearMailbox key) :=
  of_modifyConnection key (fun _ => ⟨_, rfl, .clear _ _ _⟩) rfl rfl (Nat.le_refl _) rfl

/-- The notifications may be taken out of a mailbox. -/
theorem drainNotifications {key : Nat} {c : Connection σ} (hc : w.connections[key]? = some c) :
    w.Idle (w.modifyConnection key ({ · with mailbox := c.mailbox.drainNotifications.2 })) where
  connector := rfl
  length_connections := List.length_modify ..
  length_listeners := Nat.le_refl _
  connection := by
    intro k d hd
    by_cases hk : key = k
    · subst hk
      cases hc.symm.trans hd
      refine ⟨_, ?_, .drainNotifications _ _ c.mailbox⟩
      simp [World.modifyConnection, hd]
    · refine ⟨d.mailbox, ?_, .refl _ _ _⟩
      simp [World.modifyConnection, hk, hd]
  trace := ⟨[], by simp [World.modifyConnection]⟩

/-- A new listener may be registered with a connection. -/
theorem observe (w : World κ σ) (key : Nat) (listener : Listener) :
    w.Idle ((w.modifyConnection key fun c =>
      { c with mailbox := c.mailbox.addObserver w.listeners.length }).addListener listener) := by
  refine of_modifyConnection key (fun _ => ⟨_, rfl, ?_⟩) rfl rfl ?_ rfl
  · simp only [addListener, World.modifyConnection, List.length_append, List.length_singleton]
    exact .addObserver _ _
  · simp [addListener, World.modifyConnection]

end Idle

/-- Something happens that no message and no outcome has to do with. -/
structure Minor (w w' : World κ σ) : Prop where
  idle : w.Idle w'
  calm : w.Calm w'

namespace Minor

theorem still (h : w.Minor w₁) : w.Still w₁ :=
  ⟨h.idle.alike, h.calm⟩

/-- Something may be let go, or a connection or a large object be held. -/
theorem of_held (hconnector : w₁.connector = w.connector) (hconnections : w₁.connections = w.connections)
    (hcursors : w₁.cursors = w.cursors) (hlisteners : w₁.listeners = w.listeners)
    (hcursor : ∀ key, w₁.cursorHeld key → w.cursorHeld key)
    (hlistener : ∀ key, w₁.listenerHeld key → w.listenerHeld key ∨ key < w.listeners.length)
    (htrace : w₁.trace = w.trace) : w.Minor w₁ :=
  ⟨.of_eq hconnector hconnections (Nat.le_of_eq (by rw [hlisteners])) htrace,
    .of_held hcursors hlisteners hcursor hlistener htrace⟩

/-- What a step answered may be recorded. -/
theorem stepped (w : World κ σ) (id : String) (index : Nat) (reply : Reply) :
    w.Minor (w.record (.stepped id index reply)) :=
  ⟨.record w rfl, .record w rfl⟩

end Minor

end World

end Scenario

end SessionLayer
