import SessionLayer.Scenario.Run

/-!
# Changes that no span has to do with

Worlds are `Alike` if they differ in nothing that a span depends on or changes. They are `Calm` if
they differ in nothing that outcomes are kept in: cursors are what they were, nothing is held that was
not held before or has just been made, and no outcome was handed over. Everything that happens in a
scenario between spans and deliveries is both, which is `Still`.
-/

set_option autoImplicit false

namespace SessionLayer.Scenario

/-- Whether an event tells nothing about a session. -/
def Event.isQuiet : Event → Bool
  | .connected .. | .exchanged .. => false
  | _ => true

/-- The outcome that an event tells of, and who was told; `departed` stands for nobody. -/
def Event.delivery? : Event → Option Completion
  | .signalled listener _ (.complete outcome) => some { owner := .listener listener, outcome }
  | .cursorCompleted cursor outcome => some { owner := .cursor cursor, outcome }
  | .discarded outcome => some { owner := .departed, outcome }
  | _ => none

namespace World

variable {κ σ : Type}

/-- The second world differs from the first one in nothing that a span depends on or changes: in
mailboxes, in cursors and listeners, in what is held, and in quiet events. -/
structure Alike (w w' : World κ σ) : Prop where
  connector : w'.connector = w.connector
  length_connections : w'.connections.length = w.connections.length
  connection : ∀ (key : Nat) (c : Connection σ), w.connections[key]? = some c → ∃ mailbox,
    w'.connections[key]? = some { c with mailbox }
  trace : ∃ events, w'.trace = w.trace ++ events ∧ ∀ event ∈ events, event.isQuiet

namespace Alike

variable {w w₁ w₂ : World κ σ}

/-- Worlds are alike if only the parts differ that no span knows. -/
theorem of_eq (hconnector : w₁.connector = w.connector) (hconnections : w₁.connections = w.connections)
    (htrace : w₁.trace = w.trace) : w.Alike w₁ where
  connector := hconnector
  length_connections := by rw [hconnections]
  connection := fun key c h => ⟨c.mailbox, by rw [hconnections, h]⟩
  trace := ⟨[], by rw [htrace, List.append_nil], fun _ h => nomatch h⟩

theorem refl (w : World κ σ) : w.Alike w :=
  .of_eq rfl rfl rfl

theorem trans (h : w.Alike w₁) (h' : w₁.Alike w₂) : w.Alike w₂ where
  connector := h'.connector.trans h.connector
  length_connections := h'.length_connections.trans h.length_connections
  connection := by
    intro key c hc
    obtain ⟨mailbox, hc₁⟩ := h.connection key c hc
    obtain ⟨mailbox', hc₂⟩ := h'.connection key _ hc₁
    exact ⟨mailbox', hc₂⟩
  trace := by
    obtain ⟨events, htrace, hquiet⟩ := h.trace
    obtain ⟨events', htrace', hquiet'⟩ := h'.trace
    refine ⟨events ++ events', by rw [htrace', htrace, List.append_assoc], fun event hmem => ?_⟩
    rcases List.mem_append.1 hmem with hmem | hmem
    · exact hquiet event hmem
    · exact hquiet' event hmem

theorem prefix_trace (h : w.Alike w₁) : w.trace <+: w₁.trace := by
  obtain ⟨events, htrace, -⟩ := h.trace
  rw [htrace]
  exact List.prefix_append _ _

theorem record (w : World κ σ) {event : Event} (h : event.isQuiet) : w.Alike (w.record event) where
  connector := rfl
  length_connections := rfl
  connection := fun key c hc => ⟨c.mailbox, hc⟩
  trace := ⟨[event], rfl, fun e he => by rwa [List.mem_singleton.1 he]⟩

/-- A mailbox may change. -/
theorem modifyConnection (w : World κ σ) (key : Nat) {f : Connection σ → Connection σ}
    (hf : ∀ c, ∃ mailbox, f c = { c with mailbox }) : w.Alike (w.modifyConnection key f) where
  connector := rfl
  length_connections := List.length_modify ..
  connection := by
    intro k c hc
    obtain ⟨mailbox, hmailbox⟩ := hf c
    by_cases hk : key = k
    · refine ⟨mailbox, ?_⟩
      simp only [World.modifyConnection, List.getElem?_modify, hk, if_true, hc, Option.map_some,
        hmailbox, Option.map_eq_map]
    · refine ⟨c.mailbox, ?_⟩
      simp only [World.modifyConnection, List.getElem?_modify, hk, if_false, hc, Option.map_some,
        Option.map_eq_map]
  trace := ⟨[], (List.append_nil _).symm, fun _ h => nomatch h⟩

theorem enterHook (w : World κ σ) (key : Nat) : w.Alike (w.enterHook key) := by
  have hcounted : w.Alike { w with hookCalls := w.hookCalls + 1 } := .of_eq rfl rfl rfl
  exact hcounted.trans (.record _ rfl)

theorem leaveHook (w : World κ σ) (key : Nat) : w.Alike (w.leaveHook key) :=
  .record _ rfl

end Alike

/-! ## Where outcomes are kept -/

/-- The outcomes that were handed over so far, each with who was told. -/
def deliveries (w : World κ σ) : List Completion :=
  w.trace.filterMap Event.delivery?

theorem deliveries_append {w w' : World κ σ} {events : List Event}
    (htrace : w'.trace = w.trace ++ events) :
    w'.deliveries = w.deliveries ++ events.filterMap Event.delivery? := by
  rw [deliveries, htrace, List.filterMap_append]
  rfl

theorem cursorHeld_iff {w : World κ σ} {key : Nat} :
    w.cursorHeld key ↔ key ∈ w.cursorSlots.contents ∨ Holder.cursor key ∈ w.running := by
  simp [cursorHeld]

theorem listenerHeld_iff {w : World κ σ} {key : Nat} :
    w.listenerHeld key ↔ key ∈ w.ownerSlots.contents ∨ Holder.listener key ∈ w.running := by
  simp [listenerHeld]

/-- What holds of the call and of entering and leaving the hook holds of the call within the hook. -/
theorem detached_of_trans {R : World κ σ → World κ σ → Prop}
    (htrans : ∀ {w w₁ w₂ : World κ σ}, R w w₁ → R w₁ w₂ → R w w₂) {key : Nat}
    (henter : ∀ w : World κ σ, R w (w.enterHook key)) (hleave : ∀ w : World κ σ, R w (w.leaveHook key))
    {α : Type} {hooked : Bool} {call : World κ σ → α × World κ σ}
    (hcall : ∀ w : World κ σ, R w (call w).2) (w : World κ σ) :
    R w (detached key hooked call w).2 := by
  unfold detached
  cases hooked with
  | false => exact hcall w
  | true =>
    rw [if_pos rfl, Detach.through_eq]
    split
    · exact htrans (htrans (henter w) (hleave _)) (hcall _)
    · exact htrans (htrans (henter w) (hcall _)) (hleave _)

/-- The second world differs from the first one in nothing that outcomes are kept in. A cursor that is
not held any more is never held again, and a listener that is held exists. -/
structure Calm (w w' : World κ σ) : Prop where
  cursor : ∀ (key : Nat) (c : Cursor), w.cursors[key]? = some c → w'.cursors[key]? = some c
  newCursor : ∀ (key : Nat) (c : Cursor), w.cursors.length ≤ key → w'.cursors[key]? = some c →
    c.state = {}
  cursorHeld : ∀ key < w.cursors.length, w'.cursorHeld key → w.cursorHeld key
  length_listeners : w.listeners.length ≤ w'.listeners.length
  listenerHeld : ∀ key, w'.listenerHeld key → w.listenerHeld key ∨ key < w'.listeners.length
  deliveries : w'.deliveries = w.deliveries

namespace Calm

variable {w w₁ w₂ : World κ σ}

/-- Nothing is held that was not, and all that is kept is what it was. -/
theorem of_held (hcursors : w₁.cursors = w.cursors) (hlisteners : w₁.listeners = w.listeners)
    (hcursor : ∀ key, w₁.cursorHeld key → w.cursorHeld key)
    (hlistener : ∀ key, w₁.listenerHeld key → w.listenerHeld key ∨ key < w.listeners.length)
    (htrace : w₁.trace = w.trace) : w.Calm w₁ where
  cursor := fun key c h => by rw [hcursors, h]
  newCursor := by
    intro key c hkey hc
    rw [hcursors, List.getElem?_eq_none hkey] at hc
    exact nomatch hc
  cursorHeld := fun key _ => hcursor key
  length_listeners := Nat.le_of_eq (by rw [hlisteners])
  listenerHeld := by
    rw [hlisteners]
    exact hlistener
  deliveries := by rw [World.deliveries, htrace, World.deliveries]

/-- Only connections, the connector and the trace change. -/
theorem of_trace {events : List Event} (hcursors : w₁.cursors = w.cursors)
    (hlisteners : w₁.listeners = w.listeners) (hcursorSlots : w₁.cursorSlots = w.cursorSlots)
    (hownerSlots : w₁.ownerSlots = w.ownerSlots) (hrunning : w₁.running = w.running)
    (htrace : w₁.trace = w.trace ++ events) (hevents : ∀ event ∈ events, event.delivery? = none) :
    w.Calm w₁ where
  cursor := fun key c h => by rw [hcursors, h]
  newCursor := by
    intro key c hkey hc
    rw [hcursors, List.getElem?_eq_none hkey] at hc
    exact nomatch hc
  cursorHeld := by
    intro key _ hheld
    rw [World.cursorHeld, hcursorSlots, hrunning] at hheld
    exact hheld
  length_listeners := Nat.le_of_eq (by rw [hlisteners])
  listenerHeld := by
    intro key hheld
    rw [World.listenerHeld, hownerSlots, hrunning] at hheld
    exact Or.inl hheld
  deliveries := by
    have hnone : events.filterMap Event.delivery? = [] := List.filterMap_eq_nil_iff.2 hevents
    rw [deliveries_append htrace, hnone, List.append_nil]

theorem refl (w : World κ σ) : w.Calm w :=
  .of_held rfl rfl (fun _ => id) (fun _ => Or.inl) rfl

theorem length_cursors (h : w.Calm w₁) : w.cursors.length ≤ w₁.cursors.length := by
  refine Nat.le_of_not_lt fun hlt => ?_
  have hlast := h.cursor w₁.cursors.length _ (List.getElem?_eq_getElem hlt)
  exact absurd (List.getElem?_eq_some_iff.1 hlast).1 (Nat.lt_irrefl _)

theorem trans (h : w.Calm w₁) (h' : w₁.Calm w₂) : w.Calm w₂ where
  cursor := fun key c hc => h'.cursor key c (h.cursor key c hc)
  newCursor := by
    intro key c hkey hc
    by_cases hlt : key < w₁.cursors.length
    · have hfirst := List.getElem?_eq_getElem hlt
      have hsame : some w₁.cursors[key] = some c := (h'.cursor key _ hfirst).symm.trans hc
      rw [← Option.some.inj hsame]
      exact h.newCursor key _ hkey hfirst
    · exact h'.newCursor key c (Nat.le_of_not_lt hlt) hc
  cursorHeld := by
    intro key hkey hheld
    exact h.cursorHeld key hkey (h'.cursorHeld key (Nat.lt_of_lt_of_le hkey h.length_cursors) hheld)
  length_listeners := Nat.le_trans h.length_listeners h'.length_listeners
  listenerHeld := by
    intro key hheld
    rcases h'.listenerHeld key hheld with hheld | hlt
    · exact (h.listenerHeld key hheld).imp_right fun hlt => Nat.lt_of_lt_of_le hlt h'.length_listeners
    · exact Or.inr hlt
  deliveries := h'.deliveries.trans h.deliveries

theorem record (w : World κ σ) {event : Event} (h : event.delivery? = none) :
    w.Calm (w.record event) :=
  .of_trace rfl rfl rfl rfl rfl rfl fun e he => by rwa [List.mem_singleton.1 he]

/-- A call that is calm is so within the hook. -/
theorem detached {α : Type} {key : Nat} {hooked : Bool} {call : World κ σ → α × World κ σ}
    (hcall : ∀ w : World κ σ, w.Calm (call w).2) (w : World κ σ) :
    w.Calm (World.detached key hooked call w).2 := by
  refine detached_of_trans (R := Calm) trans (fun w => ?_) (fun w => .record w rfl) hcall w
  exact .of_trace rfl rfl rfl rfl rfl rfl fun e he => by rw [List.mem_singleton.1 he]; rfl

end Calm

/-- Something happens that changes neither what spans depend on nor where outcomes are kept. -/
structure Still (w w' : World κ σ) : Prop extends Alike w w', Calm w w'

namespace Still

variable {w w₁ w₂ : World κ σ}

theorem refl (w : World κ σ) : w.Still w :=
  ⟨.refl w, .refl w⟩

theorem trans (h : w.Still w₁) (h' : w₁.Still w₂) : w.Still w₂ :=
  ⟨h.toAlike.trans h'.toAlike, h.toCalm.trans h'.toCalm⟩

theorem record (w : World κ σ) {event : Event} (hquiet : event.isQuiet)
    (hdelivery : event.delivery? = none) : w.Still (w.record event) :=
  ⟨.record w hquiet, .record w hdelivery⟩

/-- A mailbox may change. -/
theorem modifyConnection (w : World κ σ) (key : Nat) {f : Connection σ → Connection σ}
    (hf : ∀ c, ∃ mailbox, f c = { c with mailbox }) : w.Still (w.modifyConnection key f) :=
  ⟨.modifyConnection w key hf, .of_held rfl rfl (fun _ => id) (fun _ => Or.inl) rfl⟩

end Still

/-- A call that may be wrapped in the hook is made in a world like the present one, and what follows
it is nothing but the hook. -/
theorem detached_eq {α : Type} (key : Nat) (hooked : Bool) (call : World κ σ → α × World κ σ)
    (w : World κ σ) :
    ∃ w₁, w.Alike w₁ ∧ w₁.connections = w.connections ∧
      (detached key hooked call w).1 = (call w₁).1 ∧
      (call w₁).2.Alike (detached key hooked call w).2 ∧
      (detached key hooked call w).2.connections = (call w₁).2.connections := by
  unfold detached
  cases hooked with
  | false => exact ⟨w, .refl w, rfl, rfl, .refl _, rfl⟩
  | true =>
    rw [if_pos rfl, Detach.through_eq]
    by_cases htimes : w.hook w.hookCalls = 0
    · rw [if_pos htimes]
      exact ⟨_, (Alike.enterHook w key).trans (.leaveHook _ key), rfl, rfl, .refl _, rfl⟩
    · rw [if_neg htimes]
      exact ⟨_, .enterHook w key, rfl, rfl, .leaveHook _ key, rfl⟩

variable [WireSession σ]

/-- What a span of a connection changes. -/
theorem runSpan_of_some {α : Type} {w : World κ σ} {key : Nat} {c : Connection σ}
    (hc : w.connections[key]? = some c) (span : Connection σ → Span σ α) :
    w.runSpan key span =
      ({ result := ((span c).run c.guarded).result
         batch := ((span c).run c.guarded).batch
         completion := ((span c).run c.guarded).completion },
        { w.modifyConnection key
            ({ · with guarded := ((span c).run c.guarded).guarded }) with
          trace := w.trace ++ ((span c).run c.guarded).exchanges.map (.exchanged key) }) := by
  unfold runSpan
  rw [hc]

theorem runSpan_of_none {α : Type} {w : World κ σ} {key : Nat} (hc : w.connections[key]? = none)
    (span : Connection σ → Span σ α) : w.runSpan key span = ({ result := .error .closed }, w) := by
  unfold runSpan
  rw [hc]

theorem connection_runSpan_self {α : Type} {w : World κ σ} {key : Nat} {c : Connection σ}
    (hc : w.connections[key]? = some c) (span : Connection σ → Span σ α) :
    (w.runSpan key span).2.connections[key]? =
      some { c with guarded := ((span c).run c.guarded).guarded } := by
  rw [runSpan_of_some hc]
  simp only [modifyConnection, List.getElem?_modify, if_true, hc, Option.map_eq_map,
    Option.map_some]

theorem connection_runSpan_of_ne {α : Type} (w : World κ σ) {key k : Nat} (hk : k ≠ key)
    (span : Connection σ → Span σ α) :
    (w.runSpan key span).2.connections[k]? = w.connections[k]? := by
  cases hc : w.connections[key]? with
  | none => rw [runSpan_of_none hc]
  | some c =>
    rw [runSpan_of_some hc]
    simp only [modifyConnection, List.getElem?_modify, Ne.symm hk, if_false, Option.map_eq_map,
      Option.map_id']

theorem length_connections_runSpan {α : Type} (w : World κ σ) (key : Nat)
    (span : Connection σ → Span σ α) :
    (w.runSpan key span).2.connections.length = w.connections.length := by
  cases hc : w.connections[key]? with
  | none => rw [runSpan_of_none hc]
  | some c =>
    rw [runSpan_of_some hc]
    exact List.length_modify ..

/-- A span leaves a trace of its exchanges and of nothing else. -/
theorem trace_runSpan {α : Type} (w : World κ σ) (key : Nat) (span : Connection σ → Span σ α) :
    ∃ exchanges : List Exchange,
      (w.runSpan key span).2.trace = w.trace ++ exchanges.map (.exchanged key) := by
  cases hc : w.connections[key]? with
  | none =>
    rw [runSpan_of_none hc]
    exact ⟨[], by simp⟩
  | some c =>
    rw [runSpan_of_some hc]
    exact ⟨_, rfl⟩

theorem prefix_trace_runSpan {α : Type} (w : World κ σ) (key : Nat)
    (span : Connection σ → Span σ α) : w.trace <+: (w.runSpan key span).2.trace := by
  obtain ⟨exchanges, htrace⟩ := w.trace_runSpan key span
  rw [htrace]
  exact List.prefix_append _ _

theorem calm_runSpan {α : Type} (w : World κ σ) (key : Nat) (span : Connection σ → Span σ α) :
    w.Calm (w.runSpan key span).2 := by
  cases hc : w.connections[key]? with
  | none =>
    rw [runSpan_of_none hc]
    exact .refl w
  | some c =>
    rw [runSpan_of_some hc]
    refine .of_trace rfl rfl rfl rfl rfl rfl fun event hevent => ?_
    obtain ⟨exchange, -, rfl⟩ := List.mem_map.1 hevent
    rfl

/-- The span with which a session that has just been made is taken into its connection. -/
def openingSpan (session : σ) (blocking : Bool) (c : Connection σ) : Span σ Unit := do
  Span.update ({ · with session := some session })
  if blocking then Span.establish c.setupIsolation

variable [Connector κ σ]

theorem establish_of_error {w : World κ σ} {blocking : Bool} {dsn text : String} {connector : κ}
    (h : Connector.connect blocking dsn w.connector = (.error text, connector)) (key : Nat) :
    w.establish key blocking dsn =
      ({ result := .error (.transport text) },
        { w with connector }.record (.connected key blocking dsn (some text))) := by
  unfold establish attemptConnect
  rw [h]

theorem establish_of_ok {w : World κ σ} {blocking : Bool} {dsn : String} {session : σ} {connector : κ}
    (h : Connector.connect blocking dsn w.connector = (.ok session, connector)) (key : Nat) :
    w.establish key blocking dsn =
      ({ w with connector }.record (.connected key blocking dsn none)).runSpan key
        (openingSpan session blocking) := by
  unfold establish attemptConnect
  rw [h]
  rfl

/-- What holds of attempts to make a session and of spans holds of establishing a connection. -/
theorem establish_of_trans {R : World κ σ → World κ σ → Prop}
    (htrans : ∀ {w w₁ w₂ : World κ σ}, R w w₁ → R w₁ w₂ → R w w₂) {key : Nat} {blocking : Bool}
    {dsn : String}
    (hattempted : ∀ (w : World κ σ) (connector : κ) (failure : Option String),
      R w ({ w with connector }.record (.connected key blocking dsn failure)))
    (hspan : ∀ (w : World κ σ) (span : Connection σ → Span σ Unit), R w (w.runSpan key span).2)
    (w : World κ σ) : R w (w.establish key blocking dsn).2 := by
  rcases h : Connector.connect blocking dsn w.connector with ⟨text | session, connector⟩
  · rw [establish_of_error h]
    exact hattempted w connector _
  · rw [establish_of_ok h]
    exact htrans (hattempted w connector none) (hspan _ _)

theorem prefix_trace_establish (w : World κ σ) (key : Nat) (blocking : Bool) (dsn : String) :
    w.trace <+: (w.establish key blocking dsn).2.trace :=
  establish_of_trans (R := fun w w' => w.trace <+: w'.trace) List.IsPrefix.trans
    (fun _ _ _ => List.prefix_append _ _) (fun w span => prefix_trace_runSpan w key span) w

theorem calm_establish (w : World κ σ) (key : Nat) (blocking : Bool) (dsn : String) :
    w.Calm (w.establish key blocking dsn).2 := by
  refine establish_of_trans (R := Calm) .trans (fun w connector failure => ?_)
    (fun w span => calm_runSpan w key span) w
  exact .of_trace rfl rfl rfl rfl rfl rfl fun e he => by rw [List.mem_singleton.1 he]; rfl

end World

end SessionLayer.Scenario
