import SessionLayer.Proofs.Connection.Invariant
import SessionLayer.Proofs.Scenario.Course

/-!
# The invariant of connections in a scenario

A connection whose session has been made is settled after every guarded span: after its own spans by
the invariant of connections, and after all others because those do not touch it. `World.Sound` says so
of one world; every move preserves it, so it holds throughout every scenario.
-/

set_option autoImplicit false

namespace SessionLayer.Scenario

/-- Whether an event tells that a session was made for the connection. -/
def Event.opens (key : Nat) : Event → Bool
  | connected k _ _ none => k == key
  | _ => false

namespace World

variable {κ σ : Type}

/-- A session was made for the connection. -/
def Opened (w : World κ σ) (key : Nat) : Prop :=
  ∃ blocking dsn, Event.connected key blocking dsn none ∈ w.trace

theorem opened_iff_any_opens {w : World κ σ} {key : Nat} :
    w.Opened key ↔ w.trace.any (Event.opens key) = true := by
  rw [List.any_eq_true]
  constructor
  · rintro ⟨blocking, dsn, hmem⟩
    exact ⟨_, hmem, beq_self_eq_true key⟩
  · rintro ⟨event, hmem, hopens⟩
    unfold Event.opens at hopens
    split at hopens
    next k blocking dsn =>
      obtain rfl := eq_of_beq hopens
      exact ⟨blocking, dsn, hmem⟩
    next => exact nomatch hopens

instance (w : World κ σ) (key : Nat) : Decidable (w.Opened key) :=
  decidable_of_iff _ opened_iff_any_opens.symm

/-- Every connection whose session was made is settled. -/
structure Sound (w : World κ σ) : Prop where
  lt_of_opened : ∀ key, w.Opened key → key < w.connections.length
  settled : ∀ (key : Nat) (c : Connection σ), w.connections[key]? = some c → w.Opened key →
    c.guarded.Settled c.asynchronous

variable {w w' : World κ σ}

theorem Opened.mono {key : Nat} (h : w.Opened key) (htrace : w.trace <+: w'.trace) :
    w'.Opened key := by
  obtain ⟨blocking, dsn, hmem⟩ := h
  exact ⟨blocking, dsn, htrace.subset hmem⟩

/-- Other events open nothing. -/
theorem opened_of_trace_append {events : List Event} (htrace : w'.trace = w.trace ++ events)
    (hother : ∀ event ∈ events, ∀ key blocking dsn, event ≠ .connected key blocking dsn none)
    (key : Nat) : w'.Opened key ↔ w.Opened key := by
  constructor
  · rintro ⟨blocking, dsn, hmem⟩
    rw [htrace] at hmem
    rcases List.mem_append.1 hmem with hmem | hmem
    · exact ⟨blocking, dsn, hmem⟩
    · exact absurd rfl (hother _ hmem key blocking dsn)
  · rintro ⟨blocking, dsn, hmem⟩
    refine ⟨blocking, dsn, ?_⟩
    rw [htrace]
    exact List.mem_append_left _ hmem

namespace Alike

theorem opened_iff (h : w.Alike w') (key : Nat) : w'.Opened key ↔ w.Opened key := by
  obtain ⟨events, htrace, hquiet⟩ := h.trace
  refine opened_of_trace_append htrace ?_ key
  rintro event hmem key blocking dsn rfl
  exact nomatch hquiet _ hmem

/-- A connection of the second world is one of the first world with another mailbox. -/
theorem connection_of (h : w.Alike w') {key : Nat} {c' : Connection σ}
    (hc' : w'.connections[key]? = some c') :
    ∃ c mailbox, w.connections[key]? = some c ∧ c' = { c with mailbox } := by
  have hlt : key < w.connections.length := by
    rw [← h.length_connections]
    exact (List.getElem?_eq_some_iff.1 hc').1
  obtain ⟨mailbox, hmailbox⟩ := h.connection key _ (List.getElem?_eq_getElem hlt)
  exact ⟨_, mailbox, List.getElem?_eq_getElem hlt, Option.some.inj (hc'.symm.trans hmailbox)⟩

theorem sound (h : w.Alike w') (hw : w.Sound) : w'.Sound where
  lt_of_opened := fun key hopened => by
    rw [h.length_connections]
    exact hw.lt_of_opened key ((h.opened_iff key).1 hopened)
  settled := by
    intro key c' hc' hopened
    obtain ⟨c, mailbox, hc, rfl⟩ := h.connection_of hc'
    exact hw.settled key c hc ((h.opened_iff key).1 hopened)

end Alike

/-- An attempt to connect that succeeds opens its connection and no other. -/
theorem opened_record_connected (w : World κ σ) (connector : κ) (key : Nat) (blocking : Bool)
    (dsn : String) (k : Nat) :
    ({ w with connector }.record (.connected key blocking dsn none)).Opened k ↔
      w.Opened k ∨ k = key := by
  constructor
  · rintro ⟨b, d, hmem⟩
    rcases List.mem_append.1 hmem with hmem | hmem
    · exact Or.inl ⟨b, d, hmem⟩
    · cases List.mem_singleton.1 hmem
      exact Or.inr rfl
  · rintro (⟨b, d, hmem⟩ | rfl)
    · exact ⟨b, d, List.mem_append_left _ hmem⟩
    · exact ⟨blocking, dsn, List.mem_append_right _ (List.mem_singleton.2 rfl)⟩

/-- An attempt to connect that fails opens nothing. -/
theorem Sound.of_failed_attempt (hw : w.Sound) (connector : κ) (key : Nat) (blocking : Bool)
    (dsn text : String) :
    ({ w with connector }.record (.connected key blocking dsn (some text))).Sound := by
  have hopened : ∀ k,
      ({ w with connector }.record (.connected key blocking dsn (some text))).Opened k ↔
        w.Opened k :=
    opened_of_trace_append rfl (by simp)
  exact
    { lt_of_opened := fun k hk => hw.lt_of_opened k ((hopened k).1 hk)
      settled := fun k c hc hk => hw.settled k c hc ((hopened k).1 hk) }

variable [WireSession σ]

/-! ## Spans -/

/-- A span leaves every other connection alone; so it is enough that it leaves its own one settled. -/
theorem sound_runSpan {α : Type} {key : Nat} {span : Connection σ → Span σ α}
    (hlt : ∀ k, w.Opened k → k < w.connections.length)
    (hother : ∀ (k : Nat) (c : Connection σ), k ≠ key → w.connections[k]? = some c → w.Opened k →
      c.guarded.Settled c.asynchronous)
    (hown : ∀ c : Connection σ, w.connections[key]? = some c → w.Opened key →
      ((span c).run c.guarded).guarded.Settled c.asynchronous) :
    (w.runSpan key span).2.Sound := by
  have hopened : ∀ k, (w.runSpan key span).2.Opened k ↔ w.Opened k := by
    obtain ⟨exchanges, htrace⟩ := w.trace_runSpan key span
    refine opened_of_trace_append htrace fun event hmem k blocking dsn heq => ?_
    obtain ⟨exchange, -, hexchange⟩ := List.mem_map.1 hmem
    exact nomatch hexchange.trans heq
  refine ⟨fun k hk => ?_, fun k c' hc' hk => ?_⟩
  · rw [length_connections_runSpan]
    exact hlt k ((hopened k).1 hk)
  · rw [hopened] at hk
    by_cases hkey : k = key
    · subst hkey
      cases hc : w.connections[k]? with
      | none =>
        rw [runSpan_of_none hc, hc] at hc'
        exact nomatch hc'
      | some c =>
        rw [connection_runSpan_self hc] at hc'
        cases hc'
        exact hown c hc hk
    · rw [connection_runSpan_of_ne w hkey] at hc'
      exact hother k c' hkey hc' hk

/-! ## Moves -/

theorem sound_operating (hw : w.Sound) (key : Nat) (hooked : Bool) (op : Operation) :
    (w.operating key hooked op).Sound := by
  obtain ⟨w₁, halike, -, -, hafter, -⟩ := detached_eq key hooked (runSpan key (·.span op)) w
  have hw₁ := halike.sound hw
  refine hafter.sound (sound_runSpan hw₁.lt_of_opened (fun k c _ => hw₁.settled k c) ?_)
  exact fun c hc hopened => c.settled_perform (hw₁.settled key c hc hopened) op

variable [Connector κ σ]

/-- Opening a connection preserves soundness, whether or not it succeeds. -/
theorem sound_opening (hw : w.Sound) (dsn : String) (asynchronous : Bool) (settings : Settings)
    (hooked : Bool) : (w.opening dsn asynchronous settings hooked).2.Sound := by
  have hkey : ¬w.Opened w.connections.length := fun h => absurd (hw.lt_of_opened _ h) (Nat.lt_irrefl _)
  have hcreated : (w.creating dsn asynchronous settings hooked).Sound := by
    refine ⟨fun k hk => ?_, fun k c hc hk => ?_⟩
    · show k < (w.connections ++ _).length
      rw [List.length_append]
      exact Nat.lt_add_right _ (hw.lt_of_opened k hk)
    · have hlt := hw.lt_of_opened k hk
      have hc : (w.connections ++ _)[k]? = some c := hc
      rw [List.getElem?_append_left hlt] at hc
      exact hw.settled k c hc hk
  obtain ⟨w₁, halike, hconnections, -, hafter, -⟩ := detached_eq w.connections.length
    (hooked && !asynchronous) (establish w.connections.length (!asynchronous) dsn)
    (w.creating dsn asynchronous settings hooked)
  have hw₁ := halike.sound hcreated
  refine hafter.sound ?_
  rcases h : Connector.connect (!asynchronous) dsn w₁.connector with ⟨text | session, connector⟩
  · rw [establish_of_error h]
    exact hw₁.of_failed_attempt connector _ _ dsn text
  · rw [establish_of_ok h]
    refine sound_runSpan (fun k hk => ?_) (fun k c hne hc hk => ?_) (fun c hc _ => ?_)
    · rcases (opened_record_connected w₁ _ _ _ _ k).1 hk with hk | rfl
      · exact hw₁.lt_of_opened k hk
      · show _ < w₁.connections.length
        rw [hconnections, creating, List.length_append]
        exact Nat.lt_add_one _
    · rcases (opened_record_connected w₁ _ _ _ _ k).1 hk with hk | rfl
      · exact hw₁.settled k c hc hk
      · exact absurd rfl hne
    · have hc : w₁.connections[w.connections.length]? = some c := hc
      rw [hconnections, creating, List.getElem?_concat_length] at hc
      cases hc
      exact Connection.settled_open _ dsn asynchronous hooked settings session

theorem Move.sound (hw : w.Sound) (hmove : Move w w') : w'.Sound := by
  cases hmove with
  | opening dsn asynchronous settings hooked => exact sound_opening hw dsn asynchronous settings hooked
  | operating key hooked op => exact sound_operating hw key hooked op
  | quiet _ halike => exact halike.sound hw

/-! ## Connections that are opened -/

variable {react : Reactor κ σ}

/-- Where the establishment of a connection succeeds, its session was made. -/
theorem opened_of_establish {key : Nat} {blocking : Bool} {dsn : String}
    (h : (w.establish key blocking dsn).1.result = .ok ()) :
    (w.establish key blocking dsn).2.Opened key := by
  rcases hconnect : Connector.connect blocking dsn w.connector with ⟨text | session, connector⟩
  · rw [establish_of_error hconnect] at h
    exact nomatch h
  · rw [establish_of_ok hconnect]
    have hopened := (opened_record_connected w connector key blocking dsn key).2 (Or.inr rfl)
    exact hopened.mono (prefix_trace_runSpan _ key _)

/-- The connection that is handed out by a successful attempt to open one is one whose session was
made. -/
theorem opened_of_openConnection (hreact : ∀ listener signal, Keeps Reached (react listener signal))
    {dsn : String} {asynchronous : Bool} {settings : Settings} {hooked : Bool} {key : Nat}
    (h : ((openConnection react dsn asynchronous settings hooked).run w).1 = .ok key) :
    ((openConnection react dsn asynchronous settings hooked).run w).2.Opened key := by
  rw [openConnection_run] at h ⊢
  obtain ⟨w₁, -, -, hresult, hafter, -⟩ := detached_eq w.connections.length
    (hooked && !asynchronous) (establish w.connections.length (!asynchronous) dsn)
    (w.creating dsn asynchronous settings hooked)
  unfold opening at h ⊢
  generalize detached w.connections.length (hooked && !asynchronous)
    (establish w.connections.length (!asynchronous) dsn)
    (w.creating dsn asynchronous settings hooked) = attempt at h hresult hafter ⊢
  simp only [fst_conclude] at h ⊢
  cases hattempt : attempt.1.result with
  | error fault =>
    rw [hattempt] at h
    exact nomatch h
  | ok _ =>
    rw [hattempt] at h
    cases h
    have hopened := (hafter.opened_iff _).2 (opened_of_establish (hresult ▸ hattempt))
    exact hopened.mono (keeps_conclude hreact _ attempt.1 attempt.2).prefix_trace

/-! ## Throughout a scenario -/

omit [WireSession σ] [Connector κ σ] in
theorem sound_start (connector : κ) (hook : Nat → Nat) :
    ({ connector, hook } : World κ σ).Sound where
  lt_of_opened := by
    rintro key ⟨blocking, dsn, hmem⟩
    exact nomatch hmem
  settled := fun key c hc _ => nomatch hc

/-- Whatever the sessions answer, and in whatever order connections are opened and operations are run on
them, every connection whose session was made is settled after every span. Scenarios get to no other
worlds, and neither do the listeners of a client, however deep they nest; and a connection that is
handed out when it is opened is one whose session was made. -/
theorem opened_connections_settled (connector : κ) (hook : Nat → Nat) :
    (∀ w : World κ σ, Reached { connector, hook } w →
      ∀ (key : Nat) (c : Connection σ), w.connections[key]? = some c → w.Opened key →
        c.guarded.Settled c.asynchronous) ∧
    (∀ (steps : List Step) (w : World κ σ), Reached w ((play steps).run w).2) ∧
    (∀ (depth listener : Nat) (signal : Signal) (w : World κ σ),
      Reached w ((fire depth listener signal).run w).2) ∧
    ∀ (depth : Nat) (dsn : String) (asynchronous : Bool) (settings : Settings) (hooked : Bool)
      (w : World κ σ) (key : Nat),
      ((openConnection (fire depth) dsn asynchronous settings hooked).run w).1 = .ok key →
      ((openConnection (fire depth) dsn asynchronous settings hooked).run w).2.Opened key := by
  refine ⟨fun w hreached => ?_, keeps_play, keeps_fire, ?_⟩
  · have hsound := hreached.preserves (fun _ _ => Move.sound) (sound_start connector hook)
    exact hsound.settled
  · intro depth dsn asynchronous settings hooked w key h
    exact opened_of_openConnection (keeps_fire depth) h

end World

end SessionLayer.Scenario
