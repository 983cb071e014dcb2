import SessionLayer.Proofs.Connection.Prompt
import SessionLayer.Proofs.Scenario.SideBySide

/-!
# Calls that block are made within the hook

`Bracketed` is a grammar of traces: outside of the hook there may be anything but calls that block for a
connection that has the hook, and within it there are calls on the wire of one connection and nothing
else. As long as the hook invokes every call once, the trace of a world follows the grammar. This is an
invariant of single worlds, thus a coupling of each world with itself.
-/

set_option autoImplicit false

namespace SessionLayer.Scenario

/-! ## Traces -/

namespace Event

/-- Whether an event is a call on the wire that may wait for the server, for the given connection. -/
def blocksOn (key : Nat) : Event → Bool
  | .connected k blocking _ _ => blocking && k == key
  | .exchanged k exchange => exchange.call.blocks && k == key
  | _ => false

/-- Whether an event is a call on the wire for the given connection. -/
def isWireOf (key : Nat) : Event → Bool
  | .connected k .. | .exchanged k _ => k == key
  | _ => false

/-- Whether an event tells of the hook. -/
def isHook : Event → Bool
  | .hookEntered _ | .hookLeft _ => true
  | _ => false

/-- Whether an event tells that the hook was entered. -/
def isEntry : Event → Bool
  | .hookEntered _ => true
  | _ => false

variable {event : Event} {key other : Nat}

theorem isHook_of_isWireOf (h : event.isWireOf key) : event.isHook = false := by
  cases event with
  | connected | exchanged => rfl
  | _ => exact nomatch h

theorem isEntry_of_isHook (h : event.isHook = false) : event.isEntry = false := by
  cases event with
  | hookEntered => exact nomatch h
  | _ => rfl

theorem isHook_of_isBystander (h : event.isBystander) : event.isHook = false := by
  cases event with
  | hookEntered | hookLeft => exact nomatch h
  | _ => rfl

theorem blocksOn_of_isBystander (h : event.isBystander) : event.blocksOn key = false := by
  cases event with
  | connected | exchanged => exact nomatch h
  | _ => rfl

/-- A call is made for one connection. -/
theorem eq_of_blocksOn (h : event.blocksOn key) (hwire : event.isWireOf other) : other = key := by
  cases event with
  | connected k blocking dsn failure =>
    simp only [blocksOn, Bool.and_eq_true, beq_iff_eq] at h
    exact (eq_of_beq hwire).symm.trans h.2
  | exchanged k exchange =>
    simp only [blocksOn, Bool.and_eq_true, beq_iff_eq] at h
    exact (eq_of_beq hwire).symm.trans h.2
  | _ => exact nomatch h

end Event

/-- A trace in which the hook is entered and left by turns, with nothing but calls on the wire of one
connection in between; outside of the hook, calls that block are made for exempt connections only. -/
inductive Bracketed (exempt : Nat → Prop) : List Event → Prop
  | nil : Bracketed exempt []
  | outside {event : Event} {events : List Event} : event.isHook = false →
      (∀ key, event.blocksOn key → exempt key) → Bracketed exempt events →
      Bracketed exempt (event :: events)
  | within {key : Nat} {inside events : List Event} : (∀ event ∈ inside, event.isWireOf key) →
      Bracketed exempt events →
      Bracketed exempt (.hookEntered key :: (inside ++ .hookLeft key :: events))

namespace Bracketed

variable {exempt exempt' : Nat → Prop} {events events' : List Event}

theorem mono (h : Bracketed exempt events) (hexempt : ∀ key, exempt key → exempt' key) :
    Bracketed exempt' events := by
  induction h with
  | nil => exact .nil
  | outside hhook hblocks _ ih => exact .outside hhook (fun key h => hexempt key (hblocks key h)) ih
  | within hinside _ ih => exact .within hinside ih

theorem append (h : Bracketed exempt events) (h' : Bracketed exempt events') :
    Bracketed exempt (events ++ events') := by
  induction h with
  | nil => exact h'
  | outside hhook hblocks _ ih => exact .outside hhook hblocks ih
  | within hinside _ ih =>
    simp only [List.cons_append, List.append_assoc]
    exact .within hinside ih

theorem of_outside (hhook : ∀ event ∈ events, event.isHook = false)
    (hblocks : ∀ event ∈ events, ∀ key, event.blocksOn key → exempt key) :
    Bracketed exempt events := by
  induction events with
  | nil => exact .nil
  | cons event events ih =>
    refine .outside (hhook event List.mem_cons_self) (hblocks event List.mem_cons_self) (ih ?_ ?_)
    · exact fun e he => hhook e (List.mem_cons_of_mem _ he)
    · exact fun e he => hblocks e (List.mem_cons_of_mem _ he)

/-- A call that blocks for a connection that is not exempt has the hook of that connection around it:
the hook was entered before the call and is left after it, and there are only calls on the wire of the
connection in between. -/
theorem around (h : Bracketed exempt events) {before after : List Event} {event : Event} {key : Nat}
    (hevents : events = before ++ event :: after) (hblocks : event.blocksOn key)
    (hexempt : ¬exempt key) :
    ∃ earlier inside rest later, before = earlier ++ .hookEntered key :: inside ∧
      after = rest ++ .hookLeft key :: later ∧ ∀ e ∈ inside ++ event :: rest, e.isWireOf key := by
  induction h generalizing before with
  | nil => exact nomatch List.append_eq_nil_iff.1 hevents.symm
  | @outside head events hhook houtside _ ih =>
    cases before with
    | nil =>
      cases hevents
      exact absurd (houtside key hblocks) hexempt
    | cons first before =>
      obtain ⟨rfl, htail⟩ := List.cons_eq_cons.1 hevents
      obtain ⟨earlier, inside, rest, later, rfl, hafter, hwire⟩ := ih htail
      exact ⟨head :: earlier, inside, rest, later, rfl, hafter, hwire⟩
  | @within other inside events hinside _ ih =>
    cases before with
    | nil =>
      cases hevents
      exact nomatch hblocks
    | cons first before =>
      obtain ⟨rfl, htail⟩ := List.cons_eq_cons.1 hevents
      -- the call is made within this bracket, or it comes after it
      rcases List.append_eq_append_iff.1 htail with ⟨more, rfl, hmore⟩ | ⟨more, rfl, hmore⟩
      · cases more with
        | nil =>
          cases hmore
          exact nomatch hblocks
        | cons last more =>
          obtain ⟨rfl, hlast⟩ := List.cons_eq_cons.1 hmore
          obtain ⟨earlier, inside', rest, later, rfl, hafter, hwire⟩ := ih hlast
          refine ⟨.hookEntered other :: (inside ++ .hookLeft other :: earlier), inside', rest, later,
            ?_, hafter, hwire⟩
          simp
      · cases more with
        | nil =>
          cases hmore
          exact nomatch hblocks
        | cons last more =>
          obtain ⟨rfl, rfl⟩ := List.cons_eq_cons.1 hmore
          obtain rfl := Event.eq_of_blocksOn hblocks (hinside event (by simp))
          exact ⟨[], before, more, events, rfl, rfl, hinside⟩

end Bracketed

namespace World

variable {κ σ : Type} {w w₁ w₂ : World κ σ} {key : Nat}

/-! ## The invariant -/

/-- The connection is there, and it has no hook. -/
def Exempt (w : World κ σ) (key : Nat) : Prop :=
  ∃ c, w.connections[key]? = some c ∧ c.hooked = false

/-- The hook invokes every call once, and so far every call that blocks was made within it. -/
structure Sheltered (w : World κ σ) : Prop where
  grounded : w.Grounded
  hook : ∀ n, w.hook n = 1
  bracketed : Bracketed w.Exempt w.trace
  hookCalls : w.hookCalls = w.trace.countP Event.isEntry

theorem sheltered_start (connector : κ) : ({ connector, hook := fun _ => 1 } : World κ σ).Sheltered where
  grounded := grounded_start connector _
  hook := fun _ => rfl
  bracketed := .nil
  hookCalls := rfl

theorem Alike.exempt (h : w.Alike w₁) {k : Nat} (hk : w.Exempt k) : w₁.Exempt k := by
  obtain ⟨c, hc, hhooked⟩ := hk
  obtain ⟨mailbox, hc'⟩ := h.connection k c hc
  exact ⟨_, hc', hhooked⟩

theorem countP_isEntry_eq_zero {events : List Event} (h : ∀ event ∈ events, event.isHook = false) :
    events.countP Event.isEntry = 0 := by
  rw [List.countP_eq_zero]
  intro event hevent
  simp [Event.isEntry_of_isHook (h event hevent)]

/-- Calls are made on the wire of one connection, and the hook is left alone. -/
structure Calls (key : Nat) (events : List Event) (w w₁ : World κ σ) : Prop where
  trace : w₁.trace = w.trace ++ events
  wire : ∀ event ∈ events, event.isWireOf key
  hook : w₁.hook = w.hook
  hookCalls : w₁.hookCalls = w.hookCalls
  exempt : ∀ k, w.Exempt k → w₁.Exempt k

namespace Calls

variable {events events' : List Event}

theorem trans (h : Calls key events w w₁) (h' : Calls key events' w₁ w₂) :
    Calls key (events ++ events') w w₂ where
  trace := by rw [h'.trace, h.trace, List.append_assoc]
  wire := fun event hevent => (List.mem_append.1 hevent).elim (h.wire event) (h'.wire event)
  hook := h'.hook.trans h.hook
  hookCalls := h'.hookCalls.trans h.hookCalls
  exempt := fun k hk => h'.exempt k (h.exempt k hk)

theorem connected (w : World κ σ) (connector : κ) (key : Nat) (blocking : Bool) (dsn : String)
    (failure : Option String) :
    Calls key [.connected key blocking dsn failure] w
      ({ w with connector }.record (.connected key blocking dsn failure)) where
  trace := rfl
  wire := by simp [Event.isWireOf]
  hook := rfl
  hookCalls := rfl
  exempt := fun _ hk => hk

variable [WireSession σ]

theorem runSpan {α : Type} {c : Connection σ} (hc : w.connections[key]? = some c)
    (span : Connection σ → Span σ α) :
    Calls key (((span c).run c.guarded).exchanges.map (.exchanged key)) w (w.runSpan key span).2 := by
  have hexempt : ∀ k, w.Exempt k → (w.runSpan key span).2.Exempt k := by
    rintro k ⟨d, hd, hhooked⟩
    by_cases hk : k = key
    · subst hk
      cases hc.symm.trans hd
      exact ⟨_, connection_runSpan_self hc span, hhooked⟩
    · exact ⟨d, (connection_runSpan_of_ne w hk span).trans hd, hhooked⟩
  rw [runSpan_of_some hc] at hexempt ⊢
  exact
    { trace := rfl
      wire := fun event hevent => by
        obtain ⟨x, -, rfl⟩ := List.mem_map.1 hevent
        exact beq_self_eq_true key
      hook := rfl
      hookCalls := rfl
      exempt := hexempt }

/-- What blocks among the calls of a span is what its exchanges say. -/
theorem blocksOn_exchanged {xs : List Exchange} (hxs : ∀ x ∈ xs, x.call.blocks = false) :
    ∀ event ∈ xs.map (Event.exchanged key), ∀ k, event.blocksOn k = false := by
  intro event hevent k
  obtain ⟨x, hx, rfl⟩ := List.mem_map.1 hevent
  simp [Event.blocksOn, hxs x hx]

/-- To make a session and to take it into its connection blocks at most where the connection is to be
opened in one go. -/
theorem establish [Connector κ σ] {c : Connection σ} (hc : w.connections[key]? = some c)
    (blocking : Bool) (dsn : String) :
    ∃ events, Calls key events w (w.establish key blocking dsn).2 ∧
      (blocking = false → ∀ event ∈ events, ∀ k, event.blocksOn k = false) := by
  rcases h : Connector.connect blocking dsn w.connector with ⟨text | session, connector⟩
  · rw [establish_of_error h]
    refine ⟨_, .connected w connector key blocking dsn (some text), ?_⟩
    rintro rfl
    simp [Event.blocksOn]
  · rw [establish_of_ok h]
    have hc' : ({ w with connector }.record (.connected key blocking dsn none)).connections[key]? =
        some c := hc
    refine ⟨_, (connected w connector key blocking dsn none).trans (runSpan hc' _), ?_⟩
    rintro rfl event hevent k
    rcases List.mem_append.1 hevent with hevent | hevent
    · rw [List.mem_singleton.1 hevent]
      rfl
    · refine blocksOn_exchanged ?_ event hevent k
      exact Span.prompt_run ⟨[], rfl, by simp⟩

end Calls

/-- A hook that invokes the call once has it run between where it is entered and where it is left. -/
theorem detached_of_once (hhook : w.hook w.hookCalls = 1) {α : Type} (key : Nat) (hooked : Bool)
    (call : World κ σ → α × World κ σ) :
    detached key hooked call w =
      if hooked then ((call (w.enterHook key)).1, (call (w.enterHook key)).2.leaveHook key)
      else call w := by
  unfold detached
  rw [Detach.through_eq, hhook]
  rfl

namespace Sheltered

/-- Calls on the wire are sheltered if they are made within the hook, or else block only for exempt
connections. -/
theorem detached (hw : w.Sheltered) {α : Type} {call : World κ σ → α × World κ σ} {hooked : Bool}
    (hcall : ∀ u : World κ σ, u.connections = w.connections → ∃ events,
      Calls key events u (call u).2 ∧
        (hooked = false → ∀ event ∈ events, ∀ k, event.blocksOn k → w.Exempt k))
    (hgrounded : (World.detached key hooked call w).2.Grounded) :
    (World.detached key hooked call w).2.Sheltered := by
  rw [detached_of_once (hw.hook _)] at hgrounded ⊢
  cases hooked with
  | false =>
    obtain ⟨events, hcalls, hprompt⟩ := hcall w rfl
    have hhook : ∀ event ∈ events, event.isHook = false := fun event hevent =>
      Event.isHook_of_isWireOf (hcalls.wire event hevent)
    exact
      { grounded := hgrounded
        hook := fun n => (congrFun hcalls.hook n).trans (hw.hook n)
        bracketed := by
          show Bracketed _ (call w).2.trace
          rw [hcalls.trace]
          exact (hw.bracketed.append (.of_outside hhook (hprompt rfl))).mono hcalls.exempt
        hookCalls := by
          show (call w).2.hookCalls = (call w).2.trace.countP _
          rw [hcalls.trace, hcalls.hookCalls, List.countP_append, countP_isEntry_eq_zero hhook,
            hw.hookCalls, Nat.add_zero] }
  | true =>
    obtain ⟨events, hcalls, -⟩ := hcall (w.enterHook key) rfl
    have hhook : ∀ event ∈ events, event.isHook = false := fun event hevent =>
      Event.isHook_of_isWireOf (hcalls.wire event hevent)
    have htrace : ((call (w.enterHook key)).2.leaveHook key).trace =
        w.trace ++ .hookEntered key :: (events ++ [.hookLeft key]) := by
      rw [leaveHook, record, hcalls.trace]
      simp [enterHook, record]
    exact
      { grounded := hgrounded
        hook := fun n => (congrFun hcalls.hook n).trans (hw.hook n)
        bracketed := by
          show Bracketed _ ((call (w.enterHook key)).2.leaveHook key).trace
          rw [htrace]
          exact (hw.bracketed.append (.within hcalls.wire .nil)).mono hcalls.exempt
        hookCalls := by
          show (call (w.enterHook key)).2.hookCalls =
            ((call (w.enterHook key)).2.leaveHook key).trace.countP _
          rw [htrace, hcalls.hookCalls]
          simp [enterHook, record, List.countP_cons, countP_isEntry_eq_zero hhook, hw.hookCalls,
            Event.isEntry] }

variable [WireSession σ]

theorem operating (hw : w.Sheltered) (key : Nat) (op : Operation) :
    (w.operating key (w.usesHook key op) op).Sheltered := by
  refine hw.detached (fun u hu => ?_) ((HoldsOn.operating w key _ op).grounded hw.grounded)
  cases hc : w.connections[key]? with
  | none =>
    rw [runSpan_of_none (hu ▸ hc)]
    exact ⟨[], ⟨(List.append_nil _).symm, by simp, rfl, rfl, fun _ hk => hk⟩, by simp⟩
  | some c =>
    refine ⟨_, .runSpan (hu ▸ hc) _, fun hunhooked event hevent k hblocks => ?_⟩
    have hunhooked : (c.hooked && c.mayBlock op) = false := by
      rw [usesHook, hc] at hunhooked
      exact hunhooked
    cases hhooked : c.hooked with
    | false =>
      obtain ⟨x, -, rfl⟩ := List.mem_map.1 hevent
      obtain rfl := Event.eq_of_blocksOn hblocks (beq_self_eq_true key)
      exact ⟨c, hc, hhooked⟩
    | true =>
      rw [hhooked, Bool.true_and] at hunhooked
      have hprompt := Calls.blocksOn_exchanged (Connection.prompt_perform hunhooked) event hevent k
      exact absurd hblocks (by simp [hprompt])

theorem opening [Connector κ σ] (hw : w.Sheltered) (dsn : String) (asynchronous : Bool)
    (settings : Settings) (hooked : Bool) :
    (w.opening dsn asynchronous settings hooked).2.Sheltered := by
  have hcreated : (w.creating dsn asynchronous settings hooked).Sheltered := by
    have hgrounded := (HoldsOn.creating w dsn asynchronous settings hooked).grounded hw.grounded
    refine ⟨hgrounded, hw.hook, hw.bracketed.mono ?_, hw.hookCalls⟩
    rintro k ⟨c, hc, hhooked⟩
    refine ⟨c, ?_, hhooked⟩
    rw [creating, List.getElem?_append_left (List.getElem?_eq_some_iff.1 hc).1, hc]
  refine hcreated.detached (fun u hu => ?_)
    ((HoldsOn.opening w dsn asynchronous settings hooked).grounded hw.grounded)
  have hnew : (w.creating dsn asynchronous settings hooked).connections[w.connections.length]? =
      some (Connection.create w.connections.length dsn asynchronous hooked settings) := by
    rw [creating, List.getElem?_concat_length]
  obtain ⟨events, hcalls, hprompt⟩ := Calls.establish (hu ▸ hnew) (!asynchronous) dsn
  refine ⟨events, hcalls, fun hunhooked event hevent k hblocks => ?_⟩
  cases hooked with
  | false =>
    obtain rfl := Event.eq_of_blocksOn hblocks (hcalls.wire event hevent)
    exact ⟨_, hnew, rfl⟩
  | true => exact absurd hblocks (by simp [hprompt hunhooked event hevent k])

instance coupling [Connector κ σ] :
    Coupling (fun w w' : World κ σ => w' = w ∧ w.Sheltered) where
  twin := by
    rintro w w' ⟨rfl, -⟩
    rfl
  grounded := fun h => h.2.grounded
  furnish := by
    rintro w w' w₁ ⟨rfl, hw⟩ h hgrounded
    have hself : w₁.twin w'.hook w'.trace = w₁ := by
      rw [← h.hook, ← h.trace]
      rfl
    refine ⟨hself, hgrounded, fun n => ?_, ?_, ?_⟩
    · rw [h.hook]
      exact hw.hook n
    · rw [h.trace]
      exact hw.bracketed.mono fun _ => h.alike.exempt
    · rw [h.trace, h.hookCalls]
      exact hw.hookCalls
  record := by
    rintro w w' event ⟨rfl, hw⟩ hevent
    have hgrounded := (HoldsOn.record w' event).grounded hw.grounded
    have hhook : ∀ e ∈ [event], e.isHook = false := by simpa using Event.isHook_of_isBystander hevent
    refine ⟨rfl, hgrounded, hw.hook, ?_, ?_⟩
    · refine hw.bracketed.append (.of_outside hhook fun e he key hblocks => ?_)
      rw [List.mem_singleton.1 he, Event.blocksOn_of_isBystander hevent] at hblocks
      exact absurd hblocks Bool.false_ne_true
    · show w'.hookCalls = (w'.trace ++ [event]).countP _
      rw [List.countP_append, countP_isEntry_eq_zero hhook]
      exact hw.hookCalls
  operating := by
    rintro w w' key op ⟨rfl, hw⟩
    exact ⟨rfl, rfl, hw.operating key op⟩
  opening := by
    rintro w w' dsn asynchronous settings hooked ⟨rfl, hw⟩
    exact ⟨rfl, rfl, hw.opening dsn asynchronous settings hooked⟩

end Sheltered

end World

end SessionLayer.Scenario
