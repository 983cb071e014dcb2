import SessionLayer.Detach.Lock
import SessionLayer.Proofs.Scenario.SideBySide

/-!
# The hook makes no difference

How often the embedder's hook invokes the call that it is handed decides when the hook returns: before the
call if it never invokes it, and after the call otherwise. Two worlds are `Indistinct` if they differ in
the hook and in where it returned, and in nothing else. That is a coupling, because a span or an attempt
to make a session is `Blind`: it reads neither the hook nor the past.
-/

set_option autoImplicit false

namespace SessionLayer

/-! ## One call -/

namespace Detach

variable {σ α : Type}

/-- However often a call is invoked, it has run exactly once in the end. -/
theorem Attempt.conclude_invokeTimes (f : σ → α × σ) (s : σ) (n : Nat) :
    ((Attempt.start f s).invokeTimes n).conclude = some (f s) := by
  rw [← through_id n f s]
  exact (Option.some_get _).symm

/-- A guarded value goes through a span that may block exactly once, whatever the hook does. -/
theorem Lock.holdDetached_eq (span : σ → α × σ) (l : Lock σ) :
    l.holdDetached span =
      ((span l.value).1, { l with value := (span l.value).2, calls := l.calls + 1 }) := by
  rw [holdDetached, through_eq]
  exact ite_self _

end Detach

namespace Scenario

/-- Whether an event tells that the hook returned. -/
def Event.isReturn : Event → Bool
  | .hookLeft _ => true
  | _ => false

/-- The events but for the returns of the hook. -/
def apparent (events : List Event) : List Event :=
  events.filter fun event => !event.isReturn

theorem apparent_append (before events : List Event) :
    apparent (before ++ events) = apparent before ++ apparent events :=
  List.filter_append ..

/-- A report but for the returns of the hook. -/
def World.Report.apparent (r : World.Report) : World.Report :=
  { r with events := Scenario.apparent r.events }

namespace World

variable {κ σ : Type} {w w' : World κ σ}

/-- The second world differs from the first one, which is grounded, in the hook and in where it returned,
and in nothing else. -/
structure Indistinct (w w' : World κ σ) : Prop where
  grounded : w.Grounded
  twin : w' = w.twin w'.hook w'.trace
  apparent : apparent w'.trace = apparent w.trace

theorem indistinct_start (connector : κ) (hook hook' : Nat → Nat) :
    ({ connector, hook } : World κ σ).Indistinct { connector, hook := hook' } where
  grounded := grounded_start connector hook
  twin := rfl
  apparent := rfl

/-! ## Calls that the hook may wrap -/

/-- The call reads neither the hook nor the past, and adds the same to every past. -/
def Blind {α : Type} (call : World κ σ → α × World κ σ) : Prop :=
  ∀ w : World κ σ, ∃ events, ∀ hook trace,
    call (w.twin hook trace) = ((call w).1, (call w).2.twin hook (trace ++ events))

namespace Blind

variable {α : Type} {call : World κ σ → α × World κ σ}

/-- What a call does through the hook is the same for every hook, but for where the hook returns. -/
theorem detached (hcall : Blind call) (key : Nat) (hooked : Bool) (w : World κ σ) :
    ∃ (x : α) (w₁ : World κ σ) (seen : List Event), ∀ hook trace, ∃ events,
      World.detached key hooked call (w.twin hook trace) = (x, w₁.twin hook (trace ++ events)) ∧
        Scenario.apparent events = seen := by
  cases hooked with
  | false =>
    obtain ⟨events, hevents⟩ := hcall w
    exact ⟨_, _, _, fun hook trace => ⟨events, hevents hook trace, rfl⟩⟩
  | true =>
    let counted : World κ σ := { w with hookCalls := w.hookCalls + 1 }
    obtain ⟨events, hevents⟩ := hcall counted
    refine ⟨(call counted).1, (call counted).2, .hookEntered key :: Scenario.apparent events,
      fun hook trace => ?_⟩
    unfold World.detached
    rw [if_pos rfl, Detach.through_eq]
    split
    · have hrun := hevents hook (trace ++ [Event.hookEntered key] ++ [Event.hookLeft key])
      refine ⟨.hookEntered key :: .hookLeft key :: events, hrun.trans ?_, rfl⟩
      simp only [List.append_assoc, List.cons_append, List.nil_append]
    · have hrun : call ((w.twin hook trace).enterHook key) = _ :=
        hevents hook (trace ++ [Event.hookEntered key])
      refine ⟨.hookEntered key :: (events ++ [.hookLeft key]), ?_, ?_⟩
      · rw [hrun]
        simp [leaveHook, record, twin]
      · show Event.hookEntered key :: Scenario.apparent (events ++ [.hookLeft key]) = _
        rw [apparent_append]
        exact congrArg _ (List.append_nil _)

variable [WireSession σ]

theorem runSpan (key : Nat) (span : Connection σ → Span σ α) :
    Blind (World.runSpan key span : World κ σ → Aftermath α × World κ σ) := by
  intro w
  cases hc : w.connections[key]? with
  | none =>
    refine ⟨[], fun hook trace => ?_⟩
    have hc' : (w.twin hook trace).connections[key]? = none := hc
    rw [runSpan_of_none hc', runSpan_of_none hc, List.append_nil]
  | some c =>
    refine ⟨((span c).run c.guarded).exchanges.map (.exchanged key), fun hook trace => ?_⟩
    have hc' : (w.twin hook trace).connections[key]? = some c := hc
    rw [runSpan_of_some hc', runSpan_of_some hc]
    rfl

theorem establish [Connector κ σ] (key : Nat) (blocking : Bool) (dsn : String) :
    Blind (World.establish key blocking dsn : World κ σ → Aftermath Unit × World κ σ) := by
  intro w
  rcases h : Connector.connect blocking dsn w.connector with ⟨text | session, connector⟩
  · refine ⟨[.connected key blocking dsn (some text)], fun hook trace => ?_⟩
    have h' : Connector.connect blocking dsn (w.twin hook trace).connector =
        (.error text, connector) := h
    rw [establish_of_error h', establish_of_error h]
    rfl
  · obtain ⟨events, hevents⟩ := runSpan key (openingSpan session blocking)
      ({ w with connector }.record (.connected key blocking dsn none))
    refine ⟨.connected key blocking dsn none :: events, fun hook trace => ?_⟩
    have h' : Connector.connect blocking dsn (w.twin hook trace).connector =
        (.ok session, connector) := h
    have hrun := hevents hook (trace ++ [Event.connected key blocking dsn none])
    rw [List.append_assoc] at hrun
    rw [establish_of_ok h', establish_of_ok h]
    exact hrun

end Blind

/-! ## The coupling -/

namespace Indistinct

/-- A call through the hook answers the same in both worlds. -/
theorem detached {α : Type} {call : World κ σ → α × World κ σ} (hcall : Blind call)
    (h : w.Indistinct w') (key : Nat) (hooked : Bool)
    (hgrounded : (World.detached key hooked call w).2.Grounded) :
    (World.detached key hooked call w).1 = (World.detached key hooked call w').1 ∧
      (World.detached key hooked call w).2.Indistinct (World.detached key hooked call w').2 := by
  obtain ⟨x, w₁, seen, hrun⟩ := hcall.detached key hooked w
  obtain ⟨events, hevents, hseen⟩ := hrun w.hook w.trace
  obtain ⟨events', hevents', hseen'⟩ := hrun w'.hook w'.trace
  have hself : w.twin w.hook w.trace = w := rfl
  rw [← h.twin] at hevents'
  rw [hself] at hevents
  rw [hevents] at hgrounded ⊢
  rw [hevents']
  refine ⟨rfl, hgrounded, rfl, ?_⟩
  show Scenario.apparent (w'.trace ++ events') = Scenario.apparent (w.trace ++ events)
  rw [apparent_append, apparent_append, h.apparent, hseen, hseen']

variable [WireSession σ] [Connector κ σ]

instance coupling : Coupling (Indistinct : World κ σ → World κ σ → Prop) where
  twin := Indistinct.twin
  grounded := Indistinct.grounded
  furnish := fun h hfurnishes hgrounded =>
    { grounded := hgrounded
      twin := rfl
      apparent := h.apparent.trans (congrArg _ hfurnishes.trace.symm) }
  record := fun {w w' event} h _ =>
    { grounded := (HoldsOn.record w event).grounded h.grounded
      twin := by
        rw [h.twin]
        rfl
      apparent := by
        show Scenario.apparent (w'.trace ++ [event]) = Scenario.apparent (w.trace ++ [event])
        rw [apparent_append, apparent_append, h.apparent] }
  operating := fun {w w'} key op h =>
    detached (.runSpan key _) h key _ ((HoldsOn.operating w key _ op).grounded h.grounded)
  opening := fun {w w'} dsn asynchronous settings hooked h => by
    have hlength : w'.connections.length = w.connections.length := by
      rw [h.twin]
      rfl
    have hgrounded := (HoldsOn.opening w dsn asynchronous settings hooked).grounded h.grounded
    have hcreated : (w.creating dsn asynchronous settings hooked).Indistinct
        (w'.creating dsn asynchronous settings hooked) := by
      refine ⟨(HoldsOn.creating w dsn asynchronous settings hooked).grounded h.grounded, ?_, h.apparent⟩
      rw [h.twin]
      rfl
    unfold World.opening at hgrounded ⊢
    rw [hlength]
    exact detached (.establish _ _ dsn) hcreated _ _ hgrounded

end Indistinct

/-! ## Reports -/

variable [WireSession σ] [Connector κ σ]

omit [WireSession σ] in
/-- The log of the calls on the wire does not show where the hook returned. -/
theorem callLog_apparent (connector : κ) (events : List Event) :
    callLog connector (apparent events) = callLog connector events := by
  unfold callLog apparent
  rw [List.filterMap_filter]
  congr 1
  funext event
  cases event <;> rfl

/-- What happened since then is the same but for where the hook returned. -/
theorem apparent_drop {before before' after after' : List Event} (hbefore : before <+: after)
    (hbefore' : before' <+: after') (hsame : apparent before' = apparent before)
    (hafter : apparent after' = apparent after) :
    apparent (after'.drop before'.length) = apparent (after.drop before.length) := by
  obtain ⟨events, rfl⟩ := hbefore
  obtain ⟨events', rfl⟩ := hbefore'
  rw [apparent_append, apparent_append, hsame] at hafter
  rw [List.drop_left, List.drop_left]
  exact List.append_cancel_left hafter

theorem conducts_fire (depth : Nat) : Conducts Reached (fire depth : Reactor κ σ) :=
  conducts_of_attends (attends_fire (fun _ => conducts_of_attends) depth)

theorem prefix_trace_step (depth : Nat) (s : Step) (w : World κ σ) :
    w.trace <+: ((step (fire depth) s).run w).2.trace :=
  Reached.prefix_trace (keeps_act (conducts_fire depth) s.slot s.action w)

/-- What is reported about a step is the same in both worlds. -/
theorem Indistinct.report (h : w.Indistinct w') (depth : Nat) (s : Step) :
    ((World.report (fire depth) s).run w').1.apparent = ((World.report (fire depth) s).run w).1.apparent ∧
      ((World.report (fire depth) s).run w).2.Indistinct ((World.report (fire depth) s).run w').2 := by
  obtain ⟨hsame, hafter, -⟩ := coupled_act (S := Indistinct) (coupled_fire depth) s.slot s.action w w' h
    (Nat.zero_le _)
  have hevents := apparent_drop (prefix_trace_step depth s w) (prefix_trace_step depth s w') h.apparent
    hafter.apparent
  have htwin := hafter.twin
  have hrun : ∀ w : World κ σ, (World.report (fire depth) s).run w =
      let stepped := (step (fire depth) s).run w
      ({ reply := stepped.1
         summary := stepped.2.summary? s.slot
         events := stepped.2.trace.drop w.trace.length
         hookCalls := stepped.2.hookCalls }, stepped.2) := fun _ => rfl
  refine ⟨?_, hafter⟩
  rw [hrun, hrun]
  unfold step at hevents ⊢
  simp only [Report.apparent, Report.mk.injEq]
  refine ⟨hsame.symm, ?_, hevents, ?_⟩
  · rw [htwin]
    rfl
  · rw [htwin]
    rfl

/-- So are the reports about all steps. -/
theorem Indistinct.reports (h : w.Indistinct w') (depth : Nat) (steps : List Step) :
    ((steps.mapM (World.report (fire depth))).run w').1.map Report.apparent =
        ((steps.mapM (World.report (fire depth))).run w).1.map Report.apparent ∧
      ((steps.mapM (World.report (fire depth))).run w).2.Indistinct
        ((steps.mapM (World.report (fire depth))).run w').2 := by
  induction steps generalizing w w' with
  | nil => exact ⟨rfl, h⟩
  | cons s rest ih =>
    obtain ⟨hreport, hafter⟩ := h.report depth s
    obtain ⟨hreports, hlast⟩ := ih hafter
    rw [List.mapM_cons]
    exact ⟨List.cons_eq_cons.2 ⟨hreport, hreports⟩, hlast⟩

theorem prefix_trace_letGo (depth : Nat) (w : World κ σ) :
    w.trace <+: ((letGo (fire depth)).run w).2.trace :=
  Reached.prefix_trace (keeps_letGo (conducts_fire depth).releases w)

/-- Two scenarios of the same steps with different hooks show the same: every guarded span runs exactly
once and yields what it yields without a hook; and after any number of steps, and at the end, all answers
and summaries and the numbers of hook calls are the same, all connections, cursors and listeners are in
the same state, and the same events have happened in the same order, calls on the wire and callbacks
among them, but for where the hook returned. -/
theorem hook_makes_no_difference (connector : κ) (hook hook' : Nat → Nat) :
    (∀ (α β : Type) (span : α → β × α) (x : α) (n : Nat),
      ((Detach.Attempt.start span x).invokeTimes n).conclude = some (span x)) ∧
    (∀ (α β : Type) (span : α → β × α) (l : Detach.Lock α),
      l.holdDetached span =
        ((span l.value).1, { l with value := (span l.value).2, calls := l.calls + 1 })) ∧
    (∀ (depth : Nat) (steps : List Step),
      let run := fun hook =>
        (steps.mapM (World.report (fire depth))).run ({ connector, hook } : World κ σ)
      (run hook').1.map Report.apparent = (run hook).1.map Report.apparent ∧
        (run hook).2.Indistinct (run hook').2) ∧
    ∀ steps : List Step,
      let run := fun hook => (play steps).run ({ connector, hook } : World κ σ)
      (run hook').1.1.map Report.apparent = (run hook).1.1.map Report.apparent ∧
        apparent (run hook').1.2 = apparent (run hook).1.2 ∧
        callLog connector (run hook').2.trace = callLog connector (run hook).2.trace ∧
        (run hook).2.Indistinct (run hook').2 := by
  have hstart : ({ connector, hook } : World κ σ).Indistinct { connector, hook := hook' } :=
    indistinct_start connector hook hook'
  refine ⟨fun _ _ => Detach.Attempt.conclude_invokeTimes, fun _ _ => Detach.Lock.holdDetached_eq,
    fun depth steps => hstart.reports depth steps, fun steps => ?_⟩
  obtain ⟨hreports, hreported⟩ := hstart.reports (stepFirings steps) steps
  obtain ⟨-, hlast, -⟩ := coupled_letGo (coupled_fire (stepFirings steps)) _ _ hreported (Nat.zero_le _)
  have hevents := apparent_drop (prefix_trace_letGo (stepFirings steps) _)
    (prefix_trace_letGo (stepFirings steps) _) hreported.apparent hlast.apparent
  refine ⟨hreports, hevents, ?_, hlast⟩
  have hlog := congrArg (callLog connector) hlast.apparent
  rwa [callLog_apparent, callLog_apparent] at hlog

end World

end Scenario

end SessionLayer
