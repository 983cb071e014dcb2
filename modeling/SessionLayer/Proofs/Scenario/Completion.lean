import SessionLayer.Proofs.Scenario.History
import SessionLayer.Wire.Script

/-!
# Every accepted statement is ended once

A statement that was accepted is in flight until its outcome is brought by a poll or it is cancelled
because the connection is closed; so says the career of its connection. From there an outcome goes to
the debts and then into the deliveries: `Ledger.Balanced` says that none is lost or doubled on the way,
and `Ledger.Shown` that the deliveries of the history are those of the trace.
-/

set_option autoImplicit false

namespace SessionLayer

/-! ## How an outcome is come by -/

/-- The outcome was come by in the exchanges of the operation: the session gave all its results one after
the other, or the transport failed before the first one was asked for. -/
inductive Performance.Yields {σ : Type} (p : Performance σ) : Except Fault (List QueryResult) → Prop
  | results (before after : List Exchange) (results : List QueryResult) :
      p.outcome.exchanges = before ++ Span.fetchExchanges results ++ after →
      (∀ x ∈ before ++ after, x.call ≠ .getResult) → Yields p (collectOutcome results)
  | failure (text : String) : (∀ x ∈ p.outcome.exchanges, x.call ≠ .getResult) →
      Yields p (.error (.transport text))

/-- Where no statement was rejected, the outcome is all results. -/
theorem collectOutcome_eq_ok {results : List QueryResult} (h : ∀ r ∈ results, r.isError = false) :
    collectOutcome results = .ok results := by
  have hnone : results.find? (·.isError) = none := by
    rw [List.find?_eq_none]
    intro r hr
    rw [h r hr]
    exact Bool.false_ne_true
  rw [collectOutcome, hnone]
  rfl

namespace Connection

variable {σ : Type} [WireSession σ] {c : Connection σ}

theorem yields_performance (h : c.guarded.Settled c.asynchronous) {op : Operation}
    {completion : Completion} (hcompletion : (c.performance op).outcome.completion = some completion) :
    op = .poll ∧ (c.performance op).Yields completion.outcome := by
  obtain ⟨rfl, xs, messages, hexchanges, hmessages, hcollected⟩ := collected_perform h hcompletion
  refine ⟨rfl, ?_⟩
  generalize (c.perform .poll).result = r at hcollected
  generalize completion.outcome = outcome at hcollected
  have hfailed : ∀ x : Exchange, xs = [x] → x.call ≠ .getResult →
      ∀ y ∈ (c.perform .poll).exchanges, y.call ≠ .getResult := by
    rintro x rfl hx y hy
    rw [hexchanges] at hy
    rcases List.mem_append.1 hy with hy | hy
    · rw [List.mem_singleton.1 hy]
      exact hx
    · exact hmessages y hy
  cases hcollected with
  | completed results =>
    refine .results _ messages results hexchanges fun x hx => ?_
    simp only [List.cons_append, List.nil_append, List.mem_cons] at hx
    rcases hx with rfl | rfl | hx
    · exact fun h => Call.noConfusion h
    · exact fun h => Call.noConfusion h
    · exact hmessages x hx
  | unwritten text => exact .failure text (hfailed _ rfl fun h => Call.noConfusion h)
  | unread text => exact .failure text (hfailed _ rfl fun h => Call.noConfusion h)

end Connection

namespace Scenario

namespace Ledger

open World

variable {κ σ : Type} {L L' : Ledger κ σ}

/-! ## Outcomes between a span and their delivery -/

/-- Every outcome that a span has brought was handed over once, or is still owed. -/
def Balanced (L : Ledger κ σ) : Prop :=
  L.completions.Perm (L.delivered.map Prod.fst ++ L.owed)

/-- The deliveries of the history are those of the trace, and each was made to the owner or, where
nothing held the owner any more, to nobody. -/
structure Shown (L : Ledger κ σ) : Prop where
  listenerHeld : ∀ key, L.world.listenerHeld key → key < L.world.listeners.length
  deliveries : L.world.deliveries =
    L.delivered.map fun delivery => { owner := delivery.2, outcome := delivery.1.outcome }
  recipient : ∀ delivery ∈ L.delivered,
    delivery.2 = delivery.1.owner ∨ delivery.2 = .departed

theorem completions_concat {entry : Entry σ} (h : L'.history = L.history ++ [entry]) :
    L'.completions = L.completions ++ entry.completion?.toList := by
  rw [completions, h, filterMap_concat, completions]

theorem delivered_concat {entry : Entry σ} (h : L'.history = L.history ++ [entry]) :
    L'.delivered = L.delivered ++ entry.delivery?.toList := by
  rw [delivered, h, filterMap_concat, delivered]

theorem owed_append {debts : List Debt} (h : L'.debts = debts ++ L.debts) :
    L'.owed = debts.filterMap Debt.outcome? ++ L.owed := by
  rw [owed, h, List.filterMap_append, owed]

theorem outcomes_outcomeDebt (p : Performance σ) :
    (outcomeDebt p).filterMap Debt.outcome? = p.outcome.completion.toList := by
  unfold outcomeDebt
  cases p.outcome.completion <;> rfl

/-- A refusal owes nothing to the owners of statements. -/
theorem outcomes_refusalDebt (key : Nat) (state : CursorState) (result : Except Fault Unit) :
    (refusalDebt key state result).filterMap Debt.outcome? = [] := by
  cases result <;> rfl

/-- An outcome that is brought is owed. -/
theorem Balanced.bring (h : L.Balanced) {completion : Option Completion}
    (hcompletions : L'.completions = L.completions ++ completion.toList)
    (hdelivered : L'.delivered = L.delivered) (howed : L'.owed = completion.toList ++ L.owed) :
    L'.Balanced := by
  have hperm : (L.completions ++ completion.toList).Perm
      (completion.toList ++ (L.delivered.map Prod.fst ++ L.owed)) :=
    List.perm_append_comm.trans (h.append_left _)
  rw [Balanced, hcompletions, hdelivered, howed]
  refine hperm.trans ?_
  rw [← List.append_assoc, ← List.append_assoc]
  exact List.perm_append_comm.append_right _

/-- An outcome that is handed over is owed no more. -/
theorem Balanced.hand {completion : Completion} {recipient : QueryOwner} (h : L.Balanced)
    (hhistory : L'.history = L.history ++ [.delivered completion recipient])
    (howed : L.owed = completion :: L'.owed) : L'.Balanced := by
  have hcompletions : L'.completions = L.completions := by
    rw [completions_concat hhistory]
    exact List.append_nil _
  have hdelivered : L'.delivered = L.delivered ++ [(completion, recipient)] := by
    rw [delivered_concat hhistory]
    rfl
  rw [Balanced, howed] at h
  rw [Balanced, hcompletions, hdelivered, List.map_append, List.append_assoc]
  exact h

theorem Shown.of_calm (h : L.Shown) (hcalm : L.world.Calm L'.world)
    (hdelivered : L'.delivered = L.delivered) : L'.Shown where
  listenerHeld := by
    intro key hheld
    rcases hcalm.listenerHeld key hheld with hheld | hlt
    · exact Nat.lt_of_lt_of_le (h.listenerHeld key hheld) hcalm.length_listeners
    · exact hlt
  deliveries := by rw [hcalm.deliveries, h.deliveries, hdelivered]
  recipient := hdelivered ▸ h.recipient

theorem deliveries_record (w : World κ σ) (event : Event) :
    (w.record event).deliveries = w.deliveries ++ event.delivery?.toList := by
  rw [deliveries, record, filterMap_concat, deliveries]

/-- The trace tells of a delivery to whom it was made. -/
theorem deliveries_handing {w : World κ σ}
    (hheld : ∀ key, w.listenerHeld key → key < w.listeners.length) (completion : Completion) :
    (w.handing completion).deliveries =
      w.deliveries ++ [{ owner := w.recipient completion.owner, outcome := completion.outcome }] := by
  unfold handing
  cases hrecipient : w.recipient completion.owner with
  | cursor key =>
    rw [deliveries_record]
    rfl
  | departed =>
    rw [deliveries_record]
    rfl
  | listener key =>
    have hlistener : w.listenerHeld key := by
      unfold World.recipient at hrecipient
      split at hrecipient
      · split at hrecipient <;> exact nomatch hrecipient
      · split at hrecipient
        · cases hrecipient
          assumption
        · exact nomatch hrecipient
      · exact nomatch hrecipient
    obtain ⟨l, hexists⟩ : ∃ l, w.listeners[key]? = some l :=
      ⟨_, List.getElem?_eq_getElem (hheld key hlistener)⟩
    have hannounced : (w.announce key (.complete completion.outcome)).deliveries =
        (w.record (.signalled key l.id (.complete completion.outcome))).deliveries := by
      rw [announce, hexists]
      rfl
    rw [hannounced, deliveries_record]
    rfl

theorem Shown.hand {completion : Completion} (h : L.Shown)
    (hworld : L'.world = L.world.handing completion)
    (hhistory : L'.history = L.history ++
      [.delivered completion (L.world.recipient completion.owner)]) : L'.Shown where
  listenerHeld := by
    rw [hworld]
    unfold handing
    split
    · exact h.listenerHeld
    · intro key hheld
      rw [length_listeners_announce]
      refine h.listenerHeld key ?_
      unfold announce at hheld
      split at hheld <;> exact hheld
    · exact h.listenerHeld
  deliveries := by
    rw [hworld, deliveries_handing h.listenerHeld, h.deliveries, delivered_concat hhistory,
      List.map_append]
    rfl
  recipient := by
    intro delivery hmem
    rw [delivered_concat hhistory] at hmem
    rcases List.mem_append.1 hmem with hmem | hmem
    · exact h.recipient delivery hmem
    · rw [List.mem_singleton.1 hmem]
      exact recipient_eq_or _ _

variable [WireSession σ] [Connector κ σ]

theorem Turn.balanced (h : Turn L L') (hL : L.Balanced) : L'.Balanced := by
  cases h with
  | resting w hstill => exact hL
  | opening dsn asynchronous settings hooked => exact hL
  | performing key hooked op c hc =>
    refine hL.bring (completions_concat rfl) ?_ ?_
    · rw [delivered_concat (L := L) rfl]
      exact List.append_nil _
    · rw [owed_append (L := L) rfl, outcomes_outcomeDebt]
      rfl
  | executing key cursor hooked sql c hcursor hc ha =>
    refine hL.bring (completions_concat rfl) ?_ ?_
    · rw [delivered_concat (L := L) rfl]
      exact List.append_nil _
    · have hdebts : (L.executing key cursor hooked sql c).debts =
          (outcomeDebt (c.performance (.submit sql (.cursor key))) ++
            refusalDebt key cursor.state (c.perform (.submit sql (.cursor key))).result) ++ L.debts :=
        (List.append_assoc ..).symm
      rw [owed_append hdebts, List.filterMap_append, outcomes_outcomeDebt, outcomes_refusalDebt,
        List.append_nil]
      rfl
  | restoring key state debts hdebts =>
    have hcompletions : (L.restoring key state debts).completions =
        L.completions ++ (none : Option Completion).toList := by
      rw [completions_concat (L := L) rfl]
      rfl
    refine hL.bring hcompletions ?_ ?_
    · rw [delivered_concat (L := L) rfl]
      exact List.append_nil _
    · rw [owed, owed, hdebts]
      rfl
  | delivering completion debts hdebts =>
    refine hL.hand rfl ?_
    rw [owed, owed, hdebts]
    rfl
  | storing key cursor c outcome hcursor hc ha => exact hL

theorem Turn.shown (h : Turn L L') (hL : L.Shown) : L'.Shown := by
  cases h with
  | resting w hstill => exact hL.of_calm hstill.toCalm rfl
  | opening dsn asynchronous settings hooked => exact hL.of_calm (calm_opening _ _ _ _ _) rfl
  | performing key hooked op c hc =>
    refine hL.of_calm (calm_operating _ key hooked op) ?_
    rw [delivered_concat rfl]
    exact List.append_nil _
  | executing key cursor hooked sql c hcursor hc ha =>
    have hstarted : Shown { L with world := L.world.modifyCursor key Cursor.started } :=
      ⟨hL.listenerHeld, hL.deliveries, hL.recipient⟩
    refine hstarted.of_calm (calm_operating _ cursor.connection hooked _) ?_
    rw [delivered_concat rfl]
    exact List.append_nil _
  | restoring key state debts hdebts =>
    have hdelivered : (L.restoring key state debts).delivered = L.delivered := by
      rw [delivered_concat (L := L) rfl]
      exact List.append_nil _
    exact ⟨hL.listenerHeld, by rw [hdelivered]; exact hL.deliveries,
      by rw [hdelivered]; exact hL.recipient⟩
  | delivering completion debts hdebts => exact hL.hand rfl rfl
  | storing key cursor c outcome hcursor hc ha => exact ⟨hL.listenerHeld, hL.deliveries, hL.recipient⟩

theorem Reached.balanced (h : Ledger.Reached L L') (hL : L.Balanced) : L'.Balanced := by
  induction h with
  | refl => exact hL
  | tail _ hturn ih => exact hturn.balanced ih

theorem Reached.shown (h : Ledger.Reached L L') (hL : L.Shown) : L'.Shown := by
  induction h with
  | refl => exact hL
  | tail _ hturn ih => exact hturn.shown ih

/-- What is true of an opened connection, whatever happened: every statement that was accepted on it was
ended once, in the order of acceptance, but for the last one, which may be in flight. -/
theorem Told.accepted_eq {key : Nat} {c : Connection σ} (h : L.Told key c) :
    (L.performances key).filterMap Performance.accepted? =
      ((L.performances key).filterMap Performance.ended?).map Ending.owner
        ++ c.guarded.owner?.toList := by
  obtain ⟨-, -, -, session, -, hsettled, hcareer, -⟩ := h
  exact hcareer.accepted_eq hsettled (c.owner?_opened session)

theorem Told.yields {key : Nat} {c : Connection σ} (h : L.Told key c) {p : Performance σ}
    (hp : p ∈ L.performances key) {completion : Completion}
    (hcompletion : p.outcome.completion = some completion) :
    p.operation = .poll ∧ p.Yields completion.outcome := by
  obtain ⟨-, -, -, session, -, hsettled, hcareer, -⟩ := h
  obtain ⟨g, op, hg, rfl⟩ := hcareer.settled_of_mem hsettled hp
  have hbefore : (c.withGuarded g).guarded.Settled (c.withGuarded g).asynchronous := hg
  exact Connection.yields_performance hbefore hcompletion

/-- Statements that are accepted are ended once each.

In every ledger that can be reached: on every connection that was opened, all exchanges with the
session are those of opening it and of the operations on it; and the statements that were accepted are,
in this order, those that were completed or cancelled, and the one that is in flight. A statement is
completed by a poll, with the results that it collected. The outcomes of all statements that were
completed are those that were handed over, once each, and those that are still owed; and they were
handed over to their owners, or to nobody where the owner was gone.

Scenarios and listeners, however deep they nest, get from each ledger to one that can be reached from
it, and owe nothing in the end that they did not owe before; and every operation that is performed is
entered into the history with the result that it has. -/
theorem accepted_statements_end_once (connector : κ) (hook : Nat → Nat) :
    (∀ L : Ledger κ σ, Ledger.Reached (.start connector hook) L →
      (∀ (key : Nat) (c : Connection σ), L.world.connections[key]? = some c → L.world.Opened key →
        (∃ session, L.world.exchanges key =
          (c.opened session).exchanges ++ (L.performances key).flatMap (·.outcome.exchanges)) ∧
        (L.performances key).filterMap Performance.accepted? =
          ((L.performances key).filterMap Performance.ended?).map Ending.owner
            ++ c.guarded.owner?.toList ∧
        ∀ p ∈ L.performances key, ∀ completion, p.outcome.completion = some completion →
          p.operation = .poll ∧ p.Yields completion.outcome) ∧
      L.completions.Perm (L.delivered.map Prod.fst ++ L.owed) ∧
      L.world.deliveries =
        L.delivered.map (fun delivery => { owner := delivery.2, outcome := delivery.1.outcome }) ∧
      ∀ delivery ∈ L.delivered, delivery.2 = delivery.1.owner ∨ delivery.2 = .departed) ∧
    (∀ results, (∀ r ∈ results, r.isError = false) → collectOutcome results = .ok results) ∧
    (∀ (steps : List Step) (w : World κ σ), w.Ledgers ((play steps).run w).2) ∧
    (∀ depth, Attends Ledgers (fire depth : Reactor κ σ)) ∧
    ∀ react : Reactor κ σ, Attends Ledgers react → ∀ (w : World κ σ) (key : Nat) (c : Connection σ),
      w.connections[key]? = some c → ∀ op : Operation,
        ((perform react key op).run w).1 = (c.perform op).result ∧
        ∀ debts history, ∃ more, Ledger.Reached { world := w, debts, history }
          { world := ((perform react key op).run w).2
            debts
            history := history ++ .performed key (c.performance op) :: more } := by
  refine ⟨fun L hL => ?_, fun _ => collectOutcome_eq_ok, fun steps => ledgers_play steps,
    attends_ledgers, ?_⟩
  · have hfaithful := hL.faithful (.start connector hook)
    have hbalanced := hL.balanced (List.Perm.refl [])
    have hshown := hL.shown ⟨nofun, rfl, nofun⟩
    refine ⟨fun key c hc hopened => ?_, hbalanced, hshown.deliveries, hshown.recipient⟩
    have htold := hfaithful.told key c hc hopened
    have ⟨_, _, _, session, _, _, _, hexchanges⟩ := htold
    exact ⟨⟨session, hexchanges⟩, htold.accepted_eq, fun p hp completion => htold.yields hp⟩
  · intro react hreact w key c hc op
    exact ⟨fst_perform react hc op, perform_entered hreact hc op⟩

/-- Of two statements that were accepted one was completed and the other one cancelled; a third one,
which was submitted in between, was refused and never ended. -/
theorem accepted_statements_end_once_cancelled :
    let start : Ledger Script ScriptedSession := .start {} fun _ => 1
    let ops : List Operation := List.replicate 7 .poll ++ [.submit "SELECT 1" (.listener 0), .poll,
      .submit "SELECT 2" (.listener 1), .submit "SELECT 3" (.listener 2), .close]
    let L := ops.foldl (performOn · 0) (start.openNext true)
    Reached start L ∧ L.world.Opened 0 ∧
      (L.performances 0).filterMap Performance.accepted? = [.listener 0, .listener 1] ∧
      ((L.performances 0).filterMap Performance.ended?).map Ending.owner = [.listener 0, .listener 1] ∧
      L.completions.Perm (L.delivered.map Prod.fst ++ L.owed) := by
  intro start ops L
  have hreached : Reached start L :=
    (reached_openNext start true).trans (reached_foldl_performOn _ 0 ops)
  have hconnected : L.world.Opened 0 := by decide +kernel
  have haccepted : (L.performances 0).filterMap Performance.accepted? = [.listener 0, .listener 1] := by
    decide +kernel
  have howners : L.world.connections.map (·.guarded.owner?) = [none] := by decide +kernel
  obtain ⟨c, hconnections, howner⟩ := List.map_eq_singleton_iff.1 howners
  have hc : L.world.connections[0]? = some c := by rw [hconnections]; rfl
  obtain ⟨hopenings, hbalanced, -⟩ := (accepted_statements_end_once _ _).1 L hreached
  obtain ⟨-, hends, -⟩ := hopenings 0 c hc hconnected
  rw [howner, Option.toList_none, List.append_nil, haccepted] at hends
  exact ⟨hreached, hconnected, haccepted, hends.symm, hbalanced⟩

end Ledger

end Scenario

end SessionLayer
