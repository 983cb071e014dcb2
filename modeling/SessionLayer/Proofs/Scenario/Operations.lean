import SessionLayer.Proofs.Scenario.Course
import SessionLayer.Proofs.Span.Ends

/-!
# What an operation does to its connection

`World.exchanges` are the exchanges with the session of one connection, as the trace tells them. An
operation changes its connection as its span does (`Connection.after`) and adds the exchanges of the
span, provided that no listener calls back into the connection. There are three such cases: the reactor
spares the connection, its observers are discreet, or nobody observes it.
-/

set_option autoImplicit false

namespace SessionLayer

/-- The connection after a span and the delivery of what the span left to be delivered. -/
def Connection.after {σ α : Type} (c : Connection σ) (outcome : SpanOutcome σ α) : Connection σ :=
  { c with guarded := outcome.guarded, mailbox := c.mailbox.store outcome.batch }

namespace Scenario

/-- The exchange with the session of a connection that an event tells of. -/
def Event.exchangeOf? (key : Nat) : Event → Option Exchange
  | .exchanged k exchange => if k = key then some exchange else none
  | _ => none

namespace World

variable {κ σ : Type}

/-- The exchanges with the session of a connection so far. -/
def exchanges (w : World κ σ) (key : Nat) : List Exchange :=
  w.trace.filterMap (Event.exchangeOf? key)

variable {w w' w₁ w₂ : World κ σ} {key : Nat} {c : Connection σ}

theorem exchanges_append {events : List Event} (htrace : w'.trace = w.trace ++ events) :
    w'.exchanges key = w.exchanges key ++ events.filterMap (Event.exchangeOf? key) := by
  rw [exchanges, htrace, List.filterMap_append]
  rfl

/-- The only connection of a world, with what is known of it. -/
theorem exists_connection_of_map {α : Type} {f : Connection σ → α} {x : α}
    (h : w.connections.map f = [x]) : ∃ c, w.connections[0]? = some c ∧ f c = x := by
  obtain ⟨c, hconnections, hx⟩ := List.map_eq_singleton_iff.1 h
  refine ⟨c, ?_, hx⟩
  rw [hconnections]
  rfl

/-- Worlds that are alike have seen the same exchanges. -/
theorem Alike.exchanges_eq (h : w.Alike w') (key : Nat) : w'.exchanges key = w.exchanges key := by
  obtain ⟨events, htrace, hquiet⟩ := h.trace
  have hnone : events.filterMap (Event.exchangeOf? key) = [] := by
    rw [List.filterMap_eq_nil_iff]
    intro event hmem
    have hevent := hquiet event hmem
    cases event with
    | exchanged k exchange => exact nomatch hevent
    | _ => rfl
  rw [exchanges_append htrace, hnone, List.append_nil]

theorem filterMap_exchanged (key : Nat) (xs : List Exchange) :
    (xs.map (Event.exchanged key)).filterMap (Event.exchangeOf? key) = xs := by
  induction xs with
  | nil => rfl
  | cons x xs ih =>
    rw [List.map_cons, List.filterMap_cons, ih]
    simp only [Event.exchangeOf?, if_true]

/-- The connection has not been touched but for its mailbox, and no call was made on its session. -/
structure AlikeAt (key : Nat) (w w' : World κ σ) : Prop where
  connection : ∀ c : Connection σ, w.connections[key]? = some c → ∃ mailbox,
    w'.connections[key]? = some { c with mailbox }
  exchanges : w'.exchanges key = w.exchanges key

namespace AlikeAt

theorem refl (key : Nat) (w : World κ σ) : AlikeAt key w w where
  connection := fun c hc => ⟨c.mailbox, hc⟩
  exchanges := rfl

theorem trans (h : AlikeAt key w w₁) (h' : AlikeAt key w₁ w₂) : AlikeAt key w w₂ where
  connection := by
    intro c hc
    obtain ⟨mailbox, hc₁⟩ := h.connection c hc
    obtain ⟨mailbox', hc₂⟩ := h'.connection _ hc₁
    exact ⟨mailbox', hc₂⟩
  exchanges := h'.exchanges.trans h.exchanges

theorem of_alike (h : w.Alike w') (key : Nat) : AlikeAt key w w' where
  connection := h.connection key
  exchanges := h.exchanges_eq key

end AlikeAt

instance AlikeAt.course (key : Nat) : Course (AlikeAt key : World κ σ → World κ σ → Prop) where
  refl := .refl key
  trans := .trans
  quiet := fun h => .of_alike h key

/-- No listener calls back into the connection. -/
def Spares (react : Reactor κ σ) (key : Nat) : Prop :=
  ∀ listener signal, Keeps (AlikeAt key) (react listener signal)

variable [WireSession σ]

/-! ## Spans -/

theorem exchanges_runSpan {α : Type} (hc : w.connections[key]? = some c)
    (span : Connection σ → Span σ α) :
    (w.runSpan key span).2.exchanges key =
      w.exchanges key ++ ((span c).run c.guarded).exchanges := by
  have htrace : (w.runSpan key span).2.trace =
      w.trace ++ ((span c).run c.guarded).exchanges.map (.exchanged key) := by
    rw [runSpan_of_some hc]
  rw [exchanges_append htrace, filterMap_exchanged]

/-- What a span leaves behind, be it wrapped in the hook or not. -/
theorem detached_runSpan {α : Type} (hc : w.connections[key]? = some c) (hooked : Bool)
    (span : Connection σ → Span σ α) :
    ∃ w', detached key hooked (runSpan key span) w =
        ({ result := ((span c).run c.guarded).result
           batch := ((span c).run c.guarded).batch
           completion := ((span c).run c.guarded).completion }, w') ∧
      w'.connections[key]? = some { c with guarded := ((span c).run c.guarded).guarded } ∧
      w'.exchanges key = w.exchanges key ++ ((span c).run c.guarded).exchanges := by
  obtain ⟨w₁, hbefore, hconnections, hresult, hafter, hkept⟩ :=
    detached_eq key hooked (runSpan key span) w
  have hc₁ : w₁.connections[key]? = some c := by rw [hconnections, hc]
  refine ⟨_, Prod.ext ?_ rfl, ?_, ?_⟩
  · rw [hresult, runSpan_of_some hc₁]
  · rw [hkept, connection_runSpan_self hc₁]
  · rw [hafter.exchanges_eq, exchanges_runSpan hc₁, hbefore.exchanges_eq]

/-! ## Operations -/

theorem exchanges_operating_self (hc : w.connections[key]? = some c) (hooked : Bool) (op : Operation) :
    (w.operating key hooked op).exchanges key = w.exchanges key ++ (c.perform op).exchanges := by
  obtain ⟨w₁, hspan, -, hsaid⟩ := detached_runSpan hc hooked (·.span op)
  have hw₁ : w.operating key hooked op = w₁ := by rw [World.operating, hspan]
  rw [hw₁]
  exact hsaid

variable {react : Reactor κ σ}

/-- An operation on a connection into which no listener calls back. -/
theorem perform_of_spares (hreact : Spares react key) (hc : w.connections[key]? = some c)
    (op : Operation) :
    ∃ w' mailbox, (perform react key op).run w = ((c.perform op).result, w') ∧
      w'.connections[key]? = some { c with guarded := (c.perform op).guarded, mailbox } ∧
      w'.exchanges key = w.exchanges key ++ (c.perform op).exchanges := by
  obtain ⟨hooked, hrun⟩ := perform_run react key op w
  obtain ⟨w₁, hspan, hc₁, hexchanges⟩ := detached_runSpan hc hooked (·.span op)
  rw [hspan] at hrun
  simp only [fst_conclude] at hrun
  generalize haftermath : ({ result := _, batch := _, completion := _ } : Aftermath op.Answer) = a
    at hrun
  have hconcluded : AlikeAt key w₁ ((conclude react key a).run w₁).2 := keeps_conclude hreact key a w₁
  have hfinal : AlikeAt key w₁ (if op = .close then
      clearMailbox key ((conclude react key a).run w₁).2 else ((conclude react key a).run w₁).2) := by
    split
    · exact hconcluded.trans (.of_alike (.modifyConnection _ key fun c => ⟨_, rfl⟩) key)
    · exact hconcluded
  obtain ⟨mailbox, hmailbox⟩ := hfinal.connection _ hc₁
  refine ⟨_, mailbox, hrun.trans ?_, hmailbox, ?_⟩
  · rw [← haftermath]
    rfl
  · rw [hfinal.exchanges, hexchanges]
    rfl

/-- The span of another connection. -/
theorem alikeAt_runSpan_of_ne {α : Type} {other : Nat} (hother : other ≠ key)
    (span : Connection σ → Span σ α) (w : World κ σ) : AlikeAt key w (w.runSpan other span).2 where
  connection := by
    intro c hc
    refine ⟨c.mailbox, ?_⟩
    rw [connection_runSpan_of_ne w hother.symm, hc]
  exchanges := by
    obtain ⟨xs, htrace⟩ := w.trace_runSpan other span
    have hnone : (xs.map (Event.exchanged other)).filterMap (Event.exchangeOf? key) = [] := by
      rw [List.filterMap_eq_nil_iff]
      intro event hmem
      obtain ⟨x, -, rfl⟩ := List.mem_map.1 hmem
      exact if_neg hother
    rw [exchanges_append htrace, hnone, List.append_nil]

/-- An operation on another connection does not touch this one. -/
theorem keeps_perform_of_ne (hreact : Spares react key) {other : Nat} (hother : other ≠ key)
    (op : Operation) : Keeps (AlikeAt key) (perform react other op) := by
  unfold perform
  refine .bind_get fun w₀ => ?_
  refine .bind (fun w => ?_) fun aftermath => .bind (keeps_conclude hreact other aftermath) ?_
  · obtain ⟨w₁, hbefore, -, -, hafter, -⟩ := detached_eq other
      (w₀.connections[other]?.any fun c => c.hooked && c.mayBlock op) (runSpan other (·.span op)) w
    have hspan := alikeAt_runSpan_of_ne hother (·.span op) w₁
    exact ((AlikeAt.of_alike hbefore key).trans hspan).trans (.of_alike hafter key)
  · intro result
    split
    · refine .bind (.change fun w => ?_) fun _ => .pure _
      exact .modifyConnection w other fun c => ⟨_, rfl⟩
    · exact .pure _

/-! ## Observers that do not call back -/

/-- Every cursor is what it was, and the same steps are running. -/
structure SameCursors (w w' : World κ σ) : Prop where
  cursor : ∀ (key : Nat) (c : Cursor), w.cursors[key]? = some c → w'.cursors[key]? = some c
  running : w'.running = w.running

/-- The connection and every cursor are what they were, and no call was made on the session. -/
structure Untouched (key : Nat) (w w' : World κ σ) : Prop extends SameCursors w w' where
  connection : ∀ c : Connection σ, w.connections[key]? = some c → w'.connections[key]? = some c
  exchanges : w'.exchanges key = w.exchanges key

/-- No observer calls back into the connection, or touches a cursor, when it is told of a notice. -/
def Discreet (react : Reactor κ σ) (key : Nat) (observers : List Nat) : Prop :=
  ∀ listener ∈ observers, ∀ notice, Keeps (Untouched key) (react listener (.notice notice))

section Observers

omit [WireSession σ]

theorem SameCursors.refl (w : World κ σ) : SameCursors w w :=
  ⟨fun _ _ hcursor => hcursor, rfl⟩

theorem SameCursors.trans (h : SameCursors w w₁) (h' : SameCursors w₁ w₂) : SameCursors w w₂ where
  cursor := fun key c hcursor => h'.cursor key c (h.cursor key c hcursor)
  running := h'.running.trans h.running

theorem Untouched.refl (key : Nat) (w : World κ σ) : Untouched key w w :=
  { SameCursors.refl w with connection := fun _ hc => hc, exchanges := rfl }

theorem Untouched.trans (h : Untouched key w w₁) (h' : Untouched key w₁ w₂) :
    Untouched key w w₂ :=
  { h.toSameCursors.trans h'.toSameCursors with
    connection := fun c hc => h'.connection c (h.connection c hc)
    exchanges := h'.exchanges.trans h.exchanges }

theorem discreet_of_unobserved (react : Reactor κ σ) (key : Nat) {observers : List Nat}
    (h : observers = []) : Discreet react key observers := by
  subst h
  exact fun _ hlistener => absurd hlistener List.not_mem_nil

/-- One observer after the other is told of one notice after the other. -/
theorem Discreet.untouched {observers : List Nat} (h : Discreet react key observers)
    {calls : List (Nat × String)} (hcalls : ∀ told ∈ calls, told.1 ∈ observers) (w : World κ σ) :
    Untouched key w
      ((calls.forM fun told => react told.1 (.notice told.2)).run w).2 := by
  induction calls generalizing w with
  | nil => exact .refl key w
  | cons told calls ih =>
    have htold := h told.1 (hcalls told List.mem_cons_self) told.2 w
    exact htold.trans (ih (fun told hmem => hcalls told (List.mem_cons_of_mem _ hmem)) _)

/-- Messages of which only discreet observers are told are stored, and nothing else is done. -/
theorem deliver_of_discreet (hreact : Discreet react key c.mailbox.observers)
    (hc : w.connections[key]? = some c) (batch : Batch) :
    ∃ w', (deliver react key batch).run w = ((), w') ∧
      w'.connections[key]? = some { c with mailbox := c.mailbox.store batch } ∧
      w'.exchanges key = w.exchanges key ∧ SameCursors w w' := by
  have hshowings : ∀ told ∈ w.showings key batch, told.1 ∈ c.mailbox.observers := by
    intro told htold
    rw [showings, hc] at htold
    have haudience : told.1 ∈ c.mailbox.audience batch := (Mailbox.mem_showings.1 htold).1
    rw [Mailbox.audience] at haudience
    split at haudience
    · exact absurd haudience List.not_mem_nil
    · exact haudience
  have hquiet := hreact.untouched hshowings (w.absorbing key batch)
  have habsorbed : (w.absorbing key batch).connections[key]? =
      some { c with mailbox := c.mailbox.store batch } ∧
      SameCursors w (w.absorbing key batch) := by
    simp only [absorbing, hc]
    by_cases hbatch : batch.isEmpty
    · have hempty := (batch.isEmpty_iff).1 hbatch
      subst hempty
      exact ⟨hc, .refl w⟩
    · rw [if_neg hbatch]
      refine ⟨?_, ⟨fun _ _ hcursor => hcursor, rfl⟩⟩
      simp only [record, modifyConnection, List.getElem?_modify, if_true, hc, Option.map_eq_map,
        Option.map_some]
      rfl
  have hsilent := (Still.absorbing w key batch).toAlike.exchanges_eq key
  exact ⟨_, deliver_run react key batch w, hquiet.connection _ habsorbed.1,
    hquiet.exchanges.trans hsilent, habsorbed.2.trans hquiet.toSameCursors⟩

end Observers

/-- Spans have nothing to do with cursors. -/
theorem SameCursors.operating (key : Nat) (hooked : Bool) (op : Operation) (w : World κ σ) :
    SameCursors w (w.operating key hooked op) := by
  refine detached_of_trans (R := SameCursors) trans (fun w => ⟨fun _ _ hcursor => hcursor, rfl⟩)
    (fun w => ⟨fun _ _ hcursor => hcursor, rfl⟩) (fun w => ?_) w
  cases hc : w.connections[key]? with
  | none =>
    rw [runSpan_of_none hc]
    exact .refl w
  | some c =>
    rw [runSpan_of_some hc]
    exact ⟨fun _ _ hcursor => hcursor, rfl⟩

/-- Where observers do not call back, an operation changes its connection as its span does, and ends
with handing over the outcome that the span has brought, if it has brought one. -/
theorem perform_of_discreet (hreact : Discreet react key c.mailbox.observers)
    (hc : w.connections[key]? = some c) (op : Operation) (hop : op ≠ .close) :
    ∃ w', (perform react key op).run w = ((c.perform op).result,
        match (c.perform op).completion with
        | none => w'
        | some completion => ((settle react completion).run w').2) ∧
      w'.connections[key]? = some (c.after (c.perform op)) ∧
      w'.exchanges key = w.exchanges key ++ (c.perform op).exchanges ∧ SameCursors w w' := by
  obtain ⟨hooked, hrun⟩ := perform_run react key op w
  obtain ⟨w₁, hspan, hc₁, hexchanges₁⟩ := detached_runSpan hc hooked (·.span op)
  have hsame₁ := SameCursors.operating key hooked op w
  rw [operating, hspan] at hsame₁
  have hreact₁ : Discreet react key
      ({ c with guarded := (c.perform op).guarded } : Connection σ).mailbox.observers := hreact
  obtain ⟨w₂, hdeliver, hc₂, hexchanges₂, hsame₂⟩ :=
    deliver_of_discreet hreact₁ hc₁ (c.perform op).batch
  refine ⟨w₂, ?_, hc₂, ?_, hsame₁.trans hsame₂⟩
  · rw [hrun, hspan]
    dsimp only
    rw [if_neg hop]
    show (conclude react key ({ result := (c.perform op).result
                                batch := (c.perform op).batch
                                completion := (c.perform op).completion } :
      Aftermath op.Answer)).run w₁ = _
    unfold conclude
    rw [Play.run_bind, hdeliver]
    cases (c.perform op).completion with
    | none => rfl
    | some completion => rfl
  · rw [hexchanges₂, hexchanges₁]
    rfl

omit [WireSession σ] in
/-- What follows a span that completed no statement, where observers do not call back. -/
theorem conclude_of_discreet {α : Type} (hreact : Discreet react key c.mailbox.observers)
    (hc : w.connections[key]? = some c) (result : Except Fault α) (batch : Batch) :
    ∃ w', (conclude react key { result, batch }).run w = (result, w') ∧
      w'.connections[key]? = some { c with mailbox := c.mailbox.store batch } ∧
      w'.exchanges key = w.exchanges key := by
  obtain ⟨w', hdeliver, hc', hexchanges, -⟩ := deliver_of_discreet hreact hc batch
  refine ⟨w', ?_, hc', hexchanges⟩
  unfold conclude
  simp only [StateT.run_bind, hdeliver]
  rfl

/-- Where observers do not call back, an operation that completes no statement changes its connection as
its span does. Only a close does more: it empties the mailbox. -/
theorem perform_of_incomplete (hreact : Discreet react key c.mailbox.observers)
    (hc : w.connections[key]? = some c) (op : Operation)
    (hcompletion : (c.perform op).completion = none) :
    ∃ w', (perform react key op).run w = ((c.perform op).result, w') ∧
      w'.connections[key]? = some (if op = .close then
        { c.after (c.perform op) with mailbox := (c.after (c.perform op)).mailbox.clear }
      else c.after (c.perform op)) ∧
      w'.exchanges key = w.exchanges key ++ (c.perform op).exchanges := by
  obtain ⟨hooked, hrun⟩ := perform_run react key op w
  obtain ⟨w₁, hspan, hc₁, hexchanges⟩ := detached_runSpan hc hooked (·.span op)
  obtain ⟨w₂, hconclude, hc₂, hsame⟩ := conclude_of_discreet
    (c := { c with guarded := (c.perform op).guarded }) hreact hc₁ (c.perform op).result
    (c.perform op).batch
  have hcompletion : ((c.span op).run c.guarded).completion = none := hcompletion
  have hattempt : conclude react key ({ result := ((c.span op).run c.guarded).result
                                        batch := ((c.span op).run c.guarded).batch
                                        completion := none } : Aftermath op.Answer) =
      conclude react key { result := (c.perform op).result, batch := (c.perform op).batch } := rfl
  rw [hspan] at hrun
  simp only [hcompletion, hattempt, hconclude] at hrun
  refine ⟨_, hrun, ?_⟩
  split
  · have hcleared : Alike w₂ (clearMailbox key w₂) := .modifyConnection _ key fun c => ⟨_, rfl⟩
    refine ⟨?_, ?_⟩
    · simp only [clearMailbox, modifyConnection, List.getElem?_modify, if_true, hc₂,
        Option.map_eq_map, Option.map_some]
      rfl
    · rw [hcleared.exchanges_eq, hsame, hexchanges]
      rfl
  · refine ⟨hc₂, ?_⟩
    rw [hsame, hexchanges]
    rfl

/-! ## Operations on a connection that nobody observes -/

omit [WireSession σ] in
/-- What follows a span that completed no statement, on a connection that nobody observes. -/
theorem conclude_of_unobserved {α : Type} (react : Reactor κ σ) (hc : w.connections[key]? = some c)
    (hobservers : c.mailbox.observers = []) (result : Except Fault α) (batch : Batch) :
    ∃ w', (conclude react key { result, batch }).run w = (result, w') ∧
      w'.connections[key]? = some { c with mailbox := c.mailbox.store batch } ∧
      w'.exchanges key = w.exchanges key :=
  conclude_of_discreet (discreet_of_unobserved react key hobservers) hc result batch

/-- An operation on a connection that nobody observes, which completes no statement. -/
theorem perform_of_unobserved (react : Reactor κ σ) (hc : w.connections[key]? = some c)
    (hobservers : c.mailbox.observers = []) (op : Operation)
    (hcompletion : (c.perform op).completion = none) :
    ∃ w', (perform react key op).run w = ((c.perform op).result, w') ∧
      (op ≠ .close → w'.connections[key]? = some (c.after (c.perform op))) ∧
      w'.exchanges key = w.exchanges key ++ (c.perform op).exchanges := by
  obtain ⟨w', hrun, hc', hexchanges⟩ := perform_of_incomplete
    (discreet_of_unobserved react key hobservers) hc op hcompletion
  refine ⟨w', hrun, fun hop => ?_, hexchanges⟩
  rw [if_neg hop] at hc'
  exact hc'

/-- To release a connection that would be closed without a call makes no call. -/
theorem release_of_silent (react : Reactor κ σ) (hc : w.connections[key]? = some c)
    (hobservers : c.mailbox.observers = []) (hcompletion : (c.perform .close).completion = none)
    (hsilent : (c.perform .close).exchanges = []) :
    ((release react key).run w).2.exchanges key = w.exchanges key := by
  obtain ⟨w', hrun, -, hexchanges⟩ := perform_of_unobserved react hc hobservers .close hcompletion
  rw [hsilent, List.append_nil] at hexchanges
  unfold release
  simp only [StateT.run_bind, StateT.run_get, pure_bind]
  split
  · simp only [StateT.run_bind, hrun]
    exact hexchanges
  · rfl

/-- Closing a connection that is closed makes no call. -/
theorem release_of_closed (react : Reactor κ σ) (hc : w.connections[key]? = some c)
    (hobservers : c.mailbox.observers = []) (hsession : c.guarded.session = none)
    (hstatus : c.guarded.status = .closed) :
    ((release react key).run w).2.exchanges key = w.exchanges key := by
  have hspan : Span.exec (c.span .close) { guarded := c.guarded } =
      (.ok (), { guarded := c.guarded }) := by
    show Span.exec (Span.guarded >>= fun g => if !g.isClosed then Span.tearDown else pure ()) _ = _
    rw [Span.exec_bind_ok (Span.exec_guarded _), Guarded.isClosed, hstatus]
    rfl
  have hperform : c.perform .close = _ := Span.run_of_exec_none hspan hsession
  exact release_of_silent react hc hobservers (by rw [hperform]) (by rw [hperform])

/-! ## Opening a connection -/

variable [Connector κ σ]

/-- What taking a new session into its connection leaves behind. -/
theorem opening_of_ok {dsn : String} {asynchronous : Bool} {session : σ} {connector : κ}
    (hconnect : Connector.connect (!asynchronous) dsn w.connector = (.ok session, connector))
    (settings : Settings) (hooked : Bool)
    (hcreated : c = Connection.create w.connections.length dsn asynchronous hooked settings) :
    ∃ w', w.opening dsn asynchronous settings hooked =
        ({ result := ((openingSpan session (!asynchronous) c).run c.guarded).result
           batch := ((openingSpan session (!asynchronous) c).run c.guarded).batch
           completion := ((openingSpan session (!asynchronous) c).run c.guarded).completion }, w') ∧
      w'.connections[w.connections.length]? =
        some { c with guarded := ((openingSpan session (!asynchronous) c).run c.guarded).guarded } ∧
      w'.exchanges w.connections.length = w.exchanges w.connections.length ++
        ((openingSpan session (!asynchronous) c).run c.guarded).exchanges := by
  obtain ⟨w₁, hbefore, hconnections, hresult, hafter, hkept⟩ := detached_eq w.connections.length
    (hooked && !asynchronous) (establish w.connections.length (!asynchronous) dsn)
    (w.creating dsn asynchronous settings hooked)
  have hconnect₁ : Connector.connect (!asynchronous) dsn w₁.connector = (.ok session, connector) := by
    rw [hbefore.connector]
    exact hconnect
  rw [establish_of_ok hconnect₁] at hresult hafter hkept
  have hc : ({ w₁ with connector }.record (.connected w.connections.length (!asynchronous) dsn
      none)).connections[w.connections.length]? = some c := by
    show w₁.connections[w.connections.length]? = some c
    rw [hconnections, hcreated, creating, List.getElem?_concat_length]
  have hexchanges : ({ w₁ with connector }.record (.connected w.connections.length (!asynchronous)
      dsn none)).exchanges w.connections.length = w.exchanges w.connections.length := by
    rw [exchanges_append (w := w₁) rfl, hbefore.exchanges_eq]
    exact List.append_nil _
  refine ⟨_, Prod.ext ?_ rfl, ?_, ?_⟩
  · rw [runSpan_of_some hc] at hresult
    exact hresult
  · rw [opening, hkept, connection_runSpan_self hc]
  · rw [opening, hafter.exchanges_eq, exchanges_runSpan hc, hexchanges]

/-- Without a session a connection cannot be opened. -/
theorem openConnection_of_error (react : Reactor κ σ) (asynchronous : Bool) {dsn text : String}
    {connector : κ}
    (hconnect : Connector.connect (!asynchronous) dsn w.connector = (.error text, connector))
    (settings : Settings) (hooked : Bool) :
    ((openConnection react dsn asynchronous settings hooked).run w).1 =
      .error (.transport text) := by
  obtain ⟨w₁, hbefore, -, hresult, -, -⟩ := detached_eq w.connections.length
    (hooked && !asynchronous) (establish w.connections.length (!asynchronous) dsn)
    (w.creating dsn asynchronous settings hooked)
  have hconnect₁ : Connector.connect (!asynchronous) dsn w₁.connector =
      (.error text, connector) := by
    rw [hbefore.connector]
    exact hconnect
  rw [establish_of_error hconnect₁] at hresult
  have hopening : (w.opening dsn asynchronous settings hooked).1 =
      { result := .error (.transport text) } := hresult
  rw [openConnection_run]
  simp only [fst_conclude, hopening]

/-- Opening a connection on a session that can be made: what the span leaves behind is the connection,
or it has failed and closed the connection. -/
theorem openConnection_of_ok (react : Reactor κ σ) (asynchronous : Bool) {dsn : String} {session : σ}
    {connector : κ}
    (hconnect : Connector.connect (!asynchronous) dsn w.connector = (.ok session, connector))
    (settings : Settings) (hooked : Bool)
    (hcreated : c = Connection.create w.connections.length dsn asynchronous hooked settings)
    {outcome : SpanOutcome σ Unit}
    (houtcome : (openingSpan session (!asynchronous) c).run c.guarded = outcome)
    (hcompletion : outcome.completion = none)
    (hclosed : ∀ f, outcome.result = .error f →
      outcome.guarded.session = none ∧ outcome.guarded.status = .closed) :
    ∃ w', (openConnection react dsn asynchronous settings hooked).run w =
        (outcome.result.map fun _ => w.connections.length, w') ∧
      (outcome.result = .ok () →
        w'.connections[w.connections.length]? = some (c.after outcome)) ∧
      w'.exchanges w.connections.length =
        w.exchanges w.connections.length ++ outcome.exchanges := by
  obtain ⟨w₁, hopening, hc₁, hexchanges₁⟩ := opening_of_ok hconnect settings hooked hcreated
  rw [houtcome] at hopening hc₁ hexchanges₁
  rw [hcompletion] at hopening
  have hobservers : c.mailbox.observers = [] := by
    rw [hcreated]
    rfl
  obtain ⟨w₂, hconclude, hc₂, hsame⟩ := conclude_of_unobserved react hc₁ hobservers
    outcome.result outcome.batch
  rw [openConnection_run, hopening]
  simp only [hconclude]
  cases hresult : outcome.result with
  | ok _ =>
    refine ⟨w₂, rfl, fun _ => hc₂, ?_⟩
    rw [hsame, hexchanges₁]
  | error f =>
    obtain ⟨hsession, hstatus⟩ := hclosed f hresult
    refine ⟨_, rfl, fun h => (nomatch h), ?_⟩
    have hreleased := release_of_closed react hc₂ hobservers hsession hstatus
    rw [hreleased, hsame, hexchanges₁]

end World

end Scenario

end SessionLayer
