import SessionLayer.Proofs.Connection.Invariant

/-!
# The statement in flight

A `Performance` is an operation with the state that it found and what it came to. As far as the
statement in flight is concerned there are three possibilities, which `Guarded.Turnover` lists: it stays
what it was, a statement is accepted where none was in flight, or the one in flight is ended. `Collected`
says by which exchanges a poll comes by the outcome with which it ends one.
-/

set_option autoImplicit false

namespace SessionLayer

theorem filterMap_concat {α β : Type} (f : α → Option β) (xs : List α) (x : α) :
    (xs ++ [x]).filterMap f = xs.filterMap f ++ (f x).toList := by
  rw [List.filterMap_append]
  refine congrArg _ ?_
  rw [List.filterMap_cons]
  cases f x <;> rfl

variable {σ : Type}

/-- An operation that was performed: the state that it found, and what it came to. -/
structure Performance (σ : Type) where
  operation : Operation
  before : Guarded σ
  outcome : SpanOutcome σ operation.Answer

/-- How a statement that was in flight is ended: its owner is told an outcome, or it is cancelled
because the connection is closed. -/
inductive Ending where
  | completed (completion : Completion)
  | cancelled (owner : QueryOwner)

def Ending.owner : Ending → QueryOwner
  | completed completion => completion.owner
  | cancelled owner => owner

namespace Guarded

/-- The owner of the statement in flight. -/
def owner? (g : Guarded σ) : Option QueryOwner :=
  g.inFlight.map (·.owner)

@[simp] theorem owner?_on (g : Guarded σ) (session : σ) : (g.on session).owner? = g.owner? :=
  rfl

@[simp] theorem owner?_stashing (g : Guarded σ) (stash : Batch) :
    (g.stashing stash).owner? = g.owner? :=
  rfl

/-- What becomes of the statement in flight: which owner's statement was accepted, and which ending the
one in flight came to. -/
inductive Turnover (before after : Guarded σ) : Option QueryOwner → Option Ending → Prop
  | kept : after.owner? = before.owner? → Turnover before after none none
  | accepted (owner : QueryOwner) : before.owner? = none → after.owner? = some owner →
      Turnover before after (some owner) none
  | ended (ending : Ending) : before.owner? = some ending.owner → after.owner? = none →
      Turnover before after none (some ending)

theorem Turnover.of_owner? {before after after' : Guarded σ} {accepted : Option QueryOwner}
    {ended : Option Ending} (h : before.Turnover after accepted ended)
    (howner : after'.owner? = after.owner?) : before.Turnover after' accepted ended := by
  cases h with
  | kept hkept => exact .kept (howner.trans hkept)
  | accepted owner hbefore hafter => exact .accepted owner hbefore (howner.trans hafter)
  | ended ending hbefore hafter => exact .ended ending hbefore (howner.trans hafter)

/-- The owner of the statement in flight and one that is accepted are the owners of the statement that
is ended and of the one that is in flight after that. -/
theorem Turnover.balance {before after : Guarded σ} {accepted : Option QueryOwner}
    {ended : Option Ending} (h : before.Turnover after accepted ended) :
    before.owner?.toList ++ accepted.toList =
      ended.toList.map Ending.owner ++ after.owner?.toList := by
  cases h with
  | kept hkept => rw [hkept, Option.toList_none, List.append_nil, Option.toList_none, List.map_nil,
      List.nil_append]
  | accepted owner hbefore hafter => rw [hbefore, hafter]; rfl
  | ended ending hbefore hafter => rw [hbefore, hafter]; rfl

end Guarded

namespace Operation

/-- The owner of the statement that the operation submitted, if it was accepted. -/
def accepted? : (op : Operation) → Except Fault op.Answer → Option QueryOwner
  | .submit _ owner, .ok _ => some owner
  | _, _ => none

/-- The ending of the statement that was in flight before, if the operation ended it. -/
def ended? (op : Operation) (before : Guarded σ) : Option Completion → Option Ending
  | some completion => some (.completed completion)
  | none => if op = .close then before.owner?.map .cancelled else none

end Operation

namespace Performance

def accepted? (p : Performance σ) : Option QueryOwner :=
  p.operation.accepted? p.outcome.result

def ended? (p : Performance σ) : Option Ending :=
  p.operation.ended? p.before p.outcome.completion

theorem ended?_of_completion {p : Performance σ} {completion : Completion}
    (h : p.outcome.completion = some completion) : p.ended? = some (.completed completion) := by
  rw [ended?, h]
  rfl

end Performance

/-- Performs an operation on the guarded state of a connection. -/
def Connection.performance [WireSession σ] (c : Connection σ) (op : Operation) : Performance σ where
  operation := op
  before := c.guarded
  outcome := c.perform op

namespace Connection

open SessionLayer.Span Guarded

variable [WireSession σ] {c : Connection σ} {s : SpanState σ}

/-! ## What an operation does with the statement in flight -/

omit [WireSession σ] in
/-- A poll ends the statement in flight or keeps it. -/
theorem turnover_of_pollStep {level : Isolation} {r : Except Fault Readiness} {g g' : Guarded σ}
    {completion : Option Completion} (h : g.Consistent c.asynchronous)
    (hstep : g.PollStep level r g' completion) :
    g.Turnover g' none (Operation.poll.ended? g completion) := by
  cases hstep with
  | closed _ => exact .kept rfl
  | setup readiness _ hconnecting hstep =>
    cases hstep with
    | _ => exact .kept rfl
  | setupFailed fault g₁ stash hconnecting hstep =>
    have hnone : g.inFlight = none := by
      cases hflight : g.inFlight with
      | none => rfl
      | some flight =>
        have hready := (h.inFlight (by rw [hflight]; rfl)).2
        rw [hready] at hconnecting
        exact nomatch hconnecting
    refine .kept ?_
    rw [owner?, owner?, hnone]
    rfl
  | ready husable hstep =>
    cases hstep with
    | idle _ _ | idleFailed _ _ _ | pending _ _ _ _ | awaits _ _ _ _ => exact .kept rfl
    | written flight session hflight _ =>
      refine .kept ?_
      rw [owner?, owner?, hflight]
      rfl
    | completed flight results session hflight _ =>
      exact .ended (.completed { owner := flight.owner, outcome := collectOutcome results })
        (by rw [owner?, hflight]; rfl) rfl
    | abandoned flight text session hflight =>
      exact .ended (.completed { owner := flight.owner, outcome := .error (.transport text) })
        (by rw [owner?, hflight]; rfl) rfl

/-- What an operation did with the statement in flight; only a poll has an outcome for its owner. -/
structure Turns (op : Operation) (s : SpanState σ) (r : Except Fault op.Answer) (t : SpanState σ) :
    Prop where
  turnover : s.guarded.Turnover t.guarded (op.accepted? r) (op.ended? s.guarded t.completion)
  completion : t.completion.isSome → op = .poll

omit [WireSession σ] in
theorem Turns.kept {op : Operation} {r : Except Fault op.Answer} {t : SpanState σ}
    (hc : t.completion = none) (howner : t.guarded.owner? = s.guarded.owner?)
    (haccepted : op.accepted? r = none) (hop : op ≠ .close) : Turns op s r t where
  turnover := by
    rw [haccepted, hc, Operation.ended?, if_neg hop]
    exact .kept howner
  completion := by
    rw [hc]
    exact fun h => nomatch h

/-- Closing a connection cancels the statement in flight. -/
theorem turns_close (h : s.guarded.Consistent c.asynchronous) (hc : s.completion = none) :
    Ends (c.span .close) s (Turns .close s) := by
  have hnone : ∀ {t : SpanState σ}, t.completion = none →
      Operation.close.ended? s.guarded t.completion = s.guarded.owner?.map .cancelled := by
    intro t ht
    rw [ht, Operation.ended?, if_pos rfl]
  show Ends (Span.guarded >>= fun g => if !g.isClosed then tearDown else pure ()) s _
  apply ends_bind_ok (exec_guarded s)
  split
  · apply (ends_tearDown s).mono
    rintro r t ⟨-, hct, stash, ht⟩
    refine ⟨?_, fun hsome => by rw [hct, hc] at hsome; exact nomatch hsome⟩
    rw [hnone (hct.trans hc), ht]
    cases howner : s.guarded.owner? with
    | none => exact .kept (by rw [howner]; rfl)
    | some owner => exact .ended (.cancelled owner) howner rfl
  · rename_i hclosed
    have hstatus : s.guarded.status = .closed := by simpa [Guarded.isClosed] using hclosed
    have howner : s.guarded.owner? = none := by
      rw [owner?, Option.map_eq_none_iff]
      cases hflight : s.guarded.inFlight with
      | none => rfl
      | some flight =>
        have hready := (h.inFlight (by rw [hflight]; rfl)).2
        cases hready.symm.trans hstatus
    refine ends_pure ⟨?_, fun hsome => by rw [hc] at hsome; exact nomatch hsome⟩
    rw [hnone hc, howner]
    exact .kept rfl

omit [WireSession σ] in
/-- An operation of blocking connections has no statement in flight, before or after. -/
theorem turns_blocking (h : s.guarded.Consistent c.asynchronous) (hc : s.completion = none)
    {op : Operation} {name : String} {span : Span σ op.Answer}
    (haccepted : ∀ r, op.accepted? r = none) (hop : op ≠ .close)
    (hspan : s.guarded.Consistent false → s.guarded.status ≠ .closed →
      Ends span s fun _ t => t.completion = s.completion ∧ t.guarded.inFlight = none) :
    Ends (c.blocking name span) s (Turns op s) := by
  refine c.ends_blocking (fun _ => .kept hc rfl (haccepted _) hop)
    (fun _ => .kept hc rfl (haccepted _) hop) fun hopen ha => ?_
  rw [ha] at h
  apply (hspan h hopen).mono
  rintro r t ⟨hct, ht⟩
  refine .kept (hct.trans hc) ?_ (haccepted r) hop
  rw [owner?, owner?, ht, h.inFlight_eq_none]

omit [WireSession σ] in
theorem inFlight_of_setupRun {level : Isolation} {r : Except Fault Unit} {g g' : Guarded σ}
    (hg : g.inFlight = none)
    (h : (∃ x, r = .ok x ∧ g.SetupRun level r g') ∨ ∃ f g₁ stash, r = .error f ∧
      g.SetupRun level r g₁ ∧ g' = g₁.shut.stashing stash) : g'.inFlight = none := by
  obtain ⟨x, rfl, hrun⟩ | ⟨f, g₁, stash, -, -, rfl⟩ := h
  · cases hrun with
    | completed info session => exact hg
  · rfl

/-- Every operation keeps the statement in flight, accepts one or ends it. -/
theorem turns_span (h : s.guarded.Consistent c.asynchronous) (hc : s.completion = none)
    (op : Operation) : Ends (c.span op) s (Turns op s) := by
  have hs := h.session_iff.2
  -- Only a poll, a submission and closing do anything to the statement in flight.
  cases op with
  | poll =>
    apply (ends_poll hc hs h.asynchronous_of_isConnecting).mono
    exact fun r t hstep => ⟨turnover_of_pollStep h hstep, fun _ => rfl⟩
  | close => exact turns_close h hc
  | reset =>
    refine turns_blocking h hc (fun _ => rfl) nofun fun h hopen => ?_
    apply (ends_reopen (hs hopen) _).mono
    exact fun r t ⟨hct, hrun⟩ => ⟨hct, inFlight_of_setupRun h.inFlight_eq_none hrun⟩
  | commit | rollback =>
    refine turns_blocking h hc (fun _ => rfl) nofun fun h hopen => ?_
    apply (ends_endBlock (hs hopen) _).mono
    rintro r t ⟨hct, session, ⟨ht, -⟩ | ⟨-, -, -, ht⟩⟩ <;>
      exact ⟨hct, by rw [ht]; exact h.inFlight_eq_none⟩
  | setIsolation level =>
    refine turns_blocking h hc (fun _ => rfl) nofun fun h hopen => ?_
    apply (ends_setIsolation (hs hopen) level).mono
    rintro r t ⟨hct, session, ⟨ht, -⟩ | ⟨-, target, -, -, ⟨ht, -⟩ | ⟨-, ht⟩⟩⟩ <;>
      exact ⟨hct, by rw [ht]; exact h.inFlight_eq_none⟩
  | setClientEncoding name =>
    refine turns_blocking h hc (fun _ => rfl) nofun fun h hopen => ?_
    apply (ends_setClientEncoding (hs hopen) name).mono
    rintro r t ⟨hct, session, status, -, ht | ⟨-, ht⟩⟩ <;>
      exact ⟨hct, by rw [ht]; exact h.inFlight_eq_none⟩
  | execute sql =>
    refine turns_blocking h hc (fun _ => rfl) nofun fun h hopen => ?_
    apply (ends_execute (hs hopen) sql).mono
    rintro r t ⟨hct, session, ht | ⟨-, -, ht⟩⟩ <;>
      exact ⟨hct, by rw [ht]; exact h.inFlight_eq_none⟩
  | submit sql owner =>
    refine ends_bind_ensureOpen (fun _ => .kept hc rfl rfl nofun) fun hopen => ?_
    cases ha : c.asynchronous with
    | false => exact ends_throw (.kept hc rfl rfl nofun)
    | true =>
      apply (ends_submit (hs hopen) sql owner).mono
      rintro r t ⟨hct, session, ⟨⟨fault, rfl⟩, ht⟩ | ⟨rfl, -, hnone, phase, ht⟩⟩
      · exact .kept (hct.trans hc) (by rw [ht, owner?_on]) rfl nofun
      · refine ⟨?_, fun hsome => by rw [hct, hc] at hsome; exact nomatch hsome⟩
        rw [hct, hc]
        exact .accepted owner (by rw [owner?, hnone]; rfl) (by rw [ht]; rfl)
  | transactionStatus | parameterStatus _ | backendPid | socket =>
    apply (ends_query hs _).mono
    rintro r t ⟨hct, ht⟩
    refine .kept (hct.trans hc) ?_ rfl nofun
    rcases ht with ht | ⟨-, session, ht⟩
    · rw [ht]
    · rw [ht, owner?_on]
  | isExecuting =>
    exact ends_bind_ensureOpen (fun _ => .kept hc rfl rfl nofun) fun _ => .kept hc rfl rfl nofun
  | admitCursor =>
    refine ends_bind_ensureOpen (fun _ => .kept hc rfl rfl nofun) fun _ => ?_
    apply ends_bind_ok (exec_guarded s)
    split <;> exact .kept hc rfl rfl nofun
  | admitLargeObject =>
    refine turns_blocking h hc (fun _ => rfl) nofun fun h _ => ?_
    apply ends_bind_ok (exec_guarded s)
    split <;> exact ⟨rfl, h.inFlight_eq_none⟩

/-- What a performance does with the statement in flight. -/
theorem turnover (h : c.guarded.Settled c.asynchronous) (op : Operation) :
    c.guarded.Turnover (c.performance op).outcome.guarded (c.performance op).accepted?
      (c.performance op).ended? := by
  obtain ⟨t, ht, hcompletion, hguarded⟩ := run_of_ends (turns_span h.1 rfl op)
  have howner : (c.perform op).guarded.owner? = t.guarded.owner? := by
    rcases hguarded with hguarded | ⟨session, -, hguarded⟩
    · exact (congrArg owner? hguarded).trans (owner?_stashing _ _)
    · exact (congrArg owner? hguarded).trans (owner?_stashing _ _)
  have hended : (c.performance op).ended? = op.ended? c.guarded t.completion :=
    congrArg (op.ended? c.guarded) hcompletion
  rw [hended]
  exact ht.turnover.of_owner? howner

/-- The owner who is told an outcome is that of the statement that was in flight. -/
theorem owner?_of_completion (h : c.guarded.Settled c.asynchronous) {op : Operation}
    {completion : Completion} (hcompletion : (c.perform op).completion = some completion) :
    c.guarded.owner? = some completion.owner := by
  have hturn := turnover h op
  rw [Performance.ended?_of_completion hcompletion] at hturn
  generalize (c.performance op).accepted? = given at hturn
  cases hturn with
  | ended ending hbefore hafter => exact hbefore

/-! ## By which exchanges an outcome is come by -/

/-- The session gives its results, or the transport fails: the answer of a poll, the exchanges up to
then, and the outcome for the owner of the statement. -/
inductive Collected : Except Fault Readiness → List Exchange → Except Fault (List QueryResult) → Prop
  | completed (results : List QueryResult) :
      Collected (.ok .complete)
        ([{ call := .consume, answer := .ok () }, { call := .isBusy, answer := false }]
          ++ fetchExchanges results) (collectOutcome results)
  | unwritten (text : String) :
      Collected (.error (.transport text)) [{ call := .flush, answer := .error text }]
        (.error (.transport text))
  | unread (text : String) :
      Collected (.error (.transport text)) [{ call := .consume, answer := .error text }]
        (.error (.transport text))

/-- The outcome for an owner, if there is one, is come by in the exchanges since `s`. -/
def Collects (s : SpanState σ) (r : Except Fault Readiness) (t : SpanState σ) : Prop :=
  ∀ completion, t.completion = some completion →
    ∃ xs, t.exchanges = s.exchanges ++ xs ∧ Collected r xs completion.outcome

omit [WireSession σ] in
theorem collects_of_none {r : Except Fault Readiness} {t : SpanState σ} (h : t.completion = none) :
    Collects s r t := by
  intro completion hcompletion
  rw [h] at hcompletion
  exact nomatch hcompletion

omit [WireSession σ] in
/-- The statement in flight is given up: its owner is told what the poll answers. -/
theorem ends_abandon_collects {s₀ : SpanState σ} {xs : List Exchange} (flight : InFlight)
    (text : String) (hs : s.exchanges = s₀.exchanges ++ xs)
    (h : Collected (.error (.transport text)) xs (.error (.transport text))) :
    Ends (abandon flight text) s (Collects s₀) := by
  refine ends_of_exec (exec_abandon flight text s) ?_
  rintro completion ⟨⟩
  exact ⟨xs, hs, h⟩

theorem ends_stepReady_collects (hs : s.guarded.session.isSome) (hc : s.completion = none) :
    Ends stepReady s (Collects s) := by
  unfold stepReady
  apply ends_bind_ok (exec_guarded s)
  cases hflight : s.guarded.inFlight with
  | none =>
    apply ends_bind_ask hs
    intro answer session
    apply ends_bind_sent
    · exact fun _ _ => ends_pure (collects_of_none hc)
    · exact fun text _ => collects_of_none hc
  | some flight =>
    dsimp only
    cases flight.phase with
    | writing =>
      dsimp only
      unfold stepFlight
      apply ends_bind_ask hs
      rintro (text | _ | _) session
      · exact ends_abandon_collects flight text rfl (.unwritten text)
      · exact ends_bind_update (ends_pure (collects_of_none hc))
      · exact ends_pure (collects_of_none hc)
    | reading =>
      dsimp only
      unfold stepResults
      apply ends_bind_ask hs
      rintro (text | _) session₁
      · exact ends_abandon_collects flight text rfl (.unread text)
      · apply ends_bind_ask rfl
        rintro (_ | _) session₂
        · apply ends_bind_askResults rfl
          intro results session₃
          apply ends_bind_ok (exec_complete flight _ _)
          apply ends_pure
          rintro completion ⟨⟩
          refine ⟨_, ?_, .completed results⟩
          simp only [SpanState.exchanges_after, List.append_assoc, List.cons_append, List.nil_append]
        · exact ends_pure (collects_of_none hc)

/-- A poll of a connection that is set up looks after the statement in flight. -/
theorem ends_poll_of_isUsable {Q : Except Fault Readiness → SpanState σ → Prop}
    (husable : s.guarded.status.isUsable) (h : Ends stepReady s Q) (asynchronous : Bool)
    (level : Isolation) : Ends (poll asynchronous level) s Q := by
  have hstep : Ends (step asynchronous level) s Q := by
    unfold step
    apply ends_bind_ok (exec_guarded s)
    cases hstatus : s.guarded.status with
    | ready | inBlock => exact h
    | _ =>
      rw [hstatus] at husable
      exact nomatch husable
  unfold poll
  cases asynchronous with
  | false => exact hstep
  | true =>
    apply ends_bind_ok (exec_guarded s)
    cases hconnecting : s.guarded.status.isConnecting with
    | false => exact hstep
    | true => exact nomatch husable.symm.trans (Status.isUsable_of_isConnecting hconnecting)

/-- Whatever a poll tells an owner, it has come by in this poll. -/
theorem ends_poll_collects {asynchronous : Bool} {level : Isolation} (hc : s.completion = none)
    (hs : s.guarded.status ≠ .closed → s.guarded.session.isSome)
    (hasynchronous : s.guarded.status.isConnecting → asynchronous = true) :
    Ends (poll asynchronous level) s (Collects s) := by
  by_cases husable : s.guarded.status.isUsable
  · have hsession := hs (Status.ne_closed_of_isUsable husable)
    exact ends_poll_of_isUsable husable (ends_stepReady_collects hsession hc) asynchronous level
  · apply (ends_poll hc hs hasynchronous).mono
    intro r t hstep
    apply collects_of_none
    cases hpoll : t.completion with
    | none => rfl
    | some completion =>
      rw [hpoll] at hstep
      generalize t.guarded = g' at hstep
      cases hstep with
      | ready h _ => exact absurd h husable

/-- Only polls have an outcome for an owner. They have come by it as `Collected` says, and fetch no
more results after that. -/
theorem collected_perform (h : c.guarded.Settled c.asynchronous) {op : Operation}
    {completion : Completion} (hcompletion : (c.perform op).completion = some completion) :
    op = .poll ∧ ∃ xs messages, (c.perform .poll).exchanges = xs ++ messages ∧
      (∀ x ∈ messages, x.call ≠ .getResult) ∧
      Collected (c.perform .poll).result xs completion.outcome := by
  obtain ⟨t, ht, hsame, -⟩ := run_of_ends (turns_span h.1 rfl op)
  have hop : op = .poll := ht.completion (by rw [← hsame]; exact Option.isSome_of_eq_some hcompletion)
  subst hop
  have hcollects : Ends (poll c.asynchronous c.setupIsolation) { guarded := c.guarded }
      (Collects { guarded := c.guarded }) :=
    ends_poll_collects rfl h.1.session_iff.2 h.1.asynchronous_of_isConnecting
  rcases hexec : exec (poll c.asynchronous c.setupIsolation) { guarded := c.guarded } with ⟨r, u⟩
  unfold Ends at hcollects
  rw [hexec] at hcollects
  obtain ⟨hresult, hcompleted, messages, hexchanges, hmessages⟩ := run_of_exec hexec
  have hcompleted : (c.perform .poll).completion = u.completion := hcompleted
  obtain ⟨xs, hxs, hcollected⟩ := hcollects completion (hcompleted.symm.trans hcompletion)
  have hxs : u.exchanges = xs := hxs
  refine ⟨rfl, xs, messages, hxs ▸ hexchanges, fun x hx => ?_, ?_⟩
  · rcases hmessages x hx with hcall | hcall <;> rw [hcall] <;> exact nofun
  · have hresult : (c.perform .poll).result = r := hresult
    rw [hresult]
    exact hcollected

/-! ## Operations one after the other -/

omit [WireSession σ] in
/-- The guarded state that a connection of this kind could be in. -/
def withGuarded (c : Connection σ) (g : Guarded σ) : Connection σ :=
  { c with guarded := g }

/-- Operations on a connection, each from where the one before has left it. -/
inductive Career (c : Connection σ) (g : Guarded σ) : List (Performance σ) → Guarded σ → Prop
  | nil : Career c g [] g
  | snoc {ps : List (Performance σ)} {g' : Guarded σ} (op : Operation) : Career c g ps g' →
      Career c g (ps ++ [(c.withGuarded g').performance op])
        ((c.withGuarded g').performance op).outcome.guarded

namespace Career

variable {g g' : Guarded σ} {ps : List (Performance σ)}

theorem settled (h : Career c g ps g') (hg : g.Settled c.asynchronous) : g'.Settled c.asynchronous := by
  induction h with
  | nil => exact hg
  | @snoc ps g' op _ ih =>
    have hbefore : (c.withGuarded g').guarded.Settled (c.withGuarded g').asynchronous := ih
    exact settled_perform hbefore op

/-- Statements are ended in the order in which they were accepted, each one once, and the last one may
be in flight. -/
theorem accepted_eq (h : Career c g ps g') (hg : g.Settled c.asynchronous) (hnone : g.owner? = none) :
    ps.filterMap Performance.accepted? =
      (ps.filterMap Performance.ended?).map Ending.owner ++ g'.owner?.toList := by
  induction h with
  | nil =>
    rw [hnone]
    rfl
  | @snoc ps g' op hcareer ih =>
    have hbefore : (c.withGuarded g').guarded.Settled (c.withGuarded g').asynchronous :=
      hcareer.settled hg
    have hbalance := (turnover hbefore op).balance
    rw [filterMap_concat, filterMap_concat, ih, List.map_append, List.append_assoc, List.append_assoc]
    exact congrArg _ hbalance

/-- A career leads from each of its operations to the next one. -/
theorem split (h : Career c g ps g') {before after : List (Performance σ)} {p : Performance σ}
    (hps : ps = before ++ p :: after) :
    ∃ g₁ op, Career c g before g₁ ∧ p = (c.withGuarded g₁).performance op := by
  induction h generalizing after with
  | nil => exact absurd hps.symm (List.append_ne_nil_of_right_ne_nil _ (List.cons_ne_nil _ _))
  | @snoc ps g₁ op hcareer ih =>
    -- The operation is the last one of the career, or one of those before it.
    rcases List.eq_nil_or_concat after with rfl | ⟨after, last, rfl⟩
    · obtain ⟨rfl, hlast⟩ := List.append_inj' hps rfl
      exact ⟨g₁, op, hcareer, (List.cons.inj hlast).1.symm⟩
    · rw [List.concat_eq_append, ← List.cons_append, ← List.append_assoc] at hps
      exact ih (List.append_inj' hps rfl).1

end Career

end Connection

end SessionLayer
