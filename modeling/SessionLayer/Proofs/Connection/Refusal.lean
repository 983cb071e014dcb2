import SessionLayer.Proofs.Connection.Invariant
import SessionLayer.Proofs.Span.Runs
import SessionLayer.Proofs.Span.Talk

/-!
# Refused operations

An operation answers `AtOnce` if nothing happens in its span but that the messages of the session are
taken over. The checks that come before an operation are made in a fixed order: whether the connection is
closed, whether the operation is one of the mode of the connection, and only then what it is asked for
and in which status. Each of them `Refuses` at once.
-/

set_option autoImplicit false

namespace SessionLayer

variable {σ : Type}

/-- The name of an operation that asynchronous connections do not have. -/
def Operation.blockingName? : Operation → Option String
  | .reset => some "reset"
  | .commit => some "commit"
  | .rollback => some "rollback"
  | .setIsolation _ => some "set_isolation_level"
  | .setClientEncoding _ => some "set_client_encoding"
  | .execute _ => some "execute"
  | .admitLargeObject => some "lobject"
  | _ => none

variable [WireSession σ]

namespace Guarded

/-- The same state, but that the messages of the session were taken over. -/
def relieved (g : Guarded σ) : Guarded σ :=
  { g with session := g.session.map Span.relieved, stash := .empty }

/-- The exchanges in which the messages of the session are taken over, where there is a session. -/
def relief (g : Guarded σ) : List Exchange :=
  g.session.elim [] Span.messageExchanges

theorem call_of_mem_relief {g : Guarded σ} {x : Exchange} (h : x ∈ g.relief) :
    x.call = .takeNotices ∨ x.call = .takeNotifications := by
  unfold relief at h
  cases hsession : g.session with
  | none => simp [hsession] at h
  | some session =>
    rw [hsession] at h
    simp only [Option.elim_some, Span.messageExchanges, List.mem_cons, List.not_mem_nil,
      or_false] at h
    rcases h with rfl | rfl
    · exact Or.inl rfl
    · exact Or.inr rfl

end Guarded

namespace Connection

open SessionLayer.Span

variable {c : Connection σ}

/-- The operation yields its result and does nothing: the state is what it was, nothing is said to the
session but that its messages are taken over, and there is no outcome for anybody. -/
structure AtOnce (c : Connection σ) (op : Operation) (r : Except Fault op.Answer) : Prop where
  result : (c.perform op).result = r
  guarded : (c.perform op).guarded = c.guarded.relieved
  exchanges : (c.perform op).exchanges = c.guarded.relief
  batch : (c.perform op).batch = c.guarded.stash ++ handedOver c.guarded.relief
  completion : (c.perform op).completion = none

/-- The operation fails at once. -/
def Refuses (c : Connection σ) (op : Operation) (fault : Fault) : Prop :=
  c.AtOnce op (.error fault)

theorem AtOnce.of_runs {op : Operation} {r : Except Fault op.Answer}
    (h : Runs (c.span op) c.guarded [] r c.guarded) : c.AtOnce op r := by
  have hbatch := (c.accounted_perform op).batch
  cases hsession : c.guarded.session with
  | none =>
    have hrun : c.perform op = _ := h.run_none hsession
    have hrelief : c.guarded.relief = [] := by simp [Guarded.relief, hsession]
    rw [hrun] at hbatch
    constructor <;> rw [hrun]
    · simp [Guarded.relieved, Guarded.stashing, hsession]
    · exact hrelief.symm
    · rw [hrelief]
      exact hbatch
  | some session =>
    have hrun : c.perform op = _ := h.run_some session hsession
    have hrelief : c.guarded.relief = messageExchanges session := by
      simp [Guarded.relief, hsession]
    rw [hrun] at hbatch
    constructor <;> rw [hrun]
    · simp [Guarded.relieved, Guarded.stashing, Guarded.on, hsession]
    · exact hrelief.symm
    · rw [hrelief]
      exact hbatch

/-! ## Closed connections -/

omit [WireSession σ] in
theorem runs_bind_ensureOpen {α : Type} (hopen : c.guarded.status ≠ .closed)
    {next : Unit → Span σ α} {r : Except Fault α} (h : Runs (next ()) c.guarded [] r c.guarded) :
    Runs (ensureOpen >>= next) c.guarded [] r c.guarded :=
  .bind_silent (.ensureOpen hopen) h

/-- A connection that is closed refuses whatever is asked of it. -/
theorem refuses_of_closed (hclosed : c.guarded.status = .closed) {op : Operation} (hop : op ≠ .close) :
    c.Refuses op .closed := by
  have hensured : ∀ {α : Type} (next : Unit → Span σ α),
      Runs (ensureOpen >>= next) c.guarded [] (.error .closed) c.guarded :=
    fun next => (Runs.ensureOpen_closed hclosed).bind_error
  apply AtOnce.of_runs
  cases op with
  | close => exact absurd rfl hop
  | poll =>
    have hstep : ∀ asynchronous, Runs (step asynchronous c.setupIsolation) c.guarded []
        (.error .closed) c.guarded := by
      intro asynchronous
      unfold step
      refine .bind_silent (.guarded c.guarded) ?_
      rw [hclosed]
      exact .throw _ _
    show Runs (poll c.asynchronous c.setupIsolation) _ _ _ _
    unfold poll
    cases c.asynchronous with
    | false => exact hstep false
    | true =>
      refine .bind_silent (.guarded c.guarded) ?_
      rw [hclosed]
      exact hstep true
  | _ => exact hensured _

/-! ## Operations of the other mode -/

omit [WireSession σ] in
theorem runs_blocking_asynchronous (hopen : c.guarded.status ≠ .closed) (ha : c.asynchronous = true)
    {α : Type} (name : String) (span : Span σ α) :
    Runs (c.blocking name span) c.guarded [] (.error (.blockingOnly name)) c.guarded := by
  unfold blocking ensureBlocking
  refine runs_bind_ensureOpen hopen (Runs.bind_error ?_)
  rw [if_pos ha]
  exact .throw _ _

omit [WireSession σ] in
theorem runs_blocking {α : Type} {name : String} {span : Span σ α} {xs : List Exchange}
    {r : Except Fault α} {g : Guarded σ} (hopen : c.guarded.status ≠ .closed)
    (ha : c.asynchronous = false) (h : Runs span c.guarded xs r g) :
    Runs (c.blocking name span) c.guarded xs r g := by
  unfold blocking ensureBlocking
  refine .bind_silent (.ensureOpen hopen) (.bind_silent (x := ()) ?_ h)
  rw [ha]
  exact .pure () _

/-- An asynchronous connection refuses the operations of blocking ones, whatever their arguments are and
in whatever status it is. -/
theorem refuses_of_asynchronous (hopen : c.guarded.status ≠ .closed) (ha : c.asynchronous = true)
    {op : Operation} {name : String} (hname : op.blockingName? = some name) :
    c.Refuses op (.blockingOnly name) := by
  apply AtOnce.of_runs
  cases op with
  | reset | commit | rollback | setIsolation _ | setClientEncoding _ | execute _ | admitLargeObject =>
    cases hname
    exact runs_blocking_asynchronous hopen ha _ _
  | _ => exact nomatch hname

/-- A blocking connection refuses a statement that is to be submitted. -/
theorem refuses_submit_of_blocking (hopen : c.guarded.status ≠ .closed) (ha : c.asynchronous = false)
    (sql : String) (owner : QueryOwner) : c.Refuses (.submit sql owner) .asynchronousOnly := by
  apply AtOnce.of_runs
  refine runs_bind_ensureOpen hopen ?_
  simp only [ha, Bool.not_false, if_true]
  exact (Runs.throw _ _).bind_error

/-! ## Arguments and statuses -/

/-- A blocking connection refuses a number that names no isolation level. -/
theorem refuses_level (hopen : c.guarded.status ≠ .closed) (ha : c.asynchronous = false) {level : Int}
    (hlevel : level < 0 ∨ 2 < level) : c.Refuses (.setIsolation level) .levelOutOfBounds := by
  have hof : Isolation.ofLevel level = .error .levelOutOfBounds :=
    Isolation.ofLevel_eq_error_iff.2 ⟨hlevel, rfl⟩
  apply AtOnce.of_runs
  refine runs_blocking hopen ha ?_
  unfold setIsolation
  exact (Runs.lift hof _).bind_error

omit [WireSession σ] in
theorem runs_admission (usable : Bool) (h : c.guarded.status.isUsable = usable) :
    Runs (Span.guarded >>= fun g => if !g.status.isUsable then throw .setupUnderway else pure () :
        Span σ Unit) c.guarded [] (if usable then .ok () else .error .setupUnderway) c.guarded := by
  refine .bind_silent (.guarded c.guarded) ?_
  rw [h]
  cases usable with
  | true => exact .pure () _
  | false => exact .throw _ _

omit [WireSession σ] in
theorem runs_submit (ha : c.asynchronous = true) (hopen : c.guarded.status ≠ .closed)
    {sql : String} {owner : QueryOwner} {fault : Fault} [WireSession σ]
    (h : Runs (submit sql owner) c.guarded [] (.error fault) c.guarded) :
    c.Refuses (.submit sql owner) fault := by
  apply AtOnce.of_runs
  refine runs_bind_ensureOpen hopen ?_
  simp only [ha, Bool.not_true, Bool.false_eq_true, if_false]
  exact h

/-- As long as it is being set up, an asynchronous connection refuses statements. -/
theorem refuses_submit_of_connecting (hopen : c.guarded.status ≠ .closed) (ha : c.asynchronous = true)
    (husable : c.guarded.status.isUsable = false) (sql : String) (owner : QueryOwner) :
    c.Refuses (.submit sql owner) .setupUnderway := by
  apply runs_submit ha hopen
  unfold submit
  refine .bind_silent (.guarded c.guarded) ?_
  rw [husable]
  exact .throw _ _

/-- While a statement is in flight, an asynchronous connection refuses another one. -/
theorem refuses_submit_of_inFlight (hopen : c.guarded.status ≠ .closed) (ha : c.asynchronous = true)
    (husable : c.guarded.status.isUsable = true) (hflight : c.guarded.inFlight.isSome) (sql : String)
    (owner : QueryOwner) : c.Refuses (.submit sql owner) .queryInProgress := by
  apply runs_submit ha hopen
  unfold submit
  refine .bind_silent (.guarded c.guarded) ?_
  rw [husable]
  refine .bind_silent (.guarded c.guarded) ?_
  rw [if_pos hflight]
  exact .throw _ _

/-- A cursor may be made at once, unless the connection is being set up. -/
theorem atOnce_admitCursor (hopen : c.guarded.status ≠ .closed) (usable : Bool)
    (h : c.guarded.status.isUsable = usable) :
    c.AtOnce .admitCursor (if usable then .ok () else .error .setupUnderway) :=
  .of_runs (runs_bind_ensureOpen hopen (runs_admission usable h))

/-- On a blocking connection a large object may be opened at once, once it is set up. -/
theorem atOnce_admitLargeObject (hopen : c.guarded.status ≠ .closed) (ha : c.asynchronous = false)
    (husable : c.guarded.status.isUsable = true) : c.AtOnce .admitLargeObject (.ok ()) :=
  .of_runs (runs_blocking hopen ha (runs_admission true husable))

end Connection

end SessionLayer
