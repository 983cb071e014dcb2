import Mathlib.Logic.Relation
import SessionLayer.Proofs.Connection.Hollow
import SessionLayer.Proofs.Connection.Invariant

/-!
# The diagram of statuses

`Status.Next` draws the diagram: the edges along which a connection goes from one status to another. In
one guarded span the status stays or goes along one edge (`Status.Moves`), whatever is asked and
whatever the session answers; only the span that opens a blocking connection takes the whole way at
once. A connection that never got a session does not get beyond the handshake.
-/

set_option autoImplicit false

namespace SessionLayer

variable {σ : Type}

namespace Status

/-- The edges of the diagram. -/
inductive Next : Status → Status → Prop
  | attempted : Next setup handshake
  | connected : Next handshake (asking .dateStyle)
  | submitted (q : SetupQuery) : Next (asking q) (writing q)
  | sent (q : SetupQuery) : Next (asking q) (awaiting q)
  | written (q : SetupQuery) : Next (writing q) (awaiting q)
  | noted : Next (awaiting .dateStyle) (asking .clientEncoding)
  | completed : Next (awaiting .clientEncoding) ready
  | begun : Next ready inBlock
  | ended : Next inBlock ready
  | closing (s : Status) : Next s closed

/-- What a span may do to the status: nothing, or one step. -/
def Moves (s s' : Status) : Prop :=
  s' = s ∨ s.Next s'

theorem Moves.refl (s : Status) : s.Moves s :=
  Or.inl rfl

/-- Every status may become closed. -/
theorem Moves.closed (s : Status) : s.Moves .closed :=
  Or.inr (.closing s)

/-- How far a connection gets that has no session: it waits for its first poll, it is in the handshake, or
it is closed. -/
def IsHollow (s : Status) : Prop :=
  s = .setup ∨ s = .handshake ∨ s = .closed

namespace IsHollow

variable {s : Status}

theorem isUsable (h : s.IsHollow) : s.isUsable = false := by
  rcases h with rfl | rfl | rfl <;> rfl

theorem ne_ready (h : s.IsHollow) : s ≠ .ready := by
  rintro rfl
  exact nomatch h.isUsable

theorem ne_inBlock (h : s.IsHollow) : s ≠ .inBlock := by
  rintro rfl
  exact nomatch h.isUsable

end IsHollow

/-- What a span may do to the status of a connection without a session. -/
def StaysHollow (s s' : Status) : Prop :=
  s.Moves s' ∧ s'.IsHollow

theorem rank_le_closed (s : Status) : s.rank ≤ Status.closed.rank := by
  cases s with
  | asking q | writing q | awaiting q => cases q <;> decide
  | _ => decide

theorem Next.rank_le {s s' : Status} (h : s.Next s') : s.rank ≤ s'.rank := by
  cases h with
  | submitted q | sent q | written q => cases q <;> decide
  | closing => exact s.rank_le_closed
  | _ => decide

/-- There is no way out of the closed status. -/
theorem Moves.eq_closed {s : Status} (h : Moves .closed s) : s = .closed := by
  rcases h with h | h
  · exact h
  · cases h
    rfl

/-- However many steps are made along the diagram, the rank does not fall. -/
theorem rank_le_of_path {s s' : Status} (h : Relation.ReflTransGen Next s s') : s.rank ≤ s'.rank := by
  induction h with
  | refl => exact Nat.le_refl _
  | tail _ hnext ih => exact Nat.le_trans ih hnext.rank_le

theorem eq_closed_of_path {s s' : Status} (h : Relation.ReflTransGen Next s s') (hs : s = .closed) :
    s' = .closed := by
  induction h with
  | refl => exact hs
  | tail _ hnext ih =>
    rw [ih] at hnext
    exact Moves.eq_closed (Or.inr hnext)

end Status

namespace Guarded

open Status

variable {g g' : Guarded σ} {level : Isolation}

/-- A step of the setup goes along one edge, or waits where it is. -/
theorem moves_of_setupStep {r : Except Fault Readiness} (h : g.SetupStep level r g') :
    g.status.Moves g'.status := by
  cases h with
  | started hstatus =>
    rw [hstatus]
    exact Or.inr .attempted
  | handshakeWaits _ _ hstatus _ => exact .refl _
  | handshakeDone _ _ _ _ hstatus =>
    rw [hstatus]
    exact Or.inr .connected
  | written q session hstatus =>
    rcases hstatus with hstatus | hstatus
    · rw [hstatus]
      exact Or.inr (.sent q)
    · rw [hstatus]
      exact Or.inr (.written q)
  | pending q session hstatus =>
    rcases hstatus with hstatus | hstatus
    · rw [hstatus]
      exact Or.inr (.submitted q)
    · rw [hstatus]
      exact .refl _
  | awaits => exact .refl _
  | dateStyleNoted _ _ hstatus =>
    rw [hstatus]
    exact Or.inr .noted
  | completed _ _ hstatus _ =>
    rw [hstatus]
    exact Or.inr .completed
  | failed => exact .refl _

/-- Messages and statements in flight have nothing to do with the status. -/
theorem status_of_readyStep {r : Except Fault Readiness} {completion : Option Completion}
    (h : g.ReadyStep r g' completion) : g'.status = g.status := by
  cases h <;> rfl

theorem moves_of_pollStep {r : Except Fault Readiness} {completion : Option Completion}
    (h : g.PollStep level r g' completion) : g.status.Moves g'.status := by
  cases h with
  | closed => exact .refl _
  | setup _ _ _ hstep => exact moves_of_setupStep hstep
  | setupFailed => exact .closed _
  | ready _ hstep => exact Or.inl (status_of_readyStep hstep)

/-- To run the setup again leads to the ready status, from inside of a block or outside of one. -/
theorem moves_of_setupRun {r : Except Fault Unit} (hg : g.Consistent false)
    (hopen : g.status ≠ .closed)
    (h : (∃ x, r = .ok x ∧ g.SetupRun level r g') ∨ ∃ f g₁ stash, r = .error f ∧
      g.SetupRun level r g₁ ∧ g' = g₁.shut.stashing stash) : g.status.Moves g'.status := by
  obtain ⟨x, rfl, hrun⟩ | ⟨f, g₁, stash, -, -, rfl⟩ := h
  · cases hrun with
    | completed info session =>
      rcases hg.blocking_status rfl with hs | hs | hs
      · rw [hs]
        exact .refl _
      · rw [hs]
        exact Or.inr .ended
      · exact absurd hs hopen
  · exact .closed _

/-- The state of a connection that never got a session. -/
structure Unopened (g : Guarded σ) : Prop where
  session : g.session = none
  inFlight : g.inFlight = none
  status : g.status.IsHollow

theorem unopened_fresh (level : Isolation) : (fresh level : Guarded σ).Unopened :=
  ⟨rfl, rfl, Or.inl rfl⟩

end Guarded

namespace Connection

open SessionLayer.Span Status

variable [WireSession σ] {c : Connection σ} {s : SpanState σ}

/-! ## Operations -/

/-- Whatever is asked of a connection, and whatever its session answers, the status stays or makes one
step along the diagram. -/
theorem moves_span (h : s.guarded.Consistent c.asynchronous) (hc : s.completion = none)
    (op : Operation) : Ends (c.span op) s fun _ t => s.guarded.status.Moves t.guarded.status := by
  have hs := h.session_iff.2
  -- An operation of blocking connections is refused, or it is the span that it stands for.
  have blocking : ∀ {α : Type} {name : String} {span : Span σ α},
      (s.guarded.Consistent false → s.guarded.status ≠ .closed →
        Ends span s fun _ t => s.guarded.status.Moves t.guarded.status) →
      Ends (c.blocking name span) s fun _ t => s.guarded.status.Moves t.guarded.status := by
    intro α name span hspan
    refine c.ends_blocking (fun _ => .refl _) (fun _ => .refl _) fun hopen ha => ?_
    rw [ha] at h
    exact hspan h hopen
  have query : ∀ call : Call,
      Ends (query call) s fun _ t => s.guarded.status.Moves t.guarded.status := by
    intro call
    apply (ends_query hs call).mono
    rintro r t ⟨-, ht | ⟨-, session, ht⟩⟩
    · rw [ht]
      exact .refl _
    · rw [ht]
      exact .refl _
  have endBlock : ∀ statement, s.guarded.status ≠ .closed →
      Ends (endBlock statement) s fun _ t => s.guarded.status.Moves t.guarded.status := by
    intro statement hopen
    apply (ends_endBlock (hs hopen) statement).mono
    rintro r t ⟨-, session, ⟨ht, -⟩ | ⟨-, -, hblock, ht⟩⟩
    · rw [ht]
      exact .refl _
    · rw [ht, hblock]
      exact Or.inr .ended
  cases op with
  | poll =>
    apply (ends_poll hc hs h.asynchronous_of_isConnecting).mono
    intro r t hstep
    exact Guarded.moves_of_pollStep hstep
  | close =>
    show Ends (Span.guarded >>= fun g => if !g.isClosed then tearDown else pure ()) s _
    apply ends_bind_ok (exec_guarded s)
    split
    · apply (ends_tearDown s).mono
      rintro r t ⟨-, -, stash, ht⟩
      rw [ht]
      exact .closed _
    · exact ends_pure (.refl _)
  | reset =>
    refine blocking fun h hopen => ?_
    apply (ends_reopen (hs hopen) _).mono
    rintro r t ⟨-, hrun⟩
    exact Guarded.moves_of_setupRun h hopen hrun
  | commit | rollback => exact blocking fun _ hopen => endBlock _ hopen
  | setIsolation level =>
    refine blocking fun _ hopen => ?_
    apply (ends_setIsolation (hs hopen) level).mono
    rintro r t ⟨-, session, ⟨ht, -⟩ | ⟨-, target, -, -, ⟨ht, -⟩ | ⟨hblock, ht⟩⟩⟩
    · rw [ht]
      exact .refl _
    · rw [ht]
      exact .refl _
    · rw [ht, hblock]
      exact Or.inr .ended
  | setClientEncoding name =>
    refine blocking fun _ hopen => ?_
    apply (ends_setClientEncoding (hs hopen) name).mono
    rintro r t ⟨-, session, status, hstatus, ht⟩
    have hmoves : s.guarded.status.Moves status := by
      rcases hstatus with rfl | ⟨-, hblock, rfl⟩
      · exact .refl _
      · rw [hblock]
        exact Or.inr .ended
    rcases ht with ht | ⟨-, ht⟩
    · rw [ht]
      exact hmoves
    · rw [ht]
      exact hmoves
  | execute sql =>
    refine blocking fun _ hopen => ?_
    apply (ends_execute (hs hopen) sql).mono
    rintro r t ⟨-, session, ht | ⟨hready, -, ht⟩⟩
    · rw [ht]
      exact .refl _
    · rw [ht, hready]
      exact Or.inr .begun
  | submit sql owner =>
    refine ends_bind_ensureOpen (fun _ => .refl _) fun hopen => ?_
    cases c.asynchronous with
    | false => exact ends_throw (.refl _)
    | true =>
      apply (ends_submit (hs hopen) sql owner).mono
      rintro r t ⟨-, session, ⟨-, ht⟩ | ⟨-, -, -, phase, ht⟩⟩
      · rw [ht]
        exact .refl _
      · rw [ht]
        exact .refl _
  | transactionStatus => exact query .transactionStatus
  | parameterStatus name => exact query (.parameter name)
  | backendPid => exact query .backendPid
  | socket => exact query .socket
  | isExecuting => exact ends_bind_ensureOpen (fun _ => .refl _) fun _ => .refl _
  | admitCursor =>
    refine ends_bind_ensureOpen (fun _ => .refl _) fun _ => ?_
    apply ends_bind_ok (exec_guarded s)
    split <;> exact .refl _
  | admitLargeObject =>
    refine blocking fun _ _ => ?_
    apply ends_bind_ok (exec_guarded s)
    split <;> exact .refl _

theorem moves_perform (h : c.guarded.Consistent c.asynchronous) (op : Operation) :
    c.guarded.status.Moves (c.perform op).guarded.status :=
  status_run_of_ends (Q := fun _ => c.guarded.status.Moves)
    (moves_span (s := { guarded := c.guarded }) h rfl op)

/-! ## Connections that never got a session -/

/-- Without a session the setup does not get beyond the handshake: the first question fails. -/
theorem hollow_step (hs : Hollow s) (hstatus : s.guarded.status.IsHollow) (asynchronous : Bool)
    (level : Isolation) :
    Ends (step asynchronous level) s fun _ t =>
      s.guarded.status.StaysHollow t.guarded.status := by
  have same : s.guarded.status.StaysHollow s.guarded.status :=
    ⟨.refl _, hstatus⟩
  unfold step
  apply ends_bind_ok (exec_guarded s)
  rcases hstatus with hstatus | hstatus | hstatus
  · rw [hstatus]
    cases asynchronous with
    | true => exact ends_bind_moveTo (ends_pure ⟨Or.inr .attempted, Or.inr (Or.inl rfl)⟩)
    | false => exact ends_throw (hstatus ▸ same)
  · rw [hstatus]
    exact ends_of_exec (exec_bind_error (exec_ask_none hs.1 _)) (hstatus ▸ same)
  · rw [hstatus]
    exact ends_throw (hstatus ▸ same)

/-- A connection without a session is refused whatever needs one, and what fails while it is being set up
closes it. -/
theorem hollow_moves_span (hs : Hollow s) (hstatus : s.guarded.status.IsHollow) (op : Operation) :
    Ends (c.span op) s fun _ t =>
      s.guarded.status.StaysHollow t.guarded.status := by
  have same : s.guarded.status.StaysHollow s.guarded.status :=
    ⟨.refl _, hstatus⟩
  have shut : ∀ t : SpanState σ, Ends tearDown t fun r u => r = .ok () ∧
      s.guarded.status.StaysHollow u.guarded.status := by
    intro t
    apply (ends_tearDown t).mono
    rintro r u ⟨rfl, -, stash, hu⟩
    rw [hu]
    exact ⟨rfl, .closed _, Or.inr (Or.inr rfl)⟩
  have asked : ∀ {α : Type} (call : Call) (next : call.Answer → Span σ α),
      exec (ask call >>= next) s = (.error .closed, s) :=
    fun call next => exec_bind_error (exec_ask_none hs.1 call)
  have ended : ∀ statement, exec (endBlock statement) s = (.ok (), s) := by
    intro statement
    unfold endBlock
    rw [exec_bind_ok (exec_guarded s), if_neg fun h => hstatus.ne_inBlock h.2]
    rfl
  have blocking : ∀ {α : Type} {name : String} {span : Span σ α},
      (Ends span s fun _ t => s.guarded.status.StaysHollow t.guarded.status) →
      Ends (c.blocking name span) s fun _ t =>
        s.guarded.status.StaysHollow t.guarded.status :=
    fun h => c.ends_blocking (fun _ => same) (fun _ => same) fun _ _ => h
  have query : ∀ call : Call, Ends (query call) s fun _ t =>
      s.guarded.status.StaysHollow t.guarded.status :=
    fun call => ends_bind_ensureOpen (fun _ => same) fun _ =>
      ends_of_exec (exec_ask_none hs.1 call) same
  cases op with
  | poll =>
    show Ends (poll c.asynchronous c.setupIsolation) s _
    unfold poll
    have hstep := hollow_step hs hstatus c.asynchronous c.setupIsolation
    have hended : Ends (orTearDown (step c.asynchronous c.setupIsolation)) s fun _ t =>
        s.guarded.status.StaysHollow t.guarded.status :=
      ends_orTearDown (hstep.mono fun r t ht => ⟨fun _ _ => ht, fun _ _ => shut t⟩)
    apply ends_bind_ok (exec_guarded s)
    split
    · exact hended
    · exact hstep
  | close =>
    show Ends (Span.guarded >>= fun g => if !g.isClosed then tearDown else pure ()) s _
    apply ends_bind_ok (exec_guarded s)
    split
    · exact (shut s).mono fun _ _ h => h.2
    · exact ends_pure same
  | reset =>
    apply blocking
    apply ends_orTearDown
    exact ends_of_exec (asked _ _) ⟨fun _ _ => same, fun _ _ => shut s⟩
  | commit | rollback => exact blocking (ends_of_exec (ended _) same)
  | setIsolation level =>
    apply blocking
    show Ends (setIsolation level) s _
    unfold setIsolation
    cases Isolation.ofLevel level with
    | error fault => exact ends_throw same
    | ok target =>
      apply ends_bind_ok (t := s) (x := target) rfl
      apply ends_bind_ok (exec_guarded s)
      dsimp only
      split
      · split
        · exact ends_bind_ok (ended _) (ends_of_exec (exec_update _ s) same)
        · exact ends_of_exec (exec_update _ s) same
      · exact ends_pure same
  | setClientEncoding name =>
    apply blocking
    show Ends (setClientEncoding name) s _
    unfold setClientEncoding
    apply ends_bind_ok (exec_guarded s)
    split
    · exact ends_bind_ok (ended _) (ends_of_exec (exec_bind_error (asked _ _)) same)
    · exact ends_pure same
  | execute sql =>
    have hbegun : exec beginIfNeeded s = (.ok (), s) := by
      unfold beginIfNeeded
      rw [exec_bind_ok (exec_guarded s), if_neg hstatus.ne_ready]
      rfl
    exact blocking (ends_bind_ok hbegun (ends_of_exec (asked _ _) same))
  | submit sql owner =>
    refine ends_bind_ensureOpen (fun _ => same) fun _ => ?_
    cases c.asynchronous with
    | false => exact ends_throw same
    | true =>
      show Ends (submit sql owner) s _
      unfold submit
      apply ends_bind_ok (exec_guarded s)
      rw [hstatus.isUsable]
      exact ends_throw same
  | transactionStatus | parameterStatus _ | backendPid | socket => exact query _
  | isExecuting => exact ends_bind_ensureOpen (fun _ => same) fun _ => same
  | admitCursor =>
    refine ends_bind_ensureOpen (fun _ => same) fun _ => ?_
    apply ends_bind_ok (exec_guarded s)
    split <;> exact same
  | admitLargeObject =>
    apply blocking
    apply ends_bind_ok (exec_guarded s)
    split <;> exact same

theorem staysHollow_perform (h : c.guarded.Unopened) (op : Operation) :
    c.guarded.status.StaysHollow (c.perform op).guarded.status := by
  have hs : Hollow { guarded := c.guarded } := ⟨h.session, h.inFlight, rfl⟩
  exact status_run_of_ends (Q := fun _ => c.guarded.status.StaysHollow)
    (hollow_moves_span hs h.status op)

/-! ## All connections -/

/-- The connection is settled, or it never got a session. -/
def Orderly (c : Connection σ) : Prop :=
  c.guarded.Settled c.asynchronous ∨ c.guarded.Unopened

/-- Operations keep a connection orderly. -/
theorem Orderly.perform (h : c.Orderly) (op : Operation) :
    { c with guarded := (c.perform op).guarded }.Orderly := by
  rcases h with h | h
  · exact Or.inl (settled_perform h op)
  · obtain ⟨hsession, hflight, -⟩ := hollow_perform h.session h.inFlight op
    exact Or.inr ⟨hsession, hflight, (staysHollow_perform h op).2⟩

/-- In one guarded span the status stays, or it makes one step along the diagram. -/
theorem Orderly.moves (h : c.Orderly) (op : Operation) :
    c.guarded.status.Moves (c.perform op).guarded.status := by
  rcases h with h | h
  · exact moves_perform h.1 op
  · exact (staysHollow_perform h op).1

end Connection

end SessionLayer
