import SessionLayer.Proofs.Connection.Steps

/-!
# The invariant of connections

`Guarded.Consistent` says which combinations of the guarded fields a connection can be in, and
`Guarded.Settled` adds that no message waits to be delivered. Opening a connection establishes the
invariant, and every operation preserves it, whatever the session answers.
-/

set_option autoImplicit false

namespace SessionLayer

variable {σ : Type}

namespace Guarded

/-- The combinations of fields that a connection can be in outside of its spans. -/
structure Consistent (asynchronous : Bool) (g : Guarded σ) : Prop where
  /-- The session is there exactly as long as the connection is not closed. -/
  session_iff : g.session.isSome ↔ g.status ≠ .closed
  inFlight : g.inFlight.isSome → asynchronous = true ∧ g.status = .ready
  /-- An asynchronous connection knows no transaction blocks. -/
  asynchronous_level : asynchronous = true → g.isolation = .autocommit ∧ g.status ≠ .inBlock
  blocking_status :
    asynchronous = false → g.status = .ready ∨ g.status = .inBlock ∨ g.status = .closed
  inBlock_level : g.status = .inBlock → g.isolation ≠ .autocommit
  usable_info : g.status.isUsable → g.info.isSome
  connecting_info : g.status.isConnecting → g.info = none
  /-- The second question is asked only once the answer to the first one has been noted. -/
  dateStyle_noted : g.status = .asking .clientEncoding ∨ g.status = .writing .clientEncoding ∨
    g.status = .awaiting .clientEncoding → g.progress.dateStyle.isSome

/-- A consistent state from which every message has been taken over. -/
def Settled (asynchronous : Bool) (g : Guarded σ) : Prop :=
  g.Consistent asynchronous ∧ g.stash = .empty

variable {asynchronous : Bool} {g g' : Guarded σ} {level : Isolation}

namespace Consistent

/-! ## Kinds of changes -/

/-- Only asynchronous connections are set up by polls. -/
theorem asynchronous_of_isConnecting (h : g.Consistent asynchronous)
    (hconnecting : g.status.isConnecting) : asynchronous = true := by
  cases asynchronous with
  | true => rfl
  | false =>
    rcases h.blocking_status rfl with hs | hs | hs <;>
      · rw [hs] at hconnecting
        exact nomatch hconnecting

theorem inFlight_eq_none (h : g.Consistent false) : g.inFlight = none := by
  cases hflight : g.inFlight with
  | none => rfl
  | some flight => exact nomatch (h.inFlight (by rw [hflight]; rfl)).1

/-- While a connection is open, its session may be in any state. -/
theorem on (h : g.Consistent asynchronous) (hopen : g.status ≠ .closed) (session : σ) :
    (g.on session).Consistent asynchronous :=
  { h with session_iff := ⟨fun _ => hopen, fun _ => rfl⟩ }

theorem stashing (h : g.Consistent asynchronous) (stash : Batch) :
    (g.stashing stash).Consistent asynchronous :=
  { h with }

/-- A connection that has been closed is consistent, whatever happened before. -/
theorem of_shut (hlevel : asynchronous = true → g.isolation = .autocommit) (stash : Batch) :
    (g.shut.stashing stash).Consistent asynchronous where
  session_iff := ⟨fun h => (nomatch h), fun h => absurd rfl h⟩
  inFlight := fun h => nomatch h
  asynchronous_level := fun h => ⟨hlevel h, fun h => (nomatch h)⟩
  blocking_status := fun _ => Or.inr (Or.inr rfl)
  inBlock_level := fun h => nomatch h
  usable_info := fun h => nomatch h
  connecting_info := fun h => nomatch h
  dateStyle_noted := by
    rintro (h | h | h) <;> exact nomatch h

/-- A blocking connection may open and end blocks at the levels that have them. -/
theorem of_blocking (h : g.Consistent false) {session : σ} {status : Status} {level : Isolation}
    {info : Option SessionInfo} (hopen : g.status ≠ .closed)
    (hstatus : status = .ready ∨ (status = .inBlock ∧ level ≠ .autocommit))
    (hinfo : g.info.isSome → info.isSome) :
    { g.on session with status, isolation := level, info }.Consistent false where
  session_iff := by
    refine ⟨fun _ hclosed => ?_, fun _ => rfl⟩
    rcases hstatus with hready | ⟨hblock, -⟩
    · exact nomatch hready.symm.trans hclosed
    · exact nomatch hblock.symm.trans hclosed
  inFlight := fun hflight => nomatch (h.inFlight hflight).1
  asynchronous_level := fun h => nomatch h
  blocking_status := fun _ => by
    rcases hstatus with hready | ⟨hblock, -⟩
    · exact Or.inl hready
    · exact Or.inr (Or.inl hblock)
  inBlock_level := by
    rintro hblock
    rcases hstatus with hready | ⟨-, hlevel⟩
    · exact nomatch hready.symm.trans hblock
    · exact hlevel
  usable_info := fun _ => hinfo (h.usable_info (by
    rcases h.blocking_status rfl with hs | hs | hs
    · rw [hs]; rfl
    · rw [hs]; rfl
    · exact absurd hs hopen))
  connecting_info := by
    rintro hconnecting
    rcases hstatus with rfl | ⟨rfl, -⟩ <;> exact nomatch hconnecting
  dateStyle_noted := by
    rcases hstatus with rfl | ⟨rfl, -⟩ <;> rintro (h | h | h) <;> exact nomatch h

/-- An asynchronous connection may go from one stage of the setup to another, with the notes that the
stage needs. -/
theorem of_connecting (h : g.Consistent true) (hconnecting : g.status.isConnecting) {session : σ}
    {status : Status} {progress : SetupProgress} (hstatus : status.isConnecting)
    (hnoted : status = .asking .clientEncoding ∨ status = .writing .clientEncoding ∨
      status = .awaiting .clientEncoding → progress.dateStyle.isSome) :
    { g.on session with status, progress }.Consistent true where
  session_iff := ⟨fun _ => Status.ne_closed_of_isConnecting hstatus, fun _ => rfl⟩
  inFlight := fun hflight => by
    have hready := (h.inFlight hflight).2
    rw [hready] at hconnecting
    exact nomatch hconnecting
  asynchronous_level := fun _ => by
    refine ⟨(h.asynchronous_level rfl).1, fun hblock => ?_⟩
    subst hblock
    exact nomatch hstatus
  blocking_status := fun h => nomatch h
  inBlock_level := fun hblock => by
    subst hblock
    exact nomatch hstatus
  usable_info := fun husable =>
    nomatch (Status.isUsable_of_isConnecting hstatus).symm.trans husable
  connecting_info := fun _ => h.connecting_info hconnecting
  dateStyle_noted := hnoted

/-- Completing the setup makes a connection usable. -/
theorem of_established (hflight : g.inFlight.isSome → asynchronous = true)
    (hlevel : asynchronous = true → level = .autocommit) (session : σ) (info : SessionInfo) :
    ((g.on session).established info level).Consistent asynchronous where
  session_iff := ⟨fun _ => Status.noConfusion, fun _ => rfl⟩
  inFlight := fun h => ⟨hflight h, rfl⟩
  asynchronous_level := fun ha => ⟨hlevel ha, Status.noConfusion⟩
  blocking_status := fun _ => Or.inl rfl
  inBlock_level := fun h => nomatch h
  usable_info := fun _ => rfl
  connecting_info := fun h => nomatch h
  dateStyle_noted := by
    rintro (h | h | h) <;> exact nomatch h

/-! ## Steps -/

/-- A setup in one go leaves a blocking connection usable, or closed. -/
theorem of_setupRun {r : Except Fault Unit} (hflight : g.inFlight = none)
    (h : (∃ x, r = .ok x ∧ g.SetupRun level r g') ∨ ∃ f g₁ stash, r = .error f ∧
      g.SetupRun level r g₁ ∧ g' = g₁.shut.stashing stash) : g'.Consistent false := by
  obtain ⟨x, rfl, hrun⟩ | ⟨f, g₁, stash, -, -, rfl⟩ := h
  · cases hrun with
    | completed info session =>
      exact of_established (by simp [hflight]) Bool.noConfusion session info
  · exact of_shut Bool.noConfusion stash

/-- A step of the setup keeps to the stages of the setup, or it completes it. -/
theorem of_setupStep {readiness : Readiness} (h : g.Consistent true)
    (hconnecting : g.status.isConnecting) (hstep : g.SetupStep .autocommit (.ok readiness) g') :
    g'.Consistent true := by
  have hopen := Status.ne_closed_of_isConnecting hconnecting
  cases hstep with
  | started hstatus =>
    obtain ⟨session, hsession⟩ := Option.isSome_iff_exists.1 (h.session_iff.2 hopen)
    rw [← Guarded.on_eq_self hsession]
    exact h.of_connecting hconnecting rfl (by simp)
  | handshakeWaits _ session hstatus _ => exact h.on hopen session
  | handshakeDone standard serverVersion protocolVersion session hstatus =>
    exact h.of_connecting hconnecting rfl (by simp)
  | written q session hstatus =>
    refine h.of_connecting hconnecting rfl fun hq => h.dateStyle_noted ?_
    rcases hstatus with hstatus | hstatus <;> simp_all
  | pending q session hstatus =>
    refine h.of_connecting hconnecting rfl fun hq => h.dateStyle_noted ?_
    rcases hstatus with hstatus | hstatus <;> simp_all
  | awaits q session hstatus => exact h.on hopen session
  | dateStyleNoted dateStyle session hstatus => exact h.of_connecting hconnecting rfl fun _ => rfl
  | completed info session hstatus hnoted =>
    exact of_established (fun _ => rfl) (fun _ => rfl) session info

/-- A step of the setup that fails has not touched the isolation level. -/
theorem isolation_of_setupStep_error {fault : Fault} (hstep : g.SetupStep level (.error fault) g') :
    g'.isolation = g.isolation := by
  cases hstep with
  | failed _ progress session => rfl

/-- A step on a connection that is set up starts no statement. -/
theorem of_readyStep {r : Except Fault Readiness} {completion : Option Completion}
    (h : g.Consistent asynchronous) (husable : g.status.isUsable)
    (hstep : g.ReadyStep r g' completion) : g'.Consistent asynchronous := by
  have hopen := Status.ne_closed_of_isUsable husable
  cases hstep with
  | idle session _ | idleFailed text session _ | pending flight session _ _
  | awaits flight session _ _ => exact h.on hopen session
  | written flight session hflight _ =>
    exact { h.on hopen session with inFlight := fun _ => h.inFlight (by simp [hflight]) }
  | completed flight results session _ _ | abandoned flight text session _ =>
    exact { h.on hopen session with inFlight := fun h => nomatch h }

/-- A poll preserves the invariant. -/
theorem of_pollStep {r : Except Fault Readiness} {completion : Option Completion}
    (h : g.Consistent asynchronous) (hlevel : asynchronous = true → level = .autocommit)
    (hstep : g.PollStep level r g' completion) : g'.Consistent asynchronous := by
  cases hstep with
  | closed _ => exact h
  | setup readiness _ hconnecting hstep =>
    have hasynchronous := h.asynchronous_of_isConnecting hconnecting
    subst hasynchronous
    rw [hlevel rfl] at hstep
    exact h.of_setupStep hconnecting hstep
  | setupFailed fault g₁ stash hconnecting hstep =>
    refine of_shut (fun ha => ?_) stash
    rw [isolation_of_setupStep_error hstep]
    exact (h.asynchronous_level ha).1
  | ready husable hstep => exact h.of_readyStep husable hstep

/-- A change of an open block on a blocking connection, at most. -/
theorem of_status (h : g.Consistent false) (hopen : g.status ≠ .closed) {session : σ}
    {status : Status} (hstatus : status = g.status ∨ status = .ready ∨
      (status = .inBlock ∧ g.isolation ≠ .autocommit)) :
    { g.on session with status }.Consistent false := by
  rcases hstatus with rfl | hstatus
  · exact h.on hopen session
  · exact h.of_blocking hopen hstatus id

end Consistent

end Guarded

namespace Connection

open SessionLayer.Span Guarded

variable [WireSession σ] {c : Connection σ} {s : SpanState σ}

/-! ## Operations -/

omit [WireSession σ] in
/-- The level that a setup ends with is one that the connection may have. -/
theorem setupIsolation_of_asynchronous (h : c.asynchronous = true) :
    c.setupIsolation = .autocommit := by
  rw [setupIsolation, h]
  rfl

/-- A statement of a blocking connection may open a block, at a level that has blocks. -/
theorem consistent_execute (h : s.guarded.Consistent false) (hopen : s.guarded.status ≠ .closed)
    (sql : String) : Ends (execute sql) s fun _ t => t.guarded.Consistent false := by
  apply (ends_execute (h.session_iff.2 hopen) sql).mono
  rintro r t ⟨-, session, ht | ⟨-, hlevel, ht⟩⟩
  · rw [ht]
    exact h.on hopen session
  · rw [ht]
    exact h.of_status hopen (Or.inr (Or.inr ⟨rfl, hlevel⟩))

/-- The end of a block leaves the connection ready. -/
theorem consistent_endBlock (h : s.guarded.Consistent false) (hopen : s.guarded.status ≠ .closed)
    (statement : String) :
    Ends (endBlock statement) s fun _ t => t.guarded.Consistent false := by
  apply (ends_endBlock (h.session_iff.2 hopen) statement).mono
  rintro r t ⟨-, session, ⟨ht, -⟩ | ⟨-, -, -, ht⟩⟩
  · rw [ht]
    exact h.on hopen session
  · rw [ht]
    exact h.of_status hopen (Or.inr (Or.inl rfl))

/-- A change of the level never leaves a block open at a level that has none. -/
theorem consistent_setIsolation (h : s.guarded.Consistent false)
    (hopen : s.guarded.status ≠ .closed) (level : Int) :
    Ends (setIsolation level) s fun _ t => t.guarded.Consistent false := by
  apply (ends_setIsolation (h.session_iff.2 hopen) level).mono
  rintro r t ⟨-, session, ⟨ht, -⟩ | ⟨-, target, -, -, ⟨ht, hblock⟩ | ⟨-, ht⟩⟩⟩
  · rw [ht]
    exact h.on hopen session
  · have hready : s.guarded.status = .ready := by
      rcases h.blocking_status rfl with hs | hs | hs
      · exact hs
      · rcases hblock with hauto | hblock
        · exact absurd hauto (h.inBlock_level hs)
        · exact absurd hs hblock
      · exact absurd hs hopen
    rw [ht]
    exact h.of_blocking hopen (Or.inl hready) id
  · rw [ht]
    exact h.of_blocking hopen (Or.inl rfl) id

/-- A change of the encoding keeps the information there, and may undo an open block. -/
theorem consistent_setClientEncoding (h : s.guarded.Consistent false)
    (hopen : s.guarded.status ≠ .closed) (name : String) :
    Ends (setClientEncoding name) s fun _ t => t.guarded.Consistent false := by
  apply (ends_setClientEncoding (h.session_iff.2 hopen) name).mono
  rintro r t ⟨-, session, status, hstatus, ht⟩
  have hkept : { s.guarded.on session with status }.Consistent false := by
    refine h.of_status hopen ?_
    rcases hstatus with hsame | ⟨-, -, hready⟩
    · exact Or.inl hsame
    · exact Or.inr (Or.inl hready)
  rcases ht with ht | ⟨-, ht⟩
  · rw [ht]
    exact hkept
  · rw [ht]
    refine { hkept with
      usable_info := fun husable => ?_
      connecting_info := fun hconnecting => ?_ }
    · rw [Option.isSome_map]
      exact hkept.usable_info husable
    · rw [Option.map_eq_none_iff]
      exact hkept.connecting_info hconnecting

/-- A statement is in flight only on an asynchronous connection that is set up. -/
theorem consistent_submit (h : s.guarded.Consistent true) (hopen : s.guarded.status ≠ .closed)
    (sql : String) (owner : QueryOwner) :
    Ends (submit sql owner) s fun _ t => t.guarded.Consistent true := by
  apply (ends_submit (h.session_iff.2 hopen) sql owner).mono
  rintro r t ⟨-, session, ⟨-, ht⟩ | ⟨-, husable, -, phase, ht⟩⟩
  · rw [ht]
    exact h.on hopen session
  · have hready : s.guarded.status = .ready := by
      cases hstatus : s.guarded.status with
      | ready => rfl
      | inBlock => exact absurd hstatus (h.asynchronous_level rfl).2
      | _ =>
        rw [hstatus] at husable
        exact nomatch husable
    rw [ht]
    exact { h.on hopen session with inFlight := fun _ => ⟨rfl, hready⟩ }

/-- Closing a connection that is open preserves the invariant. -/
theorem consistent_close (h : s.guarded.Consistent c.asynchronous) :
    Ends (c.span .close) s fun _ t => t.guarded.Consistent c.asynchronous := by
  show Ends (Span.guarded >>= fun g => if !g.isClosed then tearDown else pure ()) s _
  apply ends_bind_ok (exec_guarded s)
  split
  · apply (ends_tearDown s).mono
    rintro r t ⟨-, -, stash, ht⟩
    rw [ht]
    exact .of_shut (fun ha => (h.asynchronous_level ha).1) stash
  · exact ends_pure h

/-- Whatever is asked of a connection, and whatever its session answers, the span preserves the
invariant. -/
theorem consistent_span (h : s.guarded.Consistent c.asynchronous) (hc : s.completion = none)
    (op : Operation) : Ends (c.span op) s fun _ t => t.guarded.Consistent c.asynchronous := by
  have hs := h.session_iff.2
  -- An operation of blocking connections is refused, or it is the span that it stands for.
  have blocking : ∀ {α : Type} {name : String} {span : Span σ α},
      (s.guarded.Consistent false → s.guarded.status ≠ .closed →
        Ends span s fun _ t => t.guarded.Consistent false) →
      Ends (c.blocking name span) s fun _ t => t.guarded.Consistent c.asynchronous := by
    intro α name span hspan
    refine c.ends_blocking (fun _ => h) (fun _ => h) fun hopen ha => ?_
    rw [ha] at h ⊢
    exact hspan h hopen
  have query : ∀ call : Call,
      Ends (query call) s fun _ t => t.guarded.Consistent c.asynchronous := by
    intro call
    apply (ends_query hs call).mono
    rintro r t ⟨-, ht | ⟨hopen, session, ht⟩⟩
    · rw [ht]
      exact h
    · rw [ht]
      exact h.on hopen session
  cases op with
  | poll =>
    apply (ends_poll hc hs h.asynchronous_of_isConnecting).mono
    rintro r t hstep
    exact h.of_pollStep setupIsolation_of_asynchronous hstep
  | close => exact consistent_close h
  | reset =>
    refine blocking fun h hopen => ?_
    apply (ends_reopen (hs hopen) _).mono
    rintro r t ⟨-, hrun⟩
    exact Consistent.of_setupRun h.inFlight_eq_none hrun
  | commit => exact blocking fun h hopen => consistent_endBlock h hopen _
  | rollback => exact blocking fun h hopen => consistent_endBlock h hopen _
  | setIsolation level => exact blocking fun h hopen => consistent_setIsolation h hopen level
  | setClientEncoding name =>
    exact blocking fun h hopen => consistent_setClientEncoding h hopen name
  | execute sql => exact blocking fun h hopen => consistent_execute h hopen sql
  | submit sql owner =>
    refine ends_bind_ensureOpen (fun _ => h) fun hopen => ?_
    cases ha : c.asynchronous with
    | true =>
      rw [ha] at h
      exact consistent_submit h hopen sql owner
    | false =>
      rw [ha] at h
      exact h
  | transactionStatus => exact query .transactionStatus
  | parameterStatus name => exact query (.parameter name)
  | backendPid => exact query .backendPid
  | socket => exact query .socket
  | isExecuting => exact ends_bind_ensureOpen (fun _ => h) fun _ => h
  | admitCursor =>
    refine ends_bind_ensureOpen (fun _ => h) fun _ => ?_
    apply ends_bind_ok (exec_guarded s)
    split <;> exact h
  | admitLargeObject =>
    refine blocking fun h _ => ?_
    apply ends_bind_ok (exec_guarded s)
    split <;> exact h

/-- Once the guard is released, no message waits any more. -/
theorem settled_run {α : Type} {asynchronous : Bool} {g : Guarded σ} {span : Span σ α}
    (h : Ends span { guarded := g } fun _ t => t.guarded.Consistent asynchronous) :
    (run span g).guarded.Settled asynchronous := by
  obtain ⟨t, ht, -, hrun | ⟨session, hsession, hrun⟩⟩ := run_of_ends h
  · rw [hrun]
    exact ⟨ht.stashing .empty, rfl⟩
  · rw [hrun]
    exact ⟨(ht.on (ht.session_iff.1 hsession) session).stashing .empty, rfl⟩

/-- Every operation on a connection preserves the invariant. -/
theorem settled_perform (h : c.guarded.Settled c.asynchronous) (op : Operation) :
    (c.perform op).guarded.Settled c.asynchronous :=
  settled_run (consistent_span h.1 rfl op)

/-- A connection that is opened with a session has the invariant from then on: it waits for the first
poll, or the blocking setup has been run. -/
theorem settled_open (key : Nat) (dsn : String) (asynchronous hooked : Bool) (settings : Settings)
    (session : σ) :
    (run (do
        update ({ · with session := some session })
        if !asynchronous then
          Span.establish (create key dsn asynchronous hooked settings : Connection σ).setupIsolation)
      (create key dsn asynchronous hooked settings : Connection σ).guarded).guarded.Settled
        asynchronous := by
  apply settled_run
  apply ends_bind_update
  cases asynchronous with
  | true =>
    refine ends_pure ?_
    exact
      { session_iff := ⟨fun _ => Status.noConfusion, fun _ => rfl⟩
        inFlight := fun h => nomatch h
        asynchronous_level := fun _ => ⟨rfl, Status.noConfusion⟩
        blocking_status := Bool.noConfusion
        inBlock_level := fun h => nomatch h
        usable_info := fun h => nomatch h
        connecting_info := fun _ => rfl
        dateStyle_noted := by rintro (h | h | h) <;> exact nomatch h }
  | false =>
    apply (ends_establish rfl _).mono
    rintro r t ⟨-, hrun⟩
    exact Consistent.of_setupRun rfl hrun

end Connection

end SessionLayer
