import SessionLayer.Connection.Span

/-!
# How spans run

One equation for each way to build a span: what it yields and what it leaves behind, as given by
`Span.exec`. A span that fails keeps what it did before, and one that asks a connection without a
session fails as on a closed one.
-/

set_option autoImplicit false

namespace SessionLayer.Span

variable {σ α β : Type}

@[simp] theorem exec_pure (x : α) (s : SpanState σ) : exec (pure x) s = (.ok x, s) :=
  rfl

@[simp] theorem exec_throw (f : Fault) (s : SpanState σ) :
    exec (throw f : Span σ α) s = (.error f, s) :=
  rfl

/-- A fault ends a span where it arises. -/
theorem exec_bind (span : Span σ α) (next : α → Span σ β) (s : SpanState σ) :
    exec (span >>= next) s =
      match span.exec s with
      | (.ok x, t) => (next x).exec t
      | (.error f, t) => (.error f, t) := by
  show (ExceptT.bindCont next ((ExceptT.run span).run s).1).run ((ExceptT.run span).run s).2 = _
  unfold exec
  rcases (ExceptT.run span).run s with ⟨_ | _, _⟩ <;> rfl

theorem exec_bind_ok {span : Span σ α} {next : α → Span σ β} {s t : SpanState σ} {x : α}
    (h : span.exec s = (.ok x, t)) : exec (span >>= next) s = (next x).exec t := by
  rw [exec_bind, h]

theorem exec_bind_error {span : Span σ α} {next : α → Span σ β} {s t : SpanState σ} {f : Fault}
    (h : span.exec s = (.error f, t)) : exec (span >>= next) s = (.error f, t) := by
  rw [exec_bind, h]

@[simp] theorem exec_map (g : α → β) (span : Span σ α) (s : SpanState σ) :
    exec (g <$> span) s = ((span.exec s).1.map g, (span.exec s).2) := by
  show exec (span >>= fun x => pure (g x)) s = _
  rw [exec_bind]
  rcases span.exec s with ⟨_ | _, _⟩ <;> rfl

/-- A handler goes on from where the fault arose. -/
theorem exec_tryCatch (span : Span σ α) (handler : Fault → Span σ α) (s : SpanState σ) :
    exec (tryCatch span handler) s =
      match span.exec s with
      | (.ok x, t) => (.ok x, t)
      | (.error f, t) => (handler f).exec t := by
  unfold exec
  simp only [tryCatch, tryCatchThe, MonadExceptOf.tryCatch, ExceptT.tryCatch, ExceptT.run_mk,
    StateT.run_bind]
  show ((ExceptT.run span).run s >>= _ : Id _) = _
  rcases (ExceptT.run span).run s with ⟨_ | _, _⟩ <;> rfl

@[simp] theorem exec_guarded (s : SpanState σ) : exec guarded s = (.ok s.guarded, s) :=
  rfl

@[simp] theorem exec_update (f : Guarded σ → Guarded σ) (s : SpanState σ) :
    exec (update f) s = (.ok (), { s with guarded := f s.guarded }) :=
  rfl

@[simp] theorem exec_moveTo (status : Status) (s : SpanState σ) :
    exec (moveTo status) s = (.ok (), { s with guarded := { s.guarded with status } }) :=
  rfl

theorem exec_ensureOpen (s : SpanState σ) :
    exec ensureOpen s = (if s.guarded.isClosed then .error .closed else .ok (), s) := by
  unfold ensureOpen
  rw [exec_bind_ok (exec_guarded s)]
  split <;> rfl

@[simp] theorem exec_sent (outcome : Except String α) (s : SpanState σ) :
    exec (sent outcome) s = (outcome.mapError .transport, s) := by
  cases outcome <;> rfl

@[simp] theorem exec_complete (flight : InFlight) (outcome : Except Fault (List QueryResult))
    (s : SpanState σ) :
    exec (complete flight outcome) s =
      (.ok (),
        { s with
          guarded := { s.guarded with inFlight := none }
          completion := some { owner := flight.owner, outcome } }) :=
  rfl

variable [WireSession σ]

theorem exec_ask_none {s : SpanState σ} (h : s.guarded.session = none) (call : Call) :
    exec (ask call) s = (.error .closed, s) := by
  unfold ask
  rw [exec_bind_ok (exec_guarded s), h]
  rfl

theorem exec_ask_some {s : SpanState σ} {session : σ} (h : s.guarded.session = some session)
    (call : Call) :
    exec (ask call) s =
      (.ok (WireSession.respond call session).1,
        { s with
          guarded := { s.guarded with session := some (WireSession.respond call session).2 }
          exchanges :=
            s.exchanges ++ [{ call, answer := (WireSession.respond call session).1 }] }) := by
  unfold ask
  rw [exec_bind_ok (exec_guarded s), h]
  rfl

theorem fetchAll_of_none {session : σ}
    (h : (WireSession.respond .getResult session).1 = none) :
    fetchAll session = ([], (WireSession.respond .getResult session).2) := by
  rw [fetchAll]
  split
  · rename_i hs
    rw [hs]
  · rename_i hs
    rw [hs] at h
    cases h

theorem fetchAll_of_some {session : σ} {result : QueryResult}
    (h : (WireSession.respond .getResult session).1 = some result) :
    fetchAll session =
      (result :: (fetchAll (WireSession.respond .getResult session).2).1,
        (fetchAll (WireSession.respond .getResult session).2).2) := by
  rw [fetchAll]
  split
  · rename_i hs
    rw [hs] at h
    cases h
  · rename_i hs
    rw [hs] at h ⊢
    cases h
    rfl

theorem exec_askResults_none {s : SpanState σ} (h : s.guarded.session = none) :
    exec askResults s = (.error .closed, s) := by
  unfold askResults
  rw [exec_bind_ok (exec_guarded s), h]
  rfl

theorem exec_askResults_some {s : SpanState σ} {session : σ}
    (h : s.guarded.session = some session) :
    exec askResults s =
      (.ok (fetchAll session).1,
        { s with
          guarded := { s.guarded with session := some (fetchAll session).2 }
          exchanges := s.exchanges ++ fetchExchanges (fetchAll session).1 }) := by
  unfold askResults
  rw [exec_bind_ok (exec_guarded s), h]
  rfl

/-- A failure is passed on after the connection has been closed. -/
theorem exec_orTearDown (span : Span σ α) (s : SpanState σ) :
    exec (orTearDown span) s =
      match span.exec s with
      | (.ok x, t) => (.ok x, t)
      | (.error f, t) => ((tearDown.exec t).1.bind fun _ => .error f, (tearDown.exec t).2) := by
  unfold orTearDown
  rw [exec_tryCatch]
  rcases span.exec s with ⟨f | x, t⟩
  · simp only [exec_bind]
    rcases tearDown.exec t with ⟨_ | _, _⟩ <;> rfl
  · rfl

end SessionLayer.Span
