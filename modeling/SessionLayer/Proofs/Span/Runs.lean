import SessionLayer.Connection.Polling
import SessionLayer.Proofs.Span.Ends

/-!
# Exact runs of spans

`Span.Runs span g xs r g'` says what a span does on a given guarded state: the exchanges `xs`, the
result `r` and the state `g'` that it leaves behind. There is one rule for each way to build a span, so
the run of a span on a known session is put together from the answers of the session. `Span.Lasts`
leaves the exchanges open, but for that the session is not ended.
-/

set_option autoImplicit false

namespace SessionLayer.Span

variable {σ α β : Type}

/-- The span makes the exchanges `xs` on the state `g`, yields `r` and leaves `g'` behind. -/
def Runs (span : Span σ α) (g : Guarded σ) (xs : List Exchange) (r : Except Fault α)
    (g' : Guarded σ) : Prop :=
  ∀ s : SpanState σ, s.guarded = g →
    span.exec s = (r, { s with guarded := g', exchanges := s.exchanges ++ xs })

namespace Runs

variable {g g₁ g₂ : Guarded σ} {xs ys : List Exchange}

theorem pure (x : α) (g : Guarded σ) : Runs (Pure.pure x) g [] (.ok x) g := by
  rintro s rfl
  rw [List.append_nil]
  rfl

theorem throw (f : Fault) (g : Guarded σ) :
    Runs (MonadExcept.throw f : Span σ α) g [] (.error f) g := by
  rintro s rfl
  rw [List.append_nil]
  rfl

theorem guarded (g : Guarded σ) : Runs Span.guarded g [] (.ok g) g := by
  rintro s rfl
  rw [List.append_nil]
  rfl

theorem update (f : Guarded σ → Guarded σ) (g : Guarded σ) :
    Runs (Span.update f) g [] (.ok ()) (f g) := by
  rintro s rfl
  rw [List.append_nil]
  rfl

theorem sent_ok (x : α) (g : Guarded σ) : Runs (sent (.ok x)) g [] (.ok x) g :=
  pure x g

theorem sent_error (text : String) (g : Guarded σ) :
    Runs (sent (.error text) : Span σ α) g [] (.error (.transport text)) g :=
  throw _ g

theorem lift {x r : Except Fault α} (h : x = r) (g : Guarded σ) :
    Runs (liftM x : Span σ α) g [] r g := by
  subst h
  cases x with
  | ok y => exact pure y g
  | error f => exact throw f g

theorem bind {span : Span σ α} {next : α → Span σ β} {x : α} {r : Except Fault β}
    (h : Runs span g xs (.ok x) g₁) (hnext : Runs (next x) g₁ ys r g₂) :
    Runs (span >>= next) g (xs ++ ys) r g₂ := by
  intro s hs
  rw [exec_bind_ok (h s hs), hnext _ rfl]
  simp only [List.append_assoc]

/-- A fault ends a span where it arises. -/
theorem bind_error {span : Span σ α} {next : α → Span σ β} {f : Fault}
    (h : Runs span g xs (.error f) g₁) : Runs (span >>= next) g xs (.error f) g₁ := by
  intro s hs
  rw [exec_bind_error (h s hs)]

theorem bind_silent {span : Span σ α} {next : α → Span σ β} {x : α} {r : Except Fault β}
    (h : Runs span g [] (.ok x) g₁) (hnext : Runs (next x) g₁ ys r g₂) :
    Runs (span >>= next) g ys r g₂ :=
  h.bind hnext

/-- After the last exchange a span may go on in silence. -/
theorem bind_last {span : Span σ α} {next : α → Span σ β} {x : α} {r : Except Fault β}
    (h : Runs span g xs (.ok x) g₁) (hnext : Runs (next x) g₁ [] r g₂) :
    Runs (span >>= next) g xs r g₂ := by
  have hruns := h.bind hnext
  rwa [List.append_nil] at hruns

theorem ensureOpen (h : g.status ≠ .closed) : Runs Span.ensureOpen g [] (.ok ()) g := by
  unfold Span.ensureOpen
  refine bind_silent (.guarded g) ?_
  rw [if_neg (by simpa [Guarded.isClosed] using h)]
  exact .pure () g

theorem ensureOpen_closed (h : g.status = .closed) : Runs Span.ensureOpen g [] (.error .closed) g := by
  unfold Span.ensureOpen
  refine bind_silent (.guarded g) ?_
  rw [if_pos (by simp [Guarded.isClosed, h])]
  exact .throw _ g

variable [WireSession σ]

theorem ask {session : σ} (h : g.session = some session) (call : Call) :
    Runs (Span.ask call) g [{ call, answer := (WireSession.respond call session).1 }]
      (.ok (WireSession.respond call session).1)
      (g.on (WireSession.respond call session).2) := by
  rintro s rfl
  exact exec_ask_some h call

theorem askResults {session : σ} (h : g.session = some session) :
    Runs Span.askResults g (fetchExchanges (fetchAll session).1) (.ok (fetchAll session).1)
      (g.on (fetchAll session).2) := by
  rintro s rfl
  exact exec_askResults_some h

/-- The last exchanges with a session that is ended. -/
def farewell (session : σ) : List Exchange :=
  messageExchanges session ++ [{ call := .finish, answer := () }]

/-- Closing a connection that has a session. -/
theorem tearDown {session : σ} (h : g.session = some session) :
    Runs Span.tearDown g (farewell session) (.ok ())
      (g.shut.stashing (g.stash ++ messages session)) := by
  rintro s rfl
  unfold Span.tearDown
  rw [exec_bind_ok (exec_guarded s), if_pos (by rw [h]; rfl), exec_bind_ok (exec_collectMessages h),
    exec_bind_ok (exec_ask_some rfl _), exec_update]
  simp only [SpanState.after, List.append_assoc]
  rfl

theorem orTearDown {span : Span σ α} {x : α} (h : Runs span g xs (.ok x) g₁) :
    Runs (Span.orTearDown span) g xs (.ok x) g₁ := by
  intro s hs
  rw [exec_orTearDown, h s hs]

/-- A failure closes the connection, and is passed on. -/
theorem orTearDown_error {span : Span σ α} {f : Fault} (h : Runs span g xs (.error f) g₁)
    (session : σ) (hsession : g₁.session = some session) :
    Runs (Span.orTearDown span) g (xs ++ farewell session) (.error f)
      (g₁.shut.stashing (g₁.stash ++ messages session)) := by
  intro s hs
  have htorn := tearDown hsession { s with guarded := g₁, exchanges := s.exchanges ++ xs } rfl
  rw [exec_orTearDown, h s hs]
  simp only [htorn, List.append_assoc]
  rfl

theorem poll {level : Isolation} {r : Except Fault Readiness} (hconnecting : g.status.isConnecting)
    (h : Runs (Span.orTearDown (step true level)) g xs r g₁) : Runs (Span.poll true level) g xs r g₁ := by
  unfold Span.poll
  refine .bind_silent (.guarded g) ?_
  rw [if_pos (by rw [hconnecting]; rfl)]
  exact h

/-- What a span comes to that leaves a session behind. -/
theorem run_some {span : Span σ α} {r : Except Fault α} (h : Runs span g xs r g₁) (session : σ)
    (hsession : g₁.session = some session) :
    Span.run span g =
      { result := r
        guarded := (g₁.on (relieved session)).stashing .empty
        exchanges := xs ++ messageExchanges session
        batch := g₁.stash ++ messages session
        completion := none } :=
  run_of_exec_some (h { guarded := g } rfl) hsession

/-- What a span comes to that leaves no session behind. -/
theorem run_none {span : Span σ α} {r : Except Fault α} (h : Runs span g xs r g₁)
    (hsession : g₁.session = none) :
    Span.run span g =
      { result := r
        guarded := g₁.stashing .empty
        exchanges := xs
        batch := g₁.stash
        completion := none } :=
  run_of_exec_none (h { guarded := g } rfl) hsession

theorem result_run {span : Span σ α} {r : Except Fault α} (h : Runs span g xs r g₁) :
    (Span.run span g).result = r :=
  congrArg Prod.fst (h { guarded := g } rfl)

/-- Only polls complete statements. -/
theorem completion_run {span : Span σ α} {r : Except Fault α} (h : Runs span g xs r g₁) :
    (Span.run span g).completion = none := by
  cases hsession : g₁.session with
  | none => rw [h.run_none hsession]
  | some session => rw [h.run_some session hsession]

end Runs

/-! ## Runs that do not end the session -/

/-- How often a session was ended in some exchanges. -/
def finishes (xs : List Exchange) : Nat :=
  xs.countP fun x => x.call = .finish

theorem finishes_append (xs ys : List Exchange) : finishes (xs ++ ys) = finishes xs + finishes ys :=
  List.countP_append

/-- The span yields `r` and leaves `g'` behind, without ending the session. -/
def Lasts (span : Span σ α) (g : Guarded σ) (r : Except Fault α) (g' : Guarded σ) : Prop :=
  ∃ xs, finishes xs = 0 ∧ Runs span g xs r g'

theorem Runs.lasts {span : Span σ α} {g g' : Guarded σ} {r : Except Fault α}
    (h : Runs span g [] r g') : Lasts span g r g' :=
  ⟨[], rfl, h⟩

namespace Lasts

variable {g g₁ g₂ : Guarded σ}

theorem bind {span : Span σ α} {next : α → Span σ β} {x : α} {r : Except Fault β}
    (h : Lasts span g (.ok x) g₁) (hnext : Lasts (next x) g₁ r g₂) :
    Lasts (span >>= next) g r g₂ := by
  obtain ⟨xs, hxs, hruns⟩ := h
  obtain ⟨ys, hys, hnext⟩ := hnext
  refine ⟨xs ++ ys, ?_, hruns.bind hnext⟩
  rw [finishes_append, hxs, hys]

theorem bind_error {span : Span σ α} {next : α → Span σ β} {f : Fault}
    (h : Lasts span g (.error f) g₁) : Lasts (span >>= next) g (.error f) g₁ := by
  obtain ⟨xs, hxs, hruns⟩ := h
  exact ⟨xs, hxs, hruns.bind_error⟩

theorem bind_silent {span : Span σ α} {next : α → Span σ β} {x : α} {r : Except Fault β}
    (h : Runs span g [] (.ok x) g₁) (hnext : Lasts (next x) g₁ r g₂) :
    Lasts (span >>= next) g r g₂ :=
  h.lasts.bind hnext

variable [WireSession σ]

theorem bind_ask {session : σ} {call : Call} {next : call.Answer → Span σ β} {r : Except Fault β}
    (h : g.session = some session) (hcall : call ≠ .finish)
    (hnext : Lasts (next (WireSession.respond call session).1)
      (g.on (WireSession.respond call session).2) r g₂) : Lasts (Span.ask call >>= next) g r g₂ := by
  refine bind ⟨_, ?_, .ask h call⟩ hnext
  simp only [finishes, List.countP_cons, List.countP_nil, decide_eq_true_eq, if_neg hcall]

/-- Results after which the span goes on. -/
theorem bind_askResults {session : σ} {next : List QueryResult → Span σ β} {r : Except Fault β}
    (h : g.session = some session)
    (hnext : Lasts (next (fetchAll session).1) (g.on (fetchAll session).2) r g₂) :
    Lasts (Span.askResults >>= next) g r g₂ := by
  refine bind ⟨_, ?_, .askResults h⟩ hnext
  rw [finishes, List.countP_eq_zero]
  intro x hx
  rcases List.mem_append.1 hx with hx | hx
  · obtain ⟨result, -, rfl⟩ := List.mem_map.1 hx
    simp
  · rw [List.mem_singleton.1 hx]
    simp

end Lasts

end SessionLayer.Span
