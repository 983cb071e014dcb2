import SessionLayer.Proofs.Span.Runs
import SessionLayer.Proofs.Wire.Account

/-!
# Spans that send their statements in place

`Span.Heeds sends span a g Q` says that the span, run on the guarded state `g` with the account `a`,
sends every statement in a status of the transaction that `sends` allows for it, and ends in a result,
an account and a state that `Q` relates. There is one rule for each way to build a span.
-/

set_option autoImplicit false

namespace SessionLayer.Span

variable {σ α β : Type} {sends : TransactionStatus → String → Prop} {a : Account}
  {g g₁ : Guarded σ}

/-- The span sends its statements in place, and ends as `Q` says. -/
def Heeds (sends : TransactionStatus → String → Prop) (span : Span σ α) (a : Account) (g : Guarded σ)
    (Q : Except Fault α → Account → Guarded σ → Prop) : Prop :=
  ∃ xs r g', Runs span g xs r g' ∧ InPlace sends a xs ∧ Q r (a.along xs) g'

theorem Heeds.mono {span : Span σ α} {Q R : Except Fault α → Account → Guarded σ → Prop}
    (h : Heeds sends span a g Q) (hQR : ∀ r a' g', Q r a' g' → R r a' g') :
    Heeds sends span a g R := by
  obtain ⟨xs, r, g', hruns, hplaced, hQ⟩ := h
  exact ⟨xs, r, g', hruns, hplaced, hQR r _ g' hQ⟩

theorem heeds_of_runs {span : Span σ α} {r : Except Fault α}
    {Q : Except Fault α → Account → Guarded σ → Prop} (h : Runs span g [] r g₁) (hQ : Q r a g₁) :
    Heeds sends span a g Q :=
  ⟨[], r, g₁, h, trivial, hQ⟩

/-- A span that goes on with another one ends as the other one does, or where the first one fails. -/
theorem heeds_bind {span : Span σ α} {next : α → Span σ β}
    {Q : Except Fault β → Account → Guarded σ → Prop}
    (h : Heeds sends span a g fun r a' g' =>
      (∀ x, r = .ok x → Heeds sends (next x) a' g' Q) ∧ ∀ f, r = .error f → Q (.error f) a' g') :
    Heeds sends (span >>= next) a g Q := by
  obtain ⟨xs, r, g', hruns, hplaced, hok, herror⟩ := h
  cases r with
  | error f => exact ⟨xs, _, g', hruns.bind_error, hplaced, herror f rfl⟩
  | ok x =>
    obtain ⟨ys, r, g'', hnext, hplaced', hQ⟩ := hok x rfl
    refine ⟨xs ++ ys, r, g'', hruns.bind hnext, inPlace_append.2 ⟨hplaced, hplaced'⟩, ?_⟩
    rw [Account.along_append]
    exact hQ

theorem heeds_bind_silent {span : Span σ α} {next : α → Span σ β} {x : α}
    {Q : Except Fault β → Account → Guarded σ → Prop} (h : Runs span g [] (.ok x) g₁)
    (hnext : Heeds sends (next x) a g₁ Q) : Heeds sends (span >>= next) a g Q := by
  obtain ⟨xs, r, g', hruns, hplaced, hQ⟩ := hnext
  exact ⟨xs, r, g', h.bind_silent hruns, hplaced, hQ⟩

theorem heeds_bind_error {span : Span σ α} {next : α → Span σ β} {f : Fault}
    {Q : Except Fault β → Account → Guarded σ → Prop} (h : Runs span g [] (.error f) g₁)
    (hQ : Q (.error f) a g₁) : Heeds sends (span >>= next) a g Q :=
  ⟨[], _, g₁, h.bind_error, trivial, hQ⟩

/-- A connection that is closed is refused. -/
theorem heeds_bind_ensureOpen {next : Unit → Span σ α}
    {Q : Except Fault α → Account → Guarded σ → Prop}
    (closed : g.status = .closed → Q (.error .closed) a g)
    (isOpen : g.status ≠ .closed → Heeds sends (next ()) a g Q) :
    Heeds sends (ensureOpen >>= next) a g Q := by
  unfold ensureOpen
  by_cases hstatus : g.status = .closed
  · refine heeds_bind_error (.bind_silent (.guarded g) ?_) (closed hstatus)
    rw [if_pos (by rw [Guarded.isClosed, hstatus]; rfl)]
    exact .throw _ g
  · refine heeds_bind_silent (.bind_silent (.guarded g) ?_) (isOpen hstatus)
    rw [if_neg (by simpa [Guarded.isClosed] using hstatus)]
    exact .pure () g

variable [WireSession σ]

/-- A question to a session, in which a statement is in place. -/
theorem heeds_ask {session : σ} (hsession : g.session = some session) {call : Call}
    {Q : Except Fault call.Answer → Account → Guarded σ → Prop}
    (hsends : ∀ sql, call = .exec sql → sends a.transaction sql)
    (hQ : Q (.ok (WireSession.respond call session).1)
      (a.after { call, answer := (WireSession.respond call session).1 })
      (g.on (WireSession.respond call session).2)) : Heeds sends (ask call) a g Q :=
  ⟨_, _, _, .ask hsession call, ⟨hsends, trivial⟩, hQ⟩

/-- The exchanges that end a session are no statements. -/
theorem inPlace_farewell (session : σ) : InPlace sends a (Runs.farewell session) := by
  apply inPlace_of_forall_ne
  intro x hx sql
  simp only [Runs.farewell, messageExchanges, List.mem_append, List.mem_cons, List.not_mem_nil,
    or_false] at hx
  rcases hx with (rfl | rfl) | rfl <;> simp

theorem along_farewell (a : Account) (session : σ) : a.along (Runs.farewell session) = a :=
  rfl

/-- A failure closes the connection and is passed on. -/
theorem heeds_orTearDown {span : Span σ α} {Q : Except Fault α → Account → Guarded σ → Prop}
    (h : Heeds sends span a g fun r a' g' => (∀ x, r = .ok x → Q (.ok x) a' g') ∧
      ∀ f, r = .error f → ∃ session, g'.session = some session ∧
        ∀ stash, Q (.error f) a' (g'.shut.stashing stash)) :
    Heeds sends (orTearDown span) a g Q := by
  obtain ⟨xs, r, g', hruns, hplaced, hok, herror⟩ := h
  cases r with
  | ok x => exact ⟨xs, _, g', hruns.orTearDown, hplaced, hok x rfl⟩
  | error f =>
    obtain ⟨session, hsession, hQ⟩ := herror f rfl
    refine ⟨_, _, _, hruns.orTearDown_error session hsession, ?_, ?_⟩
    · exact inPlace_append.2 ⟨hplaced, inPlace_farewell session⟩
    · rw [Account.along_append, along_farewell]
      exact hQ _

/-- What a span comes to once its guard is released: the messages of a session that is there are taken
over, and no other statement is sent. -/
theorem Heeds.run {span : Span σ α} {Q : Except Fault α → Account → Guarded σ → Prop}
    (h : Heeds sends span a g Q) :
    InPlace sends a (Span.run span g).exchanges ∧ ∃ g',
      Q (Span.run span g).result (a.along (Span.run span g).exchanges) g' ∧
      ((g'.session = none ∧ (Span.run span g).guarded = g'.stashing .empty) ∨
        ∃ session, g'.session = some session ∧
          (Span.run span g).guarded = (g'.on (relieved session)).stashing .empty) := by
  obtain ⟨xs, r, g', hruns, hplaced, hQ⟩ := h
  cases hsession : g'.session with
  | none =>
    rw [hruns.run_none hsession]
    exact ⟨hplaced, g', hQ, Or.inl ⟨hsession, rfl⟩⟩
  | some session =>
    rw [hruns.run_some session hsession]
    have hmessages : InPlace sends (a.along xs) (messageExchanges session) := by
      apply inPlace_of_forall_ne
      intro x hx sql
      simp only [messageExchanges, List.mem_cons, List.not_mem_nil, or_false] at hx
      rcases hx with rfl | rfl <;> simp
    refine ⟨inPlace_append.2 ⟨hplaced, hmessages⟩, g', ?_, Or.inr ⟨session, hsession, rfl⟩⟩
    simp only [Account.along_append]
    exact hQ

end SessionLayer.Span
