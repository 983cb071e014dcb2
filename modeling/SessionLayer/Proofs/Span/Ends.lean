import SessionLayer.Connection.Span.Lemmas
import SessionLayer.Connection

/-!
# Postconditions of spans

`Span.Ends m s Q` says that the span `m`, started in the state `s`, ends in a result and a state that
`Q` relates. There is one rule for each way to build a span. A question to a session that is there may
be answered in any way and leaves only the session and the list of exchanges changed, which
`SpanState.after` writes down; so what is proved with these rules holds for every session.
-/

set_option autoImplicit false

namespace SessionLayer

variable {σ : Type}

namespace Guarded

/-- The guarded state with another state of the session. -/
def on (g : Guarded σ) (session : σ) : Guarded σ :=
  { g with session := some session }

/-- The guarded state of a connection that has been closed. -/
def shut (g : Guarded σ) : Guarded σ :=
  { g with session := none, inFlight := none, status := .closed }

/-- The guarded state with other messages to be delivered. -/
def stashing (g : Guarded σ) (stash : Batch) : Guarded σ :=
  { g with stash }

/-- A state whose session is there is that state on its session. -/
theorem on_eq_self {g : Guarded σ} {session : σ} (h : g.session = some session) :
    g.on session = g := by
  cases g
  cases h
  rfl

theorem exists_eq_on {g : Guarded σ} (hs : g.session.isSome) : ∃ session, g = g.on session := by
  obtain ⟨session, hsession⟩ := Option.isSome_iff_exists.1 hs
  exact ⟨session, (on_eq_self hsession).symm⟩

end Guarded

namespace SpanState

/-- The state after some exchanges, which left the session in the given state. -/
def after (s : SpanState σ) (session : σ) (exchanges : List Exchange) : SpanState σ :=
  { s with guarded := s.guarded.on session, exchanges := s.exchanges ++ exchanges }

@[simp] theorem guarded_after (s : SpanState σ) (session : σ) (exchanges : List Exchange) :
    (s.after session exchanges).guarded = s.guarded.on session :=
  rfl

@[simp] theorem exchanges_after (s : SpanState σ) (session : σ) (exchanges : List Exchange) :
    (s.after session exchanges).exchanges = s.exchanges ++ exchanges :=
  rfl

@[simp] theorem completion_after (s : SpanState σ) (session : σ) (exchanges : List Exchange) :
    (s.after session exchanges).completion = s.completion :=
  rfl

end SpanState

namespace Span

variable {α β : Type}

/-- The span ends in a result and a state that `Q` relates. -/
def Ends (span : Span σ α) (s : SpanState σ) (Q : Except Fault α → SpanState σ → Prop) : Prop :=
  Q (span.exec s).1 (span.exec s).2

theorem Ends.mono {span : Span σ α} {s : SpanState σ} {Q R : Except Fault α → SpanState σ → Prop}
    (h : Ends span s Q) (hQR : ∀ r t, Q r t → R r t) : Ends span s R :=
  hQR _ _ h

theorem ends_of_exec {span : Span σ α} {s t : SpanState σ} {r : Except Fault α}
    {Q : Except Fault α → SpanState σ → Prop} (h : span.exec s = (r, t)) (hQ : Q r t) :
    Ends span s Q := by
  unfold Ends
  rw [h]
  exact hQ

/-- A span that goes on with another one ends as the other one does, or where the first one fails. -/
theorem ends_bind {span : Span σ α} {next : α → Span σ β} {s : SpanState σ}
    {Q : Except Fault β → SpanState σ → Prop}
    (h : Ends span s fun r t =>
      (∀ x, r = .ok x → Ends (next x) t Q) ∧ ∀ f, r = .error f → Q (.error f) t) :
    Ends (span >>= next) s Q := by
  unfold Ends at h ⊢
  rw [exec_bind]
  rcases hx : span.exec s with ⟨f | x, t⟩ <;> rw [hx] at h
  · exact h.2 f rfl
  · exact h.1 x rfl

theorem ends_bind_ok {span : Span σ α} {next : α → Span σ β} {s t : SpanState σ} {x : α}
    {Q : Except Fault β → SpanState σ → Prop} (hx : span.exec s = (.ok x, t))
    (h : Ends (next x) t Q) : Ends (span >>= next) s Q := by
  unfold Ends at h ⊢
  rw [exec_bind_ok hx]
  exact h

theorem ends_pure {x : α} {s : SpanState σ} {Q : Except Fault α → SpanState σ → Prop}
    (h : Q (.ok x) s) : Ends (pure x) s Q :=
  h

theorem ends_throw {f : Fault} {s : SpanState σ} {Q : Except Fault α → SpanState σ → Prop}
    (h : Q (.error f) s) : Ends (throw f) s Q :=
  h

theorem ends_bind_update {f : Guarded σ → Guarded σ} {next : Unit → Span σ β} {s : SpanState σ}
    {Q : Except Fault β → SpanState σ → Prop}
    (h : Ends (next ()) { s with guarded := f s.guarded } Q) : Ends (update f >>= next) s Q :=
  ends_bind_ok (exec_update f s) h

theorem ends_bind_moveTo {status : Status} {next : Unit → Span σ β} {s : SpanState σ}
    {Q : Except Fault β → SpanState σ → Prop}
    (h : Ends (next ()) { s with guarded := { s.guarded with status } } Q) :
    Ends (moveTo status >>= next) s Q :=
  ends_bind_update h

/-- Goes on with the answer to a call for which a transport failure is a fault. -/
theorem ends_bind_sent {outcome : Except String α} {next : α → Span σ β} {s : SpanState σ}
    {Q : Except Fault β → SpanState σ → Prop}
    (ok : ∀ x, outcome = .ok x → Ends (next x) s Q)
    (failed : ∀ text, outcome = .error text → Q (.error (.transport text)) s) :
    Ends (sent outcome >>= next) s Q := by
  apply ends_bind
  unfold Ends
  rw [exec_sent]
  constructor
  · rintro x hx
    cases outcome with
    | error text => cases hx
    | ok y =>
      cases hx
      exact ok _ rfl
  · rintro f hf
    cases outcome with
    | error text =>
      cases hf
      exact failed _ rfl
    | ok y => cases hf

variable [WireSession σ]

/-- A session that is there may give any answer to a question, after which the span goes on. -/
theorem ends_bind_ask {call : Call} {next : call.Answer → Span σ β} {s : SpanState σ}
    {Q : Except Fault β → SpanState σ → Prop} (hs : s.guarded.session.isSome)
    (h : ∀ answer session, Ends (next answer) (s.after session [{ call, answer }]) Q) :
    Ends (ask call >>= next) s Q := by
  obtain ⟨session, hsession⟩ := Option.isSome_iff_exists.1 hs
  exact ends_bind_ok (exec_ask_some hsession call) (h _ _)

/-- A session that is there may have any results waiting, after which the span goes on. -/
theorem ends_bind_askResults {next : List QueryResult → Span σ β} {s : SpanState σ}
    {Q : Except Fault β → SpanState σ → Prop} (hs : s.guarded.session.isSome)
    (h : ∀ results session, Ends (next results) (s.after session (fetchExchanges results)) Q) :
    Ends (askResults >>= next) s Q := by
  obtain ⟨session, hsession⟩ := Option.isSome_iff_exists.1 hs
  exact ends_bind_ok (exec_askResults_some hsession) (h _ _)

/-- A failure closes the connection and is passed on. -/
theorem ends_orTearDown {span : Span σ α} {s : SpanState σ}
    {Q : Except Fault α → SpanState σ → Prop}
    (h : Ends span s fun r t =>
      (∀ x, r = .ok x → Q (.ok x) t) ∧ ∀ f, r = .error f → Ends tearDown t fun r' u =>
        r' = .ok () ∧ Q (.error f) u) : Ends (orTearDown span) s Q := by
  unfold Ends at h ⊢
  rw [exec_orTearDown]
  rcases hx : span.exec s with ⟨f | x, t⟩ <;> rw [hx] at h
  · obtain ⟨hr, hQ⟩ := h.2 f rfl
    simp only [hr]
    exact hQ
  · exact h.1 x rfl

/-- Taking over the messages of a session changes the session and the stash only. -/
theorem ends_collectMessages {s : SpanState σ} (hs : s.guarded.session.isSome) :
    Ends collectMessages s fun r t =>
      r = .ok () ∧ t.completion = s.completion ∧ ∃ session stash, t.guarded =
        (s.guarded.on session).stashing stash := by
  unfold collectMessages
  apply ends_bind_ask hs
  intro notices session
  apply ends_bind_ask rfl
  intro notifications session'
  exact ⟨rfl, rfl, session', _, rfl⟩

/-- Closing a connection never fails; it ends the session and keeps what is known about it. -/
theorem ends_tearDown (s : SpanState σ) :
    Ends tearDown s fun r t =>
      r = .ok () ∧ t.completion = s.completion ∧ ∃ stash, t.guarded =
        s.guarded.shut.stashing stash := by
  unfold tearDown
  apply ends_bind_ok (exec_guarded s)
  by_cases hs : s.guarded.session.isSome
  · simp only [hs, if_true]
    apply ends_bind
    apply (ends_collectMessages hs).mono
    rintro r t ⟨rfl, hc, session, stash, ht⟩
    refine ⟨fun _ _ => ?_, fun _ h => nomatch h⟩
    apply ends_bind_ask (by rw [ht]; rfl)
    intro _ session'
    refine ⟨rfl, hc, stash, ?_⟩
    simp only [exec_update, SpanState.guarded_after, ht]
    rfl
  · rw [if_neg hs]
    exact ⟨rfl, rfl, s.guarded.stash, rfl⟩

/-- The messages that a session hands over. -/
def messages (session : σ) : Batch :=
  let notices := WireSession.respond .takeNotices session
  { notices := notices.1
    notifications := (WireSession.respond .takeNotifications notices.2).1 }

/-- The session whose messages have been taken over. -/
def relieved (session : σ) : σ :=
  (WireSession.respond .takeNotifications (WireSession.respond .takeNotices session).2).2

/-- The exchanges in which the messages of a session are taken over. -/
def messageExchanges (session : σ) : List Exchange :=
  [{ call := .takeNotices, answer := (messages session).notices },
    { call := .takeNotifications, answer := (messages session).notifications }]

theorem exec_collectMessages {s : SpanState σ} {session : σ}
    (hs : s.guarded.session = some session) :
    exec collectMessages s =
      (.ok (),
        { s.after (relieved session) (messageExchanges session) with
          guarded := (s.guarded.on (relieved session)).stashing
            (s.guarded.stash ++ messages session) }) := by
  unfold collectMessages
  rw [exec_bind_ok (exec_ask_some hs _), exec_bind_ok (exec_ask_some rfl _), exec_update]
  simp only [SpanState.after, List.append_assoc]
  rfl

/-- Without a session there are no messages to take over. -/
theorem exec_collectRemaining_none {s : SpanState σ} (hs : s.guarded.session = none) :
    exec collectRemaining s = (.ok (), s) := by
  unfold collectRemaining
  rw [exec_bind_ok (exec_guarded s), hs]
  rfl

theorem exec_collectRemaining_some {s : SpanState σ} {session : σ}
    (hs : s.guarded.session = some session) :
    exec collectRemaining s = exec collectMessages s := by
  unfold collectRemaining
  rw [exec_bind_ok (exec_guarded s), hs]
  rfl

/-- A span that leaves no session comes to what it leaves behind. -/
theorem run_of_exec_none {span : Span σ α} {g : Guarded σ} {r : Except Fault α} {t : SpanState σ}
    (h : exec span { guarded := g } = (r, t)) (hs : t.guarded.session = none) :
    run span g =
      { result := r
        guarded := t.guarded.stashing .empty
        exchanges := t.exchanges
        batch := t.guarded.stash
        completion := t.completion } := by
  unfold run
  rw [h]
  simp only [exec_collectRemaining_none hs]
  rfl

/-- A span that leaves a session takes its messages over. -/
theorem run_of_exec_some {span : Span σ α} {g : Guarded σ} {r : Except Fault α} {t : SpanState σ}
    {session : σ} (h : exec span { guarded := g } = (r, t))
    (hs : t.guarded.session = some session) :
    run span g =
      { result := r
        guarded := (t.guarded.on (relieved session)).stashing .empty
        exchanges := t.exchanges ++ messageExchanges session
        batch := t.guarded.stash ++ messages session
        completion := t.completion } := by
  unfold run
  rw [h]
  simp only [exec_collectRemaining_some hs, exec_collectMessages hs]
  rfl

/-- What a span comes to once its guard is released: the messages of a session that is there are taken
over, and nothing else changes. -/
theorem run_of_ends {span : Span σ α} {g : Guarded σ}
    {Q : Except Fault α → SpanState σ → Prop} (h : Ends span { guarded := g } Q) :
    ∃ t, Q (run span g).result t ∧ (run span g).completion = t.completion ∧
      ((run span g).guarded = t.guarded.stashing .empty ∨ ∃ session, t.guarded.session.isSome ∧
        (run span g).guarded = (t.guarded.on session).stashing .empty) := by
  unfold Ends at h
  rcases hx : exec span { guarded := g } with ⟨r, t⟩
  rw [hx] at h
  cases hs : t.guarded.session with
  | none =>
    rw [run_of_exec_none hx hs]
    exact ⟨t, h, rfl, Or.inl rfl⟩
  | some session =>
    rw [run_of_exec_some hx hs]
    exact ⟨t, h, rfl, Or.inr ⟨_, by rw [hs]; rfl, rfl⟩⟩

/-- Nor does the status change. -/
theorem status_run_of_ends {span : Span σ α} {g : Guarded σ} {Q : Except Fault α → Status → Prop}
    (h : Ends span { guarded := g } fun r t => Q r t.guarded.status) :
    Q (run span g).result (run span g).guarded.status := by
  obtain ⟨t, ht, -, hguarded | ⟨session, -, hguarded⟩⟩ := run_of_ends h
  · rw [hguarded]
    exact ht
  · rw [hguarded]
    exact ht

/-- What is done after a span changes neither its result nor its completion, and makes no calls but
those in which messages are taken over. -/
theorem run_of_exec {span : Span σ α} {g : Guarded σ} {r : Except Fault α} {t : SpanState σ}
    (h : exec span { guarded := g } = (r, t)) :
    (run span g).result = r ∧ (run span g).completion = t.completion ∧
      ∃ messages, (run span g).exchanges = t.exchanges ++ messages ∧
        ∀ x ∈ messages, x.call = .takeNotices ∨ x.call = .takeNotifications := by
  cases hs : t.guarded.session with
  | none =>
    rw [run_of_exec_none h hs]
    exact ⟨rfl, rfl, [], (List.append_nil _).symm, nofun⟩
  | some session =>
    rw [run_of_exec_some h hs]
    refine ⟨rfl, rfl, messageExchanges session, rfl, fun x hx => ?_⟩
    simp only [messageExchanges, List.mem_cons, List.not_mem_nil, or_false] at hx
    rcases hx with rfl | rfl
    · exact Or.inl rfl
    · exact Or.inr rfl

end Span

end SessionLayer
