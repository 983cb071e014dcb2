import SessionLayer.Proofs.Span.Discipline

/-!
# Spans on sessions that are alike

A `Span.Likeness` is a relation between sessions that the calls of blocking connections cannot tell apart,
but for the messages that the sessions hand over. Spans respect it: on two states that match but for their
sessions and messages, a span yields the same, says the same to the sessions, and leaves matching states
behind. There is one rule for each way to build a span. A session that is like itself is one of a kind
that those calls preserve, so an invariant of sessions is a likeness as well.
-/

set_option autoImplicit false

namespace SessionLayer

namespace Call

/-- Whether a call hands messages over. -/
def collects : Call → Bool
  | .takeNotices | .takeNotifications => true
  | _ => false

/-- Whether a call queues a statement, as asynchronous connections do. -/
def queues : Call → Bool
  | .send _ => true
  | _ => false

end Call

/-- The exchanges without those in which messages were handed over. -/
def talk (xs : List Exchange) : List Exchange :=
  xs.filter fun x => !x.call.collects

theorem talk_append (xs ys : List Exchange) : talk (xs ++ ys) = talk xs ++ talk ys :=
  List.filter_append xs ys

variable {σ : Type}

/-- What is guarded apart from the session and from messages. -/
def Guarded.bare (g : Guarded σ) : Guarded σ :=
  { g with session := none, stash := .empty }

/-- What is guarded apart from the session and from messages, field by field. -/
theorem Guarded.fields_of_bare {g g' : Guarded σ} (h : g.bare = g'.bare) :
    g.status = g'.status ∧ g.isolation = g'.isolation ∧ g.info = g'.info ∧
      g.progress = g'.progress ∧ g.inFlight = g'.inFlight :=
  ⟨(congrArg Guarded.status h :), (congrArg Guarded.isolation h :), (congrArg Guarded.info h :),
    (congrArg Guarded.progress h :), (congrArg Guarded.inFlight h :)⟩

namespace Span

variable [WireSession σ]

/-- A relation between sessions that answer alike to what blocking connections ask of them. -/
structure Likeness (σ : Type) [WireSession σ] where
  relates : σ → σ → Prop
  answer_eq : ∀ {a b : σ} (call : Call), relates a b → call.isOrdinary → call.queues = false →
    (WireSession.respond call a).1 = (WireSession.respond call b).1
  next : ∀ {a b : σ} (call : Call), relates a b → call.queues = false →
    relates (WireSession.respond call a).2 (WireSession.respond call b).2

namespace Likeness

variable {α β : Type} {ℓ : Likeness σ} {g g' : Guarded σ} {a b : σ} {s t : SpanState σ}
  {xs ys : List Exchange}

/-- Two states that differ in nothing but messages and in sessions that are alike. -/
structure Matches (ℓ : Likeness σ) (g g' : Guarded σ) : Prop where
  session : Option.Rel ℓ.relates g.session g'.session
  bare : g.bare = g'.bare

/-- Two states of spans that match, in which the same was said and completed. -/
structure Pairs (ℓ : Likeness σ) (s t : SpanState σ) : Prop where
  guarded : ℓ.Matches s.guarded t.guarded
  talk : talk s.exchanges = talk t.exchanges
  completion : s.completion = t.completion

/-- From two states the span yields the same, and leaves states that are paired. -/
def Joins (ℓ : Likeness σ) (span : Span σ α) (s t : SpanState σ) : Prop :=
  (span.exec s).1 = (span.exec t).1 ∧ ℓ.Pairs (span.exec s).2 (span.exec t).2

/-- The span joins all states that are paired. -/
def Respects (ℓ : Likeness σ) (span : Span σ α) : Prop :=
  ∀ s t, ℓ.Pairs s t → ℓ.Joins span s t

namespace Matches

theorem cases (h : ℓ.Matches g g') : (g.session = none ∧ g'.session = none) ∨
    ∃ a b, g.session = some a ∧ g'.session = some b ∧ ℓ.relates a b := by
  have hsession := h.session
  cases hs : g.session with
  | none =>
    rw [hs] at hsession
    cases ht : g'.session with
    | none => exact Or.inl ⟨rfl, rfl⟩
    | some b =>
      rw [ht] at hsession
      exact nomatch hsession
  | some a =>
    rw [hs] at hsession
    cases ht : g'.session with
    | none =>
      rw [ht] at hsession
      exact nomatch hsession
    | some b =>
      rw [ht] at hsession
      cases hsession with
      | some hab => exact Or.inr ⟨a, b, rfl, rfl, hab⟩

theorem on (h : ℓ.Matches g g') (hab : ℓ.relates a b) : ℓ.Matches (g.on a) (g'.on b) where
  session := .some hab
  bare := h.bare

theorem stashing (h : ℓ.Matches g g') (stash stash' : Batch) :
    ℓ.Matches (g.stashing stash) (g'.stashing stash') where
  session := h.session
  bare := h.bare

theorem shut (h : ℓ.Matches g g') : ℓ.Matches g.shut g'.shut where
  session := .none
  bare := congrArg Guarded.shut h.bare

/-- What does not depend on the session is the same of both. -/
theorem read_eq {β : Type} (h : ℓ.Matches g g') (read : Guarded σ → β)
    (hread : ∀ g, read g = read g.bare) : read g = read g' := by
  rw [hread g, h.bare, ← hread g']

end Matches

namespace Pairs

/-- The same goes on to be said. -/
theorem talk_append (h : ℓ.Pairs s t) (htalk : SessionLayer.talk xs = SessionLayer.talk ys) :
    SessionLayer.talk (s.exchanges ++ xs) = SessionLayer.talk (t.exchanges ++ ys) := by
  rw [SessionLayer.talk_append, SessionLayer.talk_append, h.talk, htalk]

theorem after (h : ℓ.Pairs s t) (hab : ℓ.relates a b)
    (htalk : SessionLayer.talk xs = SessionLayer.talk ys) :
    ℓ.Pairs (s.after a xs) (t.after b ys) where
  guarded := h.guarded.on hab
  talk := h.talk_append htalk
  completion := h.completion

end Pairs

/-! ## Ways to build a span -/

/-- What a span reads first is the same in both states. -/
theorem joins_bind_guarded {next : Guarded σ → Span σ β} (h : ℓ.Pairs s t)
    (hread : ∀ g, next g = next g.bare) (hnext : ℓ.Joins (next s.guarded) s t) :
    ℓ.Joins (Span.guarded >>= next) s t := by
  unfold Joins
  rw [exec_bind_ok (exec_guarded s), exec_bind_ok (exec_guarded t),
    ← h.guarded.read_eq next hread]
  exact hnext

namespace Respects

theorem pure (x : α) : ℓ.Respects (Pure.pure x) :=
  fun _ _ h => ⟨rfl, h⟩

theorem throw (f : Fault) : ℓ.Respects (MonadExcept.throw f : Span σ α) :=
  fun _ _ h => ⟨rfl, h⟩

theorem bind {span : Span σ α} {next : α → Span σ β} (h : ℓ.Respects span)
    (hnext : ∀ x, ℓ.Respects (next x)) : ℓ.Respects (span >>= next) := by
  intro s t hst
  obtain ⟨hresult, hpairs⟩ := h s t hst
  unfold Joins
  rw [exec_bind, exec_bind]
  rcases hs : span.exec s with ⟨r, s'⟩
  rcases ht : span.exec t with ⟨r', t'⟩
  rw [hs, ht] at hresult hpairs
  cases hresult
  cases r with
  | error f => exact ⟨rfl, hpairs⟩
  | ok x => exact hnext x s' t' hpairs

theorem throw_bind (f : Fault) (next : α → Span σ β) :
    ℓ.Respects ((MonadExcept.throw f : Span σ α) >>= next) :=
  fun _ _ h => ⟨rfl, h⟩

theorem bind_guarded {next : Guarded σ → Span σ β} (hread : ∀ g, next g = next g.bare)
    (hnext : ∀ g, ℓ.Respects (next g)) : ℓ.Respects (Span.guarded >>= next) :=
  fun s t h => joins_bind_guarded h hread (hnext s.guarded s t h)

theorem update {f : Guarded σ → Guarded σ} (hsession : ∀ g, (f g).session = g.session)
    (hbare : ∀ g, (f g).bare = (f g.bare).bare) : ℓ.Respects (Span.update f) := by
  intro s t h
  refine ⟨rfl, ⟨?_, ?_⟩, h.talk, h.completion⟩
  · show Option.Rel ℓ.relates (f s.guarded).session (f t.guarded).session
    rw [hsession, hsession]
    exact h.guarded.session
  · exact h.guarded.read_eq (fun g => (f g).bare) hbare

theorem moveTo (status : Status) : ℓ.Respects (Span.moveTo status) :=
  update (fun _ => rfl) fun _ => rfl

theorem sent (outcome : Except String α) : ℓ.Respects (Span.sent outcome) := by
  cases outcome with
  | ok x => exact pure x
  | error text => exact throw _

theorem lift (x : Except Fault α) : ℓ.Respects (liftM x) := by
  cases x with
  | ok y => exact pure y
  | error f => exact throw f

theorem ask {call : Call} (hordinary : call.isOrdinary) (hqueues : call.queues = false) :
    ℓ.Respects (Span.ask call) := by
  intro s t h
  unfold Joins
  obtain ⟨hs, ht⟩ | ⟨a, b, hs, ht, hab⟩ := h.guarded.cases
  · rw [exec_ask_none hs, exec_ask_none ht]
    exact ⟨rfl, h⟩
  · have hanswer := ℓ.answer_eq call hab hordinary hqueues
    rw [exec_ask_some hs, exec_ask_some ht, hanswer]
    exact ⟨rfl, h.after (ℓ.next call hab hqueues) rfl⟩

theorem ensureOpen : ℓ.Respects Span.ensureOpen := by
  refine bind_guarded (fun _ => rfl) fun g => ?_
  split
  · exact throw _
  · exact pure _

/-- Both sessions are ended, or there is none. -/
theorem tearDown : ℓ.Respects Span.tearDown := by
  intro s t h
  unfold Joins
  rw [exec_tearDown, exec_tearDown]
  refine ⟨rfl, h.guarded.shut.stashing _ _, ?_, h.completion⟩
  obtain ⟨hs, ht⟩ | ⟨a, b, hs, ht, -⟩ := h.guarded.cases
  · rw [hs, ht]
    exact h.talk_append rfl
  · rw [hs, ht]
    exact h.talk_append rfl

theorem orTearDown {span : Span σ α} (h : ℓ.Respects span) : ℓ.Respects (Span.orTearDown span) := by
  intro s t hst
  obtain ⟨hresult, hpairs⟩ := h s t hst
  unfold Joins
  rw [exec_orTearDown, exec_orTearDown]
  rcases hs : span.exec s with ⟨r, s'⟩
  rcases ht : span.exec t with ⟨r', t'⟩
  rw [hs, ht] at hresult hpairs
  cases hresult
  cases r with
  | ok x => exact ⟨rfl, hpairs⟩
  | error f =>
    obtain ⟨htorn, hpairs'⟩ := tearDown s' t' hpairs
    exact ⟨congrArg (Except.bind · fun _ => .error f) htorn, hpairs'⟩

end Respects

/-! ## The end of a span -/

/-- Taking messages over is no talk. -/
theorem Pairs.collectRemaining (h : ℓ.Pairs s t) :
    ℓ.Pairs (collectRemaining.exec s).2 (collectRemaining.exec t).2 := by
  obtain ⟨hs, ht⟩ | ⟨a, b, hs, ht, hab⟩ := h.guarded.cases
  · rw [exec_collectRemaining_none hs, exec_collectRemaining_none ht]
    exact h
  · rw [exec_collectRemaining_some hs, exec_collectRemaining_some ht, exec_collectMessages hs,
      exec_collectMessages ht]
    have hrelieved : ℓ.relates (relieved a) (relieved b) :=
      ℓ.next .takeNotifications (ℓ.next .takeNotices hab rfl) rfl
    have hafter : ℓ.Pairs (s.after (relieved a) (messageExchanges a))
        (t.after (relieved b) (messageExchanges b)) := h.after hrelieved rfl
    exact { hafter with guarded := hafter.guarded.stashing _ _ }

/-- What two spans come to that differ in messages at most. -/
structure Outcomes (ℓ : Likeness σ) (o o' : SpanOutcome σ α) : Prop where
  result : o.result = o'.result
  guarded : ℓ.Matches o.guarded o'.guarded
  talk : talk o.exchanges = talk o'.exchanges
  completion : o.completion = o'.completion

theorem Joins.run {span : Span σ α} (h : ℓ.Joins span { guarded := g } { guarded := g' }) :
    ℓ.Outcomes (Span.run span g) (Span.run span g') := by
  obtain ⟨hresult, hpairs⟩ := h
  have hcollected := hpairs.collectRemaining
  exact
    { result := hresult
      guarded := hcollected.guarded.stashing _ _
      talk := hcollected.talk
      completion := hcollected.completion }

end Likeness

end Span

end SessionLayer
