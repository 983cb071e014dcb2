import SessionLayer.Proofs.Span.Discipline

/-!
# What a span says to the session

A span makes ordinary calls, and it may end the session; `SpanState.Talk` says so of the states before
and after. Right before a session is ended its messages are taken over, and after that it is never
called again. This is a discipline that governs every operation. What a span has to deliver in the end
is what the session has handed over, in order (`SpanOutcome.Accounted`).
-/

set_option autoImplicit false

namespace SessionLayer

/-- The notices that are handed over in an exchange. -/
def Exchange.notices : Exchange → List String
  | { call := .takeNotices, answer } => answer
  | _ => []

/-- The notifications that are handed over in an exchange. -/
def Exchange.notifications : Exchange → List Notification
  | { call := .takeNotifications, answer } => answer
  | _ => []

/-- The messages that are handed over in some exchanges. -/
def handedOver (xs : List Exchange) : Batch :=
  { notices := xs.flatMap Exchange.notices
    notifications := xs.flatMap Exchange.notifications }

theorem handedOver_append (xs ys : List Exchange) :
    handedOver (xs ++ ys) = handedOver xs ++ handedOver ys := by
  simp only [handedOver, List.flatMap_append]
  rfl

theorem Batch.append_empty (b : Batch) : b ++ Batch.empty = b := by
  show Batch.mk (b.notices ++ []) (b.notifications ++ []) = b
  simp

theorem Batch.empty_append (b : Batch) : Batch.empty ++ b = b :=
  rfl

/-- In ordinary calls nothing is handed over. -/
theorem handedOver_of_ordinary {xs : List Exchange} (h : ∀ x ∈ xs, x.call.isOrdinary) :
    handedOver xs = .empty := by
  have hnotices : ∀ x ∈ xs, x.notices = [] := by
    intro x hx
    have hordinary := h x hx
    unfold Exchange.notices
    split
    · simp [Call.isOrdinary] at hordinary
    · rfl
  have hnotifications : ∀ x ∈ xs, x.notifications = [] := by
    intro x hx
    have hordinary := h x hx
    unfold Exchange.notifications
    split
    · simp [Call.isOrdinary] at hordinary
    · rfl
  simp only [handedOver, List.flatMap_eq_nil_iff.2 hnotices, List.flatMap_eq_nil_iff.2 hnotifications]
  rfl

variable {σ : Type}

namespace SpanState

open SessionLayer.Span

/-- What was said to the session from one state of a span to another. -/
inductive Talk [WireSession σ] (s t : SpanState σ) : Prop
  /-- The session was called in ordinary ways and is still there; without a session nothing was said. -/
  | going (xs : List Exchange)
    (ordinary : ∀ x ∈ xs, x.call.isOrdinary)
    (session : t.guarded.session.isSome = s.guarded.session.isSome)
    (silent : s.guarded.session = none → xs = [])
    (exchanges : t.exchanges = s.exchanges ++ xs)
    (stash : t.guarded.stash = s.guarded.stash)
  /-- The session was ended, and its last messages are kept. -/
  | ended (xs : List Exchange) (last : σ)
    (ordinary : ∀ x ∈ xs, x.call.isOrdinary)
    (session : s.guarded.session.isSome)
    (gone : t.guarded.session = none)
    (exchanges : t.exchanges = s.exchanges ++ (xs ++ Runs.farewell last))
    (stash : t.guarded.stash = s.guarded.stash ++ messages last)

namespace Talk

variable [WireSession σ] {s t u : SpanState σ}

/-- The session and the stash are left alone, and nothing is said. -/
theorem of_silent (hsession : t.guarded.session = s.guarded.session)
    (hexchanges : t.exchanges = s.exchanges) (hstash : t.guarded.stash = s.guarded.stash) : Talk s t :=
  .going [] (by simp) (by rw [hsession]) (fun _ => rfl) (by simp [hexchanges]) hstash

theorem refl (s : SpanState σ) : Talk s s :=
  of_silent rfl rfl rfl

theorem trans (h : Talk s t) (h' : Talk t u) : Talk s u := by
  cases h with
  | going xs ordinary session silent exchanges stash =>
    cases h' with
    | going ys ordinary' session' silent' exchanges' stash' =>
      refine .going (xs ++ ys) ?_ (session'.trans session) (fun hs => ?_) ?_ (stash'.trans stash)
      · intro x hx
        exact (List.mem_append.1 hx).elim (ordinary x) (ordinary' x)
      · have ht : t.guarded.session = none := by simpa [hs] using session
        rw [silent hs, silent' ht, List.append_nil]
      · rw [exchanges', exchanges, List.append_assoc]
    | ended ys last ordinary' session' gone' exchanges' stash' =>
      refine .ended (xs ++ ys) last ?_ (session ▸ session') gone' ?_ ?_
      · intro x hx
        exact (List.mem_append.1 hx).elim (ordinary x) (ordinary' x)
      · simp only [exchanges', exchanges, List.append_assoc]
      · rw [stash', stash]
  | ended xs last ordinary session gone exchanges stash =>
    cases h' with
    | going ys ordinary' session' silent' exchanges' stash' =>
      refine .ended xs last ordinary session ?_ ?_ (stash'.trans stash)
      · simpa [gone] using session'
      · rw [exchanges', silent' gone, List.append_nil, exchanges]
    | ended ys last' ordinary' session' gone' exchanges' stash' =>
      rw [gone] at session'
      exact nomatch session'

end Talk

end SpanState

namespace Span

open SpanState

variable [WireSession σ] {α β : Type}

/-- Where a session is ended, its messages are taken over first. -/
theorem talk_tearDown (s : SpanState σ) : Talk s (tearDown.exec s).2 := by
  rw [exec_tearDown]
  cases hs : s.guarded.session with
  | none => exact .of_silent hs.symm (List.append_nil _) rfl
  | some session => exact .ended [] session (by simp) (by simp [hs]) rfl rfl rfl

/-- To talk to the session in ordinary ways, except to end it. -/
def talking : Discipline σ where
  relates := Talk
  permits call := call.isOrdinary
  refl := .refl
  trans := .trans
  asked := by
    intro s call hcall hs answer session
    have hnone : s.guarded.session ≠ none := Option.isSome_iff_ne_none.1 hs
    exact .going [_] (by simpa using hcall) hs.symm (fun h => absurd h hnone) rfl rfl
  touched := fun h _ => .of_silent h.session rfl h.stash
  tornDown := talk_tearDown

end Span

/-- Whatever is asked of a connection, its span talks to the session in ordinary ways, except that it may
end it. -/
theorem Connection.governs_talking [WireSession σ] (c : Connection σ) (op : Operation) :
    Span.talking.Governs (c.span op) :=
  Span.Discipline.governs_span (fun _ h => h) c op

/-! ## Once the guard is released -/

/-- What a span delivers is what the session has handed over in it, and the session that it leaves behind
has not been ended. -/
structure SpanOutcome.Accounted {α : Type} [WireSession σ] (g : Guarded σ) (o : SpanOutcome σ α) :
    Prop where
  batch : o.batch = g.stash ++ handedOver o.exchanges
  stash : o.guarded.stash = .empty
  silent : g.session = none → o.exchanges = [] ∧ o.guarded.session = none
  lasting : o.guarded.session.isSome → Span.finishes o.exchanges = 0
  ended : g.session.isSome → o.guarded.session = none → ∃ (xs : List Exchange) (last : σ),
    (∀ x ∈ xs, x.call.isOrdinary) ∧ o.exchanges = xs ++ Span.Runs.farewell last

namespace Span

variable [WireSession σ] {α : Type}

theorem handedOver_messageExchanges (session : σ) :
    handedOver (messageExchanges session) = messages session := by
  simp [handedOver, messageExchanges, Exchange.notices, Exchange.notifications]

theorem handedOver_farewell (session : σ) : handedOver (Runs.farewell session) = messages session := by
  rw [Runs.farewell, handedOver_append, handedOver_messageExchanges]
  exact Batch.append_empty _

theorem finishes_of_ordinary {xs : List Exchange} (h : ∀ x ∈ xs, x.call.isOrdinary) :
    finishes xs = 0 := by
  rw [finishes, List.countP_eq_zero]
  intro x hx
  have hordinary := h x hx
  simp only [decide_eq_true_eq]
  intro hfinish
  simp [hfinish, Call.isOrdinary] at hordinary

theorem finishes_messageExchanges (session : σ) : finishes (messageExchanges session) = 0 := by
  simp [finishes, messageExchanges]

theorem accounted_of_talking {span : Span σ α} (h : talking.Governs span) (g : Guarded σ) :
    (span.run g).Accounted g := by
  have htalk : SpanState.Talk _ _ := h { guarded := g }
  rcases hexec : span.exec { guarded := g } with ⟨r, t⟩
  rw [hexec] at htalk
  cases htalk with
  | going xs ordinary session silent exchanges stash =>
    simp only [List.nil_append] at exchanges
    cases hs : t.guarded.session with
    | none =>
      have hg : g.session = none := by simpa [hs] using session.symm
      have hxs : xs = [] := silent hg
      rw [run_of_exec_none hexec hs, exchanges, hxs]
      exact
        { batch := stash.trans (Batch.append_empty _).symm
          stash := rfl
          silent := fun _ => ⟨rfl, hs⟩
          lasting := fun _ => rfl
          ended := fun hsome => by simp [hg] at hsome }
    | some last =>
      have hg : g.session ≠ none := by
        intro hg
        simp [hs, hg] at session
      rw [run_of_exec_some hexec hs, exchanges]
      exact
        { batch := by
            rw [handedOver_append, handedOver_of_ordinary ordinary, handedOver_messageExchanges, stash]
            rfl
          stash := rfl
          silent := fun hnone => absurd hnone hg
          lasting := fun _ => by
            rw [finishes_append, finishes_of_ordinary ordinary, finishes_messageExchanges]
          ended := fun _ hnone => nomatch hnone }
  | ended xs last ordinary session gone exchanges stash =>
    simp only [List.nil_append] at exchanges
    rw [run_of_exec_none hexec gone, exchanges]
    exact
      { batch := by
          rw [handedOver_append, handedOver_of_ordinary ordinary, handedOver_farewell]
          exact stash
        stash := rfl
        silent := fun hnone => by simp [hnone] at session
        lasting := fun hsome => by
          dsimp only [Guarded.stashing] at gone hsome
          rw [gone] at hsome
          exact nomatch hsome
        ended := fun _ _ => ⟨xs, last, ordinary, rfl⟩ }

end Span

theorem Connection.accounted_perform [WireSession σ] (c : Connection σ) (op : Operation) :
    (c.perform op).Accounted c.guarded :=
  Span.accounted_of_talking (c.governs_talking op) c.guarded

end SessionLayer
