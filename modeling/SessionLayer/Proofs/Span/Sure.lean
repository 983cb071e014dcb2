import SessionLayer.Proofs.Connection.Failure

/-!
# Spans that set off no safeguard

Spans guard themselves against states that no connection is ever in: the session may be missing, a poll
may find nothing to go on with, and the notes of the setup may be incomplete. A span that starts with a
session is `Sure` if it keeps the session and fails with none of the faults that these safeguards raise.
There is one rule for each way to build a span. The setup is not sure, since its answers may be of no
use; but then a parameter that it could not fetch is `Untold` by an answer among its exchanges.
-/

set_option autoImplicit false

namespace SessionLayer

/-- The server accepted a statement, but its result does not hold a single value. -/
structure QueryResult.IsUnusable (result : QueryResult) : Prop where
  accepted : result.rejection? = none
  valueless : result.status = .tuplesOk → result.rows.length = 1 → result.value? 0 0 = none

/-- Whether safeguards raise a fault. A closed connection and an answer that is of no use are reasons for
it, too. -/
def Fault.isSafeguard : Fault → Bool
  | .closed | .noAttempt | .cannotFetch _ => true
  | _ => false

/-! ## Answers and notes -/

namespace SetupQuery

variable {q : SetupQuery} {answer : Option QueryResult} {progress noted : SetupProgress}

/-- A parameter cannot be fetched exactly where its question has no answer that is of use. -/
theorem singleValue_eq_cannotFetch_iff {parameter : String} :
    q.singleValue answer = .error (.cannotFetch parameter) ↔
      parameter = q.parameter ∧ ∀ result, answer = some result → result.IsUnusable := by
  cases answer with
  | none => simp [singleValue, eq_comm]
  | some result =>
    have hiff : result.IsUnusable ↔ result.rejection? = none ∧
        (result.status = .tuplesOk ∧ result.rows.length = 1 → result.value? 0 0 = none) :=
      ⟨fun h => ⟨h.accepted, fun hone => h.valueless hone.1 hone.2⟩,
        fun h => ⟨h.1, fun hstatus hone => h.2 ⟨hstatus, hone⟩⟩⟩
    simp only [singleValue, Option.some.injEq, forall_eq', hiff]
    cases result.rejection? with
    | some e => simp
    | none =>
      by_cases hone : result.status = .tuplesOk ∧ result.rows.length = 1
      · cases result.value? 0 0 <;> simp [hone, eq_comm]
      · rw [if_neg hone]
        simp only [Except.error.injEq, Fault.cannotFetch.injEq, true_and]
        exact ⟨fun h => ⟨h.symm, fun h => absurd h hone⟩, fun h => h.1.symm⟩

/-- Nor can it be noted. -/
theorem isUnusable_of_note {parameter : String}
    (h : q.note answer progress = .error (.cannotFetch parameter)) :
    parameter = q.parameter ∧ ∀ result, answer = some result → result.IsUnusable := by
  refine singleValue_eq_cannotFetch_iff.1 ?_
  unfold note at h
  cases hvalue : q.singleValue answer with
  | error fault =>
    rw [hvalue] at h
    cases h
    rfl
  | ok value =>
    rw [hvalue] at h
    cases q with
    | clientEncoding => cases h
    | dateStyle =>
      cases hparse : DateStyle.parse value with
      | ok dateStyle =>
        simp only [bind, Except.bind, hparse] at h
        cases h
      | error fault =>
        simp only [bind, Except.bind, hparse] at h
        cases h
        unfold DateStyle.parse at hparse
        split at hparse <;> cases hparse

/-- A question was put in some of the exchanges, and nothing of use was answered: its statement was run,
or results were fetched, of which the last one counts. -/
inductive Untold (q : SetupQuery) (xs : List Exchange) : Prop
  | executed (result : QueryResult) (put : { call := .exec q.statement, answer := .ok result } ∈ xs)
    (unusable : result.IsUnusable)
  | awaited (put : { call := .getResult, answer := none } ∈ xs)
    (unusable : ∀ result, (fetched xs).getLast? = some result → result.IsUnusable)

/-- Other exchanges do not matter. -/
theorem Untold.of_quiet {q : SetupQuery} {xs ys : List Exchange} (h : q.Untold xs)
    (hys : ∀ y ∈ ys, y.call.isQuiet) : q.Untold (xs ++ ys) := by
  cases h with
  | executed result put unusable => exact .executed result (List.mem_append_left _ put) unusable
  | awaited put unusable =>
    refine .awaited (List.mem_append_left _ put) ?_
    rwa [fetched_append, fetched_of_quiet hys, List.append_nil]

end SetupQuery

/-- There was a reason for a fault: it is none that safeguards raise, or one of the permitted questions
was put and left untold. -/
structure Fault.Warranted (permitted : SetupQuery → Prop) (xs : List Exchange) (fault : Fault) : Prop where
  isOpen : fault ≠ .closed
  attempted : fault ≠ .noAttempt
  told : ∀ parameter, fault = .cannotFetch parameter →
    ∃ q, permitted q ∧ parameter = q.parameter ∧ q.Untold xs

namespace Fault

variable {permitted : SetupQuery → Prop} {xs ys : List Exchange} {fault : Fault}

theorem warranted_of_isSafeguard (h : fault.isSafeguard = false) : fault.Warranted permitted xs where
  isOpen := by rintro rfl; cases h
  attempted := by rintro rfl; cases h
  told := by rintro parameter rfl; cases h

theorem Warranted.of_quiet (h : fault.Warranted permitted xs) (hys : ∀ y ∈ ys, y.call.isQuiet) :
    fault.Warranted permitted (xs ++ ys) where
  isOpen := h.isOpen
  attempted := h.attempted
  told := fun parameter hfault => by
    obtain ⟨q, hq, hparameter, huntold⟩ := h.told parameter hfault
    exact ⟨q, hq, hparameter, huntold.of_quiet hys⟩

/-- A fault that arises when the answer to a permitted question is noted. -/
theorem warranted_of_note {q : SetupQuery} {answer : Option QueryResult} {progress : SetupProgress}
    (h : q.note answer progress = .error fault) (hq : permitted q)
    (huntold : (∀ result, answer = some result → result.IsUnusable) → q.Untold xs) :
    fault.Warranted permitted xs := by
  cases hrejection : answer.bind (·.rejection?) with
  | some e =>
    cases (SetupQuery.note_of_rejection hrejection).symm.trans h
    exact warranted_of_isSafeguard rfl
  | none =>
    rcases SetupQuery.isUnreadable_of_note hrejection h with ⟨parameter, rfl⟩ | ⟨text, rfl⟩
    · obtain ⟨hparameter, hunusable⟩ := SetupQuery.isUnusable_of_note h
      refine { isOpen := nofun, attempted := nofun, told := ?_ }
      rintro _ ⟨⟩
      exact ⟨q, hq, hparameter, huntold hunusable⟩
    · exact warranted_of_isSafeguard rfl

end Fault

/-- Whether the answer to a question has been noted. -/
def SetupProgress.notes (p : SetupProgress) : SetupQuery → Bool
  | .dateStyle => p.dateStyle.isSome
  | .clientEncoding => p.encoding.isSome

/-- An answer that is noted adds the note of its question to those that are there. -/
theorem SetupQuery.notes_of_note {q : SetupQuery} {answer : Option QueryResult}
    {progress noted : SetupProgress} (h : q.note answer progress = .ok noted) (asked : SetupQuery) :
    noted.notes asked = (asked == q || progress.notes asked) := by
  rcases Span.note_eq_ok h with ⟨rfl, dateStyle, rfl⟩ | ⟨rfl, encoding, rfl⟩
  · cases asked <;> rfl
  · cases asked <;> rfl

/-- Notes of the answers to both questions amount to the information. -/
theorem SetupProgress.exists_toInfo {p : SetupProgress} (h : ∀ q, p.notes q) :
    ∃ info, p.toInfo = .ok info := by
  obtain ⟨dateStyle, hdateStyle⟩ := Option.isSome_iff_exists.1 (h .dateStyle)
  obtain ⟨encoding, hencoding⟩ := Option.isSome_iff_exists.1 (h .clientEncoding)
  unfold toInfo
  rw [hdateStyle, hencoding]
  exact ⟨_, rfl⟩

/-! ## Sure spans -/

variable {σ : Type} [WireSession σ] {α β : Type}

namespace Span

/-- Started with a session, the span keeps it, and it fails with no fault of a safeguard. -/
def Sure (span : Span σ α) : Prop :=
  ∀ s : SpanState σ, s.guarded.session.isSome → Ends span s fun r t =>
    t.guarded.session.isSome ∧ ∀ fault, r = .error fault → fault.isSafeguard = false

namespace Sure

omit [WireSession σ] in
theorem pure (x : α) : Sure (Pure.pure x : Span σ α) :=
  fun _ hs => ends_pure ⟨hs, nofun⟩

omit [WireSession σ] in
theorem throw {fault : Fault} (h : fault.isSafeguard = false) :
    Sure (MonadExcept.throw fault : Span σ α) :=
  fun _ hs => ends_throw ⟨hs, by rintro _ ⟨⟩; exact h⟩

omit [WireSession σ] in
theorem lift {x : Except Fault α} (h : ∀ fault, x = .error fault → fault.isSafeguard = false) :
    Sure (liftM x : Span σ α) := by
  cases x with
  | ok y => exact pure y
  | error fault => exact throw (h fault rfl)

omit [WireSession σ] in
theorem sent (outcome : Except String α) : Sure (Span.sent outcome : Span σ α) := by
  cases outcome with
  | ok x => exact pure x
  | error text => exact throw rfl

omit [WireSession σ] in
theorem guarded : Sure (Span.guarded : Span σ (Guarded σ)) :=
  fun s hs => ends_of_exec (exec_guarded s) ⟨hs, nofun⟩

omit [WireSession σ] in
theorem bind {span : Span σ α} {next : α → Span σ β} (h : Sure span) (hnext : ∀ x, Sure (next x)) :
    Sure (span >>= next) := by
  intro s hs
  apply ends_bind
  apply (h s hs).mono
  rintro r t ⟨ht, hfault⟩
  refine ⟨fun x _ => hnext x t ht, fun fault hr => ⟨ht, ?_⟩⟩
  rintro _ ⟨⟩
  exact hfault fault hr

omit [WireSession σ] in
/-- A change that leaves the session alone. -/
theorem update {f : Guarded σ → Guarded σ} (hf : ∀ g, (f g).session = g.session) :
    Sure (Span.update f) :=
  fun s hs => ends_of_exec (exec_update f s) ⟨(hf s.guarded).symm ▸ hs, nofun⟩

omit [WireSession σ] in
theorem moveTo (status : Status) : Sure (Span.moveTo status : Span σ Unit) :=
  update fun _ => rfl

omit [WireSession σ] in
theorem complete (flight : InFlight) (outcome : Except Fault (List QueryResult)) :
    Sure (Span.complete flight outcome : Span σ Unit) :=
  fun s hs => ends_of_exec (exec_complete flight outcome s) ⟨hs, nofun⟩

/-- The safeguard of a call is a session that is missing. -/
theorem ask (call : Call) : Sure (Span.ask call : Span σ call.Answer) := by
  intro s hs
  obtain ⟨session, hsession⟩ := Option.isSome_iff_exists.1 hs
  exact ends_of_exec (exec_ask_some hsession call) ⟨rfl, nofun⟩

theorem askResults : Sure (Span.askResults : Span σ (List QueryResult)) := by
  intro s hs
  obtain ⟨session, hsession⟩ := Option.isSome_iff_exists.1 hs
  exact ends_of_exec (exec_askResults_some hsession) ⟨rfl, nofun⟩

/-! ## Statements on a blocking connection -/

theorem command (sql : String) : Sure (Span.command sql : Span σ QueryResult) := by
  refine bind (ask _) fun answer => bind (sent answer) fun result => ?_
  cases result.rejection? with
  | none => exact pure _
  | some e => exact throw rfl

theorem beginIfNeeded : Sure (Span.beginIfNeeded : Span σ Unit) := by
  refine bind guarded fun g => ?_
  split
  · cases g.isolation.beginStatement with
    | none => exact pure _
    | some statement => exact bind (command statement) fun _ => moveTo _
  · exact pure _

theorem endBlock (statement : String) : Sure (Span.endBlock statement : Span σ Unit) := by
  refine bind guarded fun g => ?_
  split
  · exact bind (command statement) fun _ => moveTo _
  · exact pure _

theorem execute (sql : String) : Sure (Span.execute sql : Span σ QueryResult) :=
  bind beginIfNeeded fun _ => command sql

theorem setIsolation (level : Int) : Sure (Span.setIsolation level : Span σ Unit) := by
  have hset : ∀ target : Isolation, Sure (Span.update ({ · with isolation := target }) : Span σ Unit) :=
    fun target => update fun _ => rfl
  have hlevel : ∀ fault, Isolation.ofLevel level = .error fault → fault.isSafeguard = false := by
    intro fault h
    obtain ⟨-, rfl⟩ := Isolation.ofLevel_eq_error_iff.1 h
    rfl
  refine bind (lift hlevel) fun target => bind guarded fun g => ?_
  dsimp only
  split
  · split
    · exact bind (endBlock _) fun _ => hset target
    · exact hset target
  · exact pure _

theorem setClientEncoding (name : String) : Sure (Span.setClientEncoding name : Span σ Unit) := by
  refine bind guarded fun g => ?_
  split
  · exact bind (endBlock _) fun _ => bind (command _) fun _ => update fun _ => rfl
  · exact pure _

/-! ## Steps of a poll -/

theorem recordHandshake : Sure (Span.recordHandshake : Span σ Unit) :=
  bind (ask _) fun _ => bind (ask _) fun _ => bind (ask _) fun _ => update fun _ => rfl

theorem stepHandshake : Sure (Span.stepHandshake : Span σ Readiness) := by
  refine bind (ask _) fun answer => ?_
  cases answer with
  | reading | writing => exact pure _
  | failed => exact bind (ask _) fun _ => throw rfl
  | established => exact bind recordHandshake fun _ => bind (moveTo _) fun _ => pure _
  | unknown code => exact throw rfl

omit [WireSession σ] in
theorem afterFlush (q : SetupQuery) (submitted : Bool) (outcome : FlushOutcome) :
    Sure (Span.afterFlush q submitted outcome : Span σ Readiness) := by
  cases outcome with
  | done => exact bind (moveTo _) fun _ => pure _
  | pending =>
    unfold Span.afterFlush
    cases submitted with
    | true => exact bind (moveTo _) fun _ => pure _
    | false => exact pure _

theorem stepWriting (q : SetupQuery) : Sure (Span.stepWriting q : Span σ Readiness) :=
  bind (ask _) fun answer => bind (sent answer) fun outcome => afterFlush q false outcome

theorem stepAsking (q : SetupQuery) : Sure (Span.stepAsking q : Span σ Readiness) :=
  bind (ask _) fun answer => bind (sent answer) fun _ => bind (ask _) fun flushed =>
    bind (sent flushed) fun outcome => afterFlush q true outcome

omit [WireSession σ] in
theorem abandon (flight : InFlight) (text : String) :
    Sure (Span.abandon flight text : Span σ Readiness) :=
  bind (complete _ _) fun _ => throw rfl

theorem stepFlight (flight : InFlight) : Sure (Span.stepFlight flight : Span σ Readiness) := by
  refine bind (ask _) fun answer => ?_
  rcases answer with text | _ | _
  · exact abandon flight text
  · exact bind (update fun _ => rfl) fun _ => pure _
  · exact pure _

theorem stepResults (flight : InFlight) : Sure (Span.stepResults flight : Span σ Readiness) := by
  refine bind (ask _) fun answer => ?_
  cases answer with
  | error text => exact abandon flight text
  | ok _ =>
    refine bind (ask _) fun busy => ?_
    split
    · exact pure _
    · exact bind askResults fun results => bind (complete _ _) fun _ => pure _

theorem stepReady : Sure (Span.stepReady : Span σ Readiness) := by
  refine bind guarded fun g => ?_
  cases g.inFlight with
  | none => exact bind (ask _) fun answer => bind (sent answer) fun _ => pure _
  | some flight =>
    cases hphase : flight.phase with
    | writing =>
      simp only [hphase]
      exact stepFlight flight
    | reading =>
      simp only [hphase]
      exact stepResults flight

theorem submit (sql : String) (owner : QueryOwner) : Sure (Span.submit sql owner : Span σ Unit) := by
  have hrefuse : ∀ {p : Prop} [Decidable p] {fault : Fault} {next : Unit → Span σ Unit},
      fault.isSafeguard = false → Sure (next ()) →
        Sure (if p then MonadExcept.throw fault >>= next else next ()) := by
    intro p _ fault next hfault h
    split
    · exact bind (throw hfault) fun _ => h
    · exact h
  refine bind guarded fun g => hrefuse rfl (bind guarded fun g => hrefuse rfl ?_)
  exact bind (ask _) fun answer => bind (sent answer) fun _ => bind (ask _) fun flushed =>
    bind (sent flushed) fun outcome => update fun _ => rfl

end Sure

/-! ## The setup -/

/-- The session is there, and if a span has failed there was a reason for its fault. -/
structure Warrants (permitted : SetupQuery → Prop) (r : Except Fault α) (t : SpanState σ) : Prop where
  session : t.guarded.session.isSome
  warranted : ∀ fault, r = .error fault → fault.Warranted permitted t.exchanges

variable {permitted : SetupQuery → Prop} {s : SpanState σ}

omit [WireSession σ] in
theorem Sure.warrants {span : Span σ α} (h : Sure span) (hs : s.guarded.session.isSome) :
    Ends span s (Warrants permitted) :=
  (h s hs).mono fun _ _ ht => ⟨ht.1, fun fault hr => Fault.warranted_of_isSafeguard (ht.2 fault hr)⟩

/-- A failure closes the connection for the same reason. -/
theorem warranted_orTearDown {span : Span σ α} (h : Ends span s (Warrants permitted)) :
    Ends (orTearDown span) s fun r t =>
      ∀ fault, r = .error fault → fault.Warranted permitted t.exchanges := by
  apply ends_orTearDown
  apply h.mono
  rintro r t ht
  refine ⟨fun x hx => nofun, fun fault hr => ends_of_exec (exec_tearDown t) ⟨rfl, ?_⟩⟩
  rintro _ ⟨⟩
  refine (ht.warranted fault hr).of_quiet fun x hx => ?_
  obtain ⟨session, hsession⟩ := Option.isSome_iff_exists.1 ht.session
  rw [hsession] at hx
  exact Halts.isQuiet_of_farewell hx

omit [WireSession σ] in
theorem ends_noteAnswer_of {q : SetupQuery} {answer : Option QueryResult}
    {Q : Except Fault Unit → SpanState σ → Prop}
    (ok : ∀ noted, q.note answer s.guarded.progress = .ok noted →
      Q (.ok ()) { s with guarded := s.guarded.noting noted })
    (failed : ∀ fault, q.note answer s.guarded.progress = .error fault → Q (.error fault) s) :
    Ends (noteAnswer q answer) s Q := by
  unfold noteAnswer
  apply ends_bind_ok (exec_guarded s)
  cases hnote : q.note answer s.guarded.progress with
  | error fault => exact failed fault hnote
  | ok noted => exact ok noted hnote

omit [WireSession σ] in
/-- With both answers noted, the setup is completed. -/
theorem ends_completeSetup_of_notes (hnoted : ∀ q, s.guarded.progress.notes q) (level : Isolation) :
    Ends (completeSetup level) s fun r t => r = .ok () ∧ t.guarded.session = s.guarded.session := by
  obtain ⟨info, hinfo⟩ := SetupProgress.exists_toInfo hnoted
  unfold completeSetup
  apply ends_bind_ok (exec_guarded s)
  apply ends_bind_ok (exec_update _ s)
  rw [hinfo]
  exact ⟨rfl, rfl⟩

/-- A question that is put is noted, or left untold. -/
theorem warrants_askQuery (hs : s.guarded.session.isSome) (q : SetupQuery) :
    Ends (askQuery q) s fun r t => Warrants (fun _ => True) r t ∧
      (r = .ok () → ∀ asked, asked = q ∨ s.guarded.progress.notes asked →
        t.guarded.progress.notes asked) := by
  unfold askQuery
  apply ends_bind_ask hs
  intro answer session
  apply ends_bind_sent
  · rintro result rfl
    apply ends_noteAnswer_of
    · intro noted hnote
      refine ⟨⟨rfl, nofun⟩, fun _ asked hasked => ?_⟩
      show noted.notes asked
      rw [SetupQuery.notes_of_note hnote, Bool.or_eq_true, beq_iff_eq]
      exact hasked
    · intro fault hnote
      refine ⟨⟨rfl, ?_⟩, nofun⟩
      rintro _ ⟨⟩
      refine Fault.warranted_of_note hnote trivial fun hunusable => ?_
      refine .executed result ?_ (hunusable result rfl)
      exact List.mem_append_right _ (List.mem_singleton_self _)
  · rintro text -
    refine ⟨⟨rfl, ?_⟩, nofun⟩
    rintro _ ⟨⟩
    exact Fault.warranted_of_isSafeguard rfl

/-- So are any number of questions. -/
theorem warrants_forM_askQuery (hs : s.guarded.session.isSome) (qs : List SetupQuery) :
    Ends (qs.forM askQuery) s fun r t => Warrants (fun _ => True) r t ∧
      (r = .ok () → ∀ asked, asked ∈ qs ∨ s.guarded.progress.notes asked →
        t.guarded.progress.notes asked) := by
  induction qs generalizing s with
  | nil => exact ⟨⟨hs, nofun⟩, fun _ asked hasked => by simpa using hasked⟩
  | cons q qs ih =>
    show Ends (askQuery q >>= fun _ => qs.forM askQuery) s _
    apply ends_bind
    apply (warrants_askQuery hs q).mono
    rintro r t ⟨ht, hnotes⟩
    refine ⟨fun x hx => ?_, fun fault hr => ⟨⟨ht.session, ?_⟩, nofun⟩⟩
    · apply (ih ht.session).mono
      rintro r u ⟨hu, hothers⟩
      refine ⟨hu, fun hr asked hasked => hothers hr asked ?_⟩
      rw [List.mem_cons, or_assoc, or_left_comm] at hasked
      exact hasked.imp_right fun h => hnotes hx asked h
    · rintro _ ⟨⟩
      exact ht.warranted fault hr

/-- The blocking setup puts both questions before it is completed. -/
theorem warrants_runSetup (hs : s.guarded.session.isSome) (level : Isolation) :
    Ends (runSetup level) s (Warrants fun _ => True) := by
  have hrecorded : Ends recordHandshake s (Warrants fun _ => True) := Sure.recordHandshake.warrants hs
  unfold runSetup
  apply ends_bind
  apply hrecorded.mono
  intro r t ht
  refine ⟨fun _ _ => ?_, ?_⟩
  · apply ends_bind
    apply (warrants_forM_askQuery ht.session _).mono
    rintro r u ⟨hu, hnotes⟩
    refine ⟨fun x hx => ?_, ?_⟩
    · have hnoted : ∀ q, u.guarded.progress.notes q :=
        fun q => hnotes hx q (Or.inl (by cases q <;> decide))
      apply (ends_completeSetup_of_notes hnoted level).mono
      rintro r v ⟨rfl, hv⟩
      exact ⟨hv ▸ hu.session, nofun⟩
    · rintro fault rfl
      exact ⟨hu.session, hu.warranted⟩
  · rintro fault rfl
    exact ⟨ht.session, ht.warranted⟩

/-- The results of a question are the last ones that a poll fetches. -/
theorem warrants_stepAwaiting (hs : s.guarded.session.isSome) (hexchanges : s.exchanges = [])
    {q : SetupQuery} (hq : permitted q)
    (hnoted : q = .clientEncoding → s.guarded.progress.notes .dateStyle) (level : Isolation) :
    Ends (stepAwaiting q level) s (Warrants permitted) := by
  unfold stepAwaiting
  apply ends_bind_ask hs
  intro consumed session₁
  apply ends_bind_sent
  case failed =>
    rintro text -
    refine ⟨rfl, ?_⟩
    rintro _ ⟨⟩
    exact Fault.warranted_of_isSafeguard rfl
  intro _ _
  apply ends_bind_ask rfl
  intro busy session₂
  cases busy with
  | true => exact ⟨rfl, nofun⟩
  | false =>
    apply ends_bind_askResults rfl
    intro results session₃
    apply ends_bind
    apply ends_noteAnswer_of
    · intro noted hnote
      refine ⟨fun _ _ => ?_, nofun⟩
      cases q with
      | dateStyle => exact ends_bind_moveTo (ends_pure ⟨rfl, nofun⟩)
      | clientEncoding =>
        have hboth : ∀ q, noted.notes q := by
          intro q
          rw [SetupQuery.notes_of_note hnote]
          cases q with
          | dateStyle => exact hnoted rfl
          | clientEncoding => rfl
        apply ends_bind
        apply (ends_completeSetup_of_notes hboth level).mono
        rintro r t ⟨rfl, ht⟩
        exact ⟨fun _ _ => ends_pure ⟨ht ▸ rfl, nofun⟩, nofun⟩
    · intro fault hnote
      refine ⟨nofun, ?_⟩
      rintro _ ⟨⟩
      refine ⟨rfl, ?_⟩
      rintro _ ⟨⟩
      refine Fault.warranted_of_note hnote hq fun hunusable => .awaited ?_ ?_
      · exact List.mem_append_right _ (List.mem_append_right _ (List.mem_singleton_self _))
      · simp only [SpanState.exchanges_after, hexchanges, fetched_append, fetched_fetchExchanges]
        exact hunusable

/-- Once the guard is released, only messages are taken over. -/
theorem warranted_run {span : Span σ α} {g : Guarded σ}
    (h : Ends span { guarded := g } fun r t =>
      ∀ fault, r = .error fault → fault.Warranted permitted t.exchanges) {fault : Fault}
    (hfault : (run span g).result = .error fault) :
    fault.Warranted permitted (run span g).exchanges := by
  unfold Ends at h
  rcases hexec : exec span { guarded := g } with ⟨r, t⟩
  rw [hexec] at h
  obtain ⟨hresult, -, messages, hexchanges, hmessages⟩ := run_of_exec hexec
  rw [hexchanges]
  refine (h fault (hresult.symm.trans hfault)).of_quiet fun x hx => ?_
  rcases hmessages x hx with hcall | hcall <;> rw [hcall] <;> rfl

end Span

end SessionLayer
