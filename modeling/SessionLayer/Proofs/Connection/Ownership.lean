import SessionLayer.Proofs.Connection.Hollow
import SessionLayer.Proofs.Connection.Pending

/-!
# Whose statement waits with the session

As long as no operation strands a statement, the session of an asynchronous connection has at most one
statement in its queue, and while a statement is in flight it is that one (`Waits`). So the results that
a poll collects for an owner are results of the owner's own statement.
-/

set_option autoImplicit false

namespace SessionLayer

open StatementQueue

variable {σ : Type} [WireSession σ] [StatementQueue σ]

/-- The statement was submitted for the owner and accepted, and nothing was submitted or ended since. -/
def Submitted (ps : List (Performance σ)) (owner : QueryOwner) (st : Statement σ) : Prop :=
  ∃ earlier submission later sql session, ps = earlier ++ submission :: later ∧
    submission.operation = .submit sql owner ∧ submission.accepted? = some owner ∧
    (∀ p ∈ later, p.accepted? = none ∧ p.ended? = none) ∧
    submission.before.session = some session ∧ st = statement session sql

/-- No more statements wait with the session than may; the one that waits while a statement is in
flight is that statement. -/
structure Waits (ps : List (Performance σ)) (g : Guarded σ) : Prop where
  within : g.queued.length ≤ g.capacity
  own : ∀ owner, g.owner? = some owner →
    ∃ st, Submitted ps owner st ∧ ∀ other ∈ g.queued, other = st

/-- The owner of the statement that was submitted last is told that the transport failed, or what
results of this statement come to. -/
def Answers (ps : List (Performance σ)) (completion : Completion) : Prop :=
  ∃ st, Submitted ps completion.owner st ∧
    ((∃ text, completion.outcome = .error (.transport text)) ∨
      ∃ results, completion.outcome = collectOutcome results ∧ ∀ r ∈ results, Produces st r)

variable {ps : List (Performance σ)} {owner : QueryOwner} {st : Statement σ}

theorem Submitted.concat (h : Submitted ps owner st) {p : Performance σ} (haccepted : p.accepted? = none)
    (hended : p.ended? = none) : Submitted (ps ++ [p]) owner st := by
  obtain ⟨earlier, submission, later, sql, session, rfl, hop, hsubmitted, hlater, hsession, rfl⟩ := h
  refine ⟨earlier, submission, later ++ [p], sql, session, ?_, hop, hsubmitted, ?_, hsession, rfl⟩
  · rw [List.append_assoc, List.cons_append]
  · intro q hq
    rcases List.mem_append.1 hq with hq | hq
    · exact hlater q hq
    · rw [List.mem_singleton.1 hq]
      exact ⟨haccepted, hended⟩

namespace Connection

open SessionLayer.Span Guarded

variable {c : Connection σ}

/-- What an operation does with the statement in flight settles whose statement waits. -/
theorem waits_of_turnover (h : Waits ps c.guarded) (hsettled : c.guarded.Settled c.asynchronous)
    (op : Operation)
    (hwithin : (c.perform op).guarded.queued.length ≤ (c.perform op).guarded.capacity)
    (hkept : ∀ owner, c.guarded.owner? = some owner →
      ∀ st ∈ (c.perform op).guarded.queued, st ∈ c.guarded.queued)
    (haccepted : ∀ owner, (c.performance op).accepted? = some owner →
      ∃ st, Submitted (ps ++ [c.performance op]) owner st ∧
        ∀ other ∈ (c.perform op).guarded.queued, other = st) :
    Waits (ps ++ [c.performance op]) (c.perform op).guarded where
  within := hwithin
  own := by
    intro owner howner
    have hturn : c.guarded.Turnover (c.perform op).guarded (c.performance op).accepted?
        (c.performance op).ended? := turnover hsettled op
    generalize hgiven : (c.performance op).accepted? = given at hturn
    generalize hending : (c.performance op).ended? = ending at hturn
    cases hturn with
    | kept hsame =>
      have hbefore : c.guarded.owner? = some owner := hsame ▸ howner
      obtain ⟨st, hsubmitted, hst⟩ := h.own owner hbefore
      refine ⟨st, hsubmitted.concat hgiven hending, fun other hother => ?_⟩
      exact hst other (hkept owner hbefore other hother)
    | accepted given hnone hafter =>
      obtain rfl : given = owner := Option.some.inj (hafter.symm.trans howner)
      exact haccepted given hgiven
    | ended ending hbefore hafter => exact nomatch hafter.symm.trans howner

theorem waits_of_queued_eq (h : Waits ps c.guarded) (hsettled : c.guarded.Settled c.asynchronous)
    {op : Operation} (haccepted : (c.performance op).accepted? = none)
    (hqueued : (c.perform op).guarded.queued = c.guarded.queued)
    (hcapacity : (c.perform op).guarded.capacity = c.guarded.capacity) :
    Waits (ps ++ [c.performance op]) (c.perform op).guarded := by
  refine waits_of_turnover h hsettled op ?_ (fun _ _ st hst => ?_) fun owner howner => ?_
  · rw [hqueued, hcapacity]
    exact h.within
  · rwa [hqueued] at hst
  · exact nomatch haccepted.symm.trans howner

theorem waits_of_queued_eq_nil (h : Waits ps c.guarded) (hsettled : c.guarded.Settled c.asynchronous)
    {op : Operation} (haccepted : (c.performance op).accepted? = none)
    (hnil : (c.perform op).guarded.queued = []) :
    Waits (ps ++ [c.performance op]) (c.perform op).guarded := by
  refine waits_of_turnover h hsettled op ?_ (fun _ _ st hst => ?_) fun owner howner => ?_
  · rw [hnil]
    exact Nat.zero_le _
  · rw [hnil] at hst
    exact absurd hst List.not_mem_nil
  · exact nomatch haccepted.symm.trans howner

omit [WireSession σ] [StatementQueue σ] in
theorem ready_of_owner? (hsettled : c.guarded.Settled c.asynchronous)
    (howner : c.guarded.owner? = some owner) : c.asynchronous = true ∧ c.guarded.status = .ready := by
  obtain ⟨flight, hflight, -⟩ := Option.map_eq_some_iff.1 howner
  exact hsettled.1.inFlight (Option.isSome_of_eq_some hflight)

theorem waits_poll_of_closed (h : Waits ps c.guarded) (hsettled : c.guarded.Settled c.asynchronous)
    (hclosed : c.guarded.status = .closed) :
    Waits (ps ++ [c.performance .poll]) (c.perform .poll).guarded := by
  have hnil : (c.perform .poll).guarded.queued = [] := by
    refine queued_eq_nil (Option.not_isSome_iff_eq_none.1 fun hsome => ?_)
    exact (settled_perform hsettled .poll).1.session_iff.1 hsome (closed_perform hclosed .poll)
  exact waits_of_queued_eq_nil h hsettled rfl hnil

theorem waits_poll_of_isConnecting (h : Waits ps c.guarded)
    (hsettled : c.guarded.Settled c.asynchronous) (ha : c.asynchronous = true) {session : σ}
    (hsession : c.guarded.session = some session) (hconnecting : c.guarded.status.isConnecting) :
    Waits (ps ++ [c.performance .poll]) (c.perform .poll).guarded := by
  have hends : Ends (c.span .poll) { guarded := c.guarded } fun _ t =>
      t.guarded.queued.length ≤ t.guarded.capacity := by
    show Ends (poll c.asynchronous c.setupIsolation) _ _
    rw [ha]
    exact ends_poll_within hsession hconnecting h.within _
  obtain ⟨t, ht, -, hqueued, hcapacity, -⟩ := run_of_ends_queued hends
  have hqueued : (c.perform .poll).guarded.queued = t.guarded.queued := hqueued
  have hcapacity : (c.perform .poll).guarded.capacity = t.guarded.capacity := hcapacity
  refine waits_of_turnover h hsettled .poll ?_ (fun owner howner => ?_) fun owner hnone => nomatch hnone
  · rwa [hqueued, hcapacity]
  · rw [(ready_of_owner? hsettled howner).2] at hconnecting
    exact nomatch hconnecting

/-- What a poll of a connection that is set up does with the queue. -/
theorem drained_perform {session : σ} (hsession : c.guarded.session = some session)
    (husable : c.guarded.status.isUsable) :
    ∃ t : SpanState σ,
      c.guarded.Drained (c.perform .poll).result t.guarded (c.perform .poll).completion ∧
      (c.perform .poll).guarded.queued = t.guarded.queued ∧
      (c.perform .poll).guarded.capacity = t.guarded.capacity := by
  obtain ⟨t, ht, hcompletion, hqueued, hcapacity, -⟩ :=
    run_of_ends_queued (ends_poll_drained (s := { guarded := c.guarded }) hsession husable rfl
      c.asynchronous c.setupIsolation)
  exact ⟨t, hcompletion ▸ ht, hqueued, hcapacity⟩

theorem waits_poll_of_isUsable (h : Waits ps c.guarded) (hsettled : c.guarded.Settled c.asynchronous)
    {session : σ} (hsession : c.guarded.session = some session)
    (husable : c.guarded.status.isUsable) (hstrands : (c.performance .poll).strands = false) :
    Waits (ps ++ [c.performance .poll]) (c.perform .poll).guarded := by
  obtain ⟨t, hdrained, hqueued, hcapacity⟩ := drained_perform hsession husable
  generalize hresult : (c.perform .poll).result = r at hdrained
  generalize hcompletion : (c.perform .poll).completion = completion at hdrained
  generalize t.guarded = g' at hqueued hcapacity hdrained
  cases hdrained with
  | kept _ _ hsame hcap =>
    exact waits_of_queued_eq h hsettled rfl (hqueued.trans hsame) (hcapacity.trans hcap)
  | collected owner results _ hproduces hnil =>
    have hone : c.guarded.queued.length ≤ 1 := Nat.le_trans h.within (capacity_le_one _)
    exact waits_of_queued_eq_nil h hsettled rfl (hqueued.trans (hnil hone))
  | abandoned owner text _ =>
    -- The statement that is given up stays in the queue.
    have hleft : (c.performance .poll).outcome.completion.isSome := by
      show (c.perform .poll).completion.isSome
      rw [hcompletion]
      rfl
    exact nomatch (Performance.strands_of_error hresult (Or.inl hleft)).symm.trans hstrands

theorem waits_poll (h : Waits ps c.guarded) (hsettled : c.guarded.Settled c.asynchronous)
    (ha : c.asynchronous = true) (hstrands : (c.performance .poll).strands = false) :
    Waits (ps ++ [c.performance .poll]) (c.perform .poll).guarded := by
  by_cases hclosed : c.guarded.status = .closed
  · exact waits_poll_of_closed h hsettled hclosed
  obtain ⟨session, hsession⟩ := Option.isSome_iff_exists.1 (hsettled.1.session_iff.2 hclosed)
  rcases Status.isConnecting_or_isUsable hclosed with hconnecting | husable
  · exact waits_poll_of_isConnecting h hsettled ha hsession hconnecting
  · exact waits_poll_of_isUsable h hsettled hsession husable hstrands

/-- What a submission on an asynchronous connection does with the queue. -/
theorem enqueued_perform (hsettled : c.guarded.Settled c.asynchronous) (ha : c.asynchronous = true)
    (sql : String) (owner : QueryOwner) :
    ∃ t : SpanState σ,
      Enqueued { guarded := c.guarded } sql owner (c.perform (.submit sql owner)).result t ∧
      (c.perform (.submit sql owner)).guarded.queued = t.guarded.queued ∧
      (c.perform (.submit sql owner)).guarded.capacity = t.guarded.capacity ∧
      t.exchanges <+: (c.perform (.submit sql owner)).exchanges := by
  have hends : Ends (c.span (.submit sql owner)) { guarded := c.guarded }
      (Enqueued { guarded := c.guarded } sql owner) := by
    refine ends_bind_ensureOpen (fun _ => .refused _ _ rfl rfl) fun hopen => ?_
    obtain ⟨session, hsession⟩ := Option.isSome_iff_exists.1 (hsettled.1.session_iff.2 hopen)
    rw [ha]
    exact ends_submit_enqueued hsession sql owner
  obtain ⟨t, ht, -, hqueued, hcapacity, hexchanges⟩ := run_of_ends_queued hends
  exact ⟨t, ht, hqueued, hcapacity, hexchanges⟩

omit [StatementQueue σ] in
theorem accepted?_submit {sql : String} {owner : QueryOwner} {r : Except Fault Unit}
    (h : (c.perform (.submit sql owner)).result = r) :
    (c.performance (.submit sql owner)).accepted? = Operation.accepted? (.submit sql owner) r := by
  rw [← h]
  rfl

theorem waits_submit (h : Waits ps c.guarded) (hsettled : c.guarded.Settled c.asynchronous)
    (ha : c.asynchronous = true) (sql : String) (owner : QueryOwner)
    (hstrands : (c.performance (.submit sql owner)).strands = false) :
    Waits (ps ++ [c.performance (.submit sql owner)]) (c.perform (.submit sql owner)).guarded := by
  obtain ⟨t, henqueued, hqueued, hcapacity, hexchanges⟩ := enqueued_perform hsettled ha sql owner
  generalize hresult : (c.perform (.submit sql owner)).result = r at henqueued
  have hgiven := accepted?_submit hresult
  cases henqueued with
  | accepted session _ hsession husable hnone hadded hone =>
    have hzero : c.guarded.capacity = 0 := by
      rw [capacity_of_isUsable husable, hnone]
      rfl
    -- Nothing was in flight, so nothing waited: the statement is alone in the queue.
    have hempty : c.guarded.queued = [] :=
      List.eq_nil_of_length_eq_zero (Nat.le_zero.1 (hzero ▸ h.within))
    have hqueue : (c.perform (.submit sql owner)).guarded.queued = [statement session sql] := by
      rw [hqueued, hadded, hempty]
      rfl
    have hsubmitted : Submitted (ps ++ [c.performance (.submit sql owner)]) owner
        (statement session sql) := by
      refine ⟨ps, c.performance (.submit sql owner), [], sql, session, rfl, rfl, hgiven, ?_,
        hsession, rfl⟩
      exact fun p hp => absurd hp List.not_mem_nil
    refine waits_of_turnover h hsettled _ ?_ (fun other hother => ?_) fun given haccepted => ?_
    · rw [hqueue, hcapacity, hone]
      exact Nat.le_refl 1
    · rw [owner?, hnone] at hother
      cases hother
    · obtain rfl : owner = given := Option.some.inj (hgiven.symm.trans haccepted)
      refine ⟨statement session sql, hsubmitted, fun other hother => ?_⟩
      rw [hqueue] at hother
      exact List.mem_singleton.1 hother
  | refused fault _ hsame hcap =>
    exact waits_of_queued_eq h hsettled hgiven (hqueued.trans hsame) (hcapacity.trans hcap)
  | stranded fault _ haccepts =>
    obtain ⟨x, hx, haccepted⟩ := List.any_eq_true.1 haccepts
    have hleft : (c.perform (.submit sql owner)).exchanges.any Exchange.acceptsStatement :=
      List.any_eq_true.2 ⟨x, hexchanges.subset hx, haccepted⟩
    cases (Performance.strands_of_error hresult (Or.inr hleft)).symm.trans hstrands

/-- As long as nothing is stranded, at most the statement in flight waits. -/
theorem waits_performance (h : Waits ps c.guarded) (hsettled : c.guarded.Settled c.asynchronous)
    (ha : c.asynchronous = true) (op : Operation) (hstrands : (c.performance op).strands = false) :
    Waits (ps ++ [c.performance op]) (c.perform op).guarded := by
  by_cases hpoll : op = .poll
  · subst hpoll
    exact waits_poll h hsettled ha hstrands
  by_cases hsubmit : ∃ sql owner, op = .submit sql owner
  · obtain ⟨sql, owner, rfl⟩ := hsubmit
    exact waits_submit h hsettled ha sql owner hstrands
  have hother : ∀ sql owner, op ≠ .submit sql owner := fun sql owner heq => hsubmit ⟨sql, owner, heq⟩
  obtain ⟨t, ht, -, hqueued, hcapacity, -⟩ :=
    run_of_ends_queued (ends_span_unmoved hsettled.1 ha hpoll hother)
  have haccepted : (c.performance op).accepted? = none := by
    cases op with
    | submit sql owner => exact absurd rfl (hother sql owner)
    | _ => rfl
  rcases ht with ⟨hsame, hcap⟩ | hnil
  · exact waits_of_queued_eq h hsettled haccepted (hqueued.trans hsame) (hcapacity.trans hcap)
  · exact waits_of_queued_eq_nil h hsettled haccepted (hqueued.trans hnil)

theorem Career.waits {g g' : Guarded σ} (h : c.Career g ps g') (hsettled : g.Settled c.asynchronous)
    (ha : c.asynchronous = true) (hwaits : Waits [] g) (hstrands : ∀ p ∈ ps, p.strands = false) :
    Waits ps g' := by
  -- By induction on the career: each operation that strands nothing hands the invariant on.
  induction h with
  | nil => exact hwaits
  | @snoc ps g₁ op hcareer ih =>
    have hbefore : Waits ps (c.withGuarded g₁).guarded :=
      ih fun p hp => hstrands p (List.mem_append_left _ hp)
    have hlast : ((c.withGuarded g₁).performance op).strands = false :=
      hstrands _ (List.mem_append_right _ (List.mem_singleton.2 rfl))
    exact waits_performance hbefore (hcareer.settled hsettled) ha op hlast

/-- The outcome with which a statement is ended is its own. -/
theorem answers_of_completion (h : Waits ps c.guarded) (hsettled : c.guarded.Settled c.asynchronous)
    {op : Operation} {completion : Completion}
    (hcompletion : (c.perform op).completion = some completion) : Answers ps completion := by
  obtain rfl : op = .poll := (collected_perform hsettled hcompletion).1
  have howner := owner?_of_completion hsettled hcompletion
  have hready := (ready_of_owner? hsettled howner).2
  obtain ⟨st, hsubmitted, hst⟩ := h.own completion.owner howner
  have hopen : c.guarded.status ≠ .closed := by
    rw [hready]
    exact nofun
  obtain ⟨session, hsession⟩ := Option.isSome_iff_exists.1 (hsettled.1.session_iff.2 hopen)
  obtain ⟨t, hdrained, -⟩ := drained_perform hsession (by rw [hready]; rfl)
  refine ⟨st, hsubmitted, ?_⟩
  rw [hcompletion] at hdrained
  generalize (c.perform .poll).result = r at hdrained
  generalize t.guarded = g' at hdrained
  cases hdrained with
  | collected owner results _ hproduces hnil =>
    refine Or.inr ⟨results, rfl, fun r hr => ?_⟩
    obtain ⟨other, hother, hproduced⟩ := hproduces r hr
    exact hst other hother ▸ hproduced
  | abandoned owner text _ => exact Or.inl ⟨text, rfl⟩

end Connection

end SessionLayer
