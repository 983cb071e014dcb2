import SessionLayer.Proofs.Connection.Ownership
import SessionLayer.Proofs.Scenario.Completion

/-!
# Results reach their own owner

Every outcome that is handed over was brought by an operation in the history
(`Ledger.mem_completions`), on a connection that was opened (`Ledger.Reached.opened_of_completion`). The
session of an asynchronous connection starts with an empty queue, and as long as no operation has
stranded a statement in it, the outcome is of the statement that the owner submitted.
-/

set_option autoImplicit false

namespace SessionLayer

open StatementQueue

/-- Nothing waits with a session that an asynchronous connection has just taken in. -/
theorem Connection.waits_opened {σ : Type} [WireSession σ] [StatementQueue σ] {c : Connection σ}
    (ha : c.asynchronous = true) {session : σ} (hnew : pending session = []) :
    Waits [] (c.opened session).guarded := by
  have hends : Span.Ends (Scenario.World.openingSpan session (!c.asynchronous) c)
      { guarded := .fresh c.setupIsolation } fun _ t => t.guarded.queued = [] := by
    rw [ha]
    exact Span.ends_bind_update (Span.ends_pure ((Guarded.queued_of_session rfl).trans hnew))
  obtain ⟨t, ht, -, hqueued, -⟩ := Span.run_of_ends_queued hends
  have hempty : (c.opened session).guarded.queued = [] := hqueued.trans ht
  refine ⟨?_, fun owner howner => ?_⟩
  · rw [hempty]
    exact Nat.zero_le _
  · exact nomatch howner.symm.trans (c.owner?_opened session)

namespace Scenario.Ledger

open World

variable {κ σ : Type} {L L' : Ledger κ σ}

theorem mem_completions {completion : Completion} (h : completion ∈ L.completions) :
    ∃ key, ∃ p ∈ L.performances key, p.outcome.completion = some completion := by
  obtain ⟨entry, hentry, hcompletion⟩ := List.mem_filterMap.1 h
  cases entry with
  | performed key p => exact ⟨key, p, List.mem_filterMap.2 ⟨_, hentry, if_pos rfl⟩, hcompletion⟩
  | executed cursor key p => exact ⟨key, p, List.mem_filterMap.2 ⟨_, hentry, if_pos rfl⟩, hcompletion⟩
  | restored _ | delivered _ _ => exact nomatch hcompletion

variable [WireSession σ] [Connector κ σ]

/-- On a connection that could not be opened no operation brings an outcome. -/
theorem Turn.opened_of_completion (h : Turn L L') (hL : L.Faithful)
    (hbefore : ∀ key, ∀ p ∈ L.performances key, p.outcome.completion.isSome → L.world.Opened key)
    {key : Nat} {p : Performance σ} (hp : p ∈ L'.performances key)
    (hcompletion : p.outcome.completion.isSome) : L'.world.Opened key := by
  rcases h.cases with ⟨dsn, asynchronous, settings, hooked, hworld, hhistory⟩ |
    ⟨w, k, hooked, op, c, halike, hc, hworld, hperformances⟩ | ⟨halike, hperformances⟩
  · have hp : p ∈ L.performances key := by rwa [performances, ← hhistory]
    have hkey : key ≠ L.world.connections.length := by
      rintro rfl
      rw [hL.performances_eq_nil _ (Nat.le_refl _)] at hp
      exact absurd hp List.not_mem_nil
    rw [hworld]
    exact (alikeAt_opening hkey dsn asynchronous settings hooked).2.2 (hbefore key p hp hcompletion)
  · rw [hworld, opened_operating_iff, halike.opened_iff]
    rw [hperformances] at hp
    rcases List.mem_append.1 hp with hp | hp
    · exact hbefore key p hp hcompletion
    · -- Without a session nothing is in flight, so the operation just performed brought nothing.
      rw [Option.mem_toList, Option.ite_none_right_eq_some] at hp
      obtain ⟨rfl, hsame⟩ := hp
      cases Option.some.inj hsame
      obtain ⟨c₀, mailbox, hc₀, rfl⟩ := halike.connection_of hc
      refine Decidable.byContradiction fun hno => ?_
      obtain ⟨hsession, hflight⟩ := hL.unopened k c₀ hc₀ hno
      have hnone := (Connection.hollow_perform (c := { c₀ with mailbox }) hsession hflight op).2.2
      exact absurd hcompletion (Option.not_isSome_iff_eq_none.2 hnone)
  · rw [hperformances] at hp
    exact (halike.opened_iff key).2 (hbefore key p hp hcompletion)

theorem Reached.opened_of_completion (h : Ledger.Reached L L') (hL : L.Faithful)
    (hbefore : ∀ key, ∀ p ∈ L.performances key, p.outcome.completion.isSome → L.world.Opened key)
    (key : Nat) (p : Performance σ) (hp : p ∈ L'.performances key)
    (hcompletion : p.outcome.completion.isSome) : L'.world.Opened key := by
  induction h generalizing key p with
  | refl => exact hbefore key p hp hcompletion
  | tail hreached hturn ih =>
    exact hturn.opened_of_completion (Reached.faithful hreached hL) ih hp hcompletion

variable [StatementQueue σ]

/-- The outcome that an operation has brought is of the statement that its owner submitted. -/
theorem Told.answers {key : Nat} {c : Connection σ} (h : L.Told key c)
    (hnew : ∀ (dsn : String) (connector connector' : κ) (session : σ),
      Connector.connect false dsn connector = (.ok session, connector') → pending session = [])
    {before after : List (Performance σ)} {p : Performance σ}
    (hps : L.performances key = before ++ p :: after) (hstrands : ∀ q ∈ before, q.strands = false)
    {completion : Completion} (hcompletion : p.outcome.completion = some completion) :
    Answers before completion := by
  obtain ⟨connector, connector', dsn, session, hconnect, hsettled, hcareer, -⟩ := h
  obtain ⟨g, op, hbefore, rfl⟩ := hcareer.split hps
  have hg : (c.withGuarded g).guarded.Settled (c.withGuarded g).asynchronous := hbefore.settled hsettled
  have howner := Connection.owner?_of_completion hg hcompletion
  have ha : c.asynchronous = true := (Connection.ready_of_owner? hg howner).1
  rw [ha] at hconnect
  have hwaits : Waits before g :=
    hbefore.waits hsettled ha (Connection.waits_opened ha (hnew _ _ _ _ hconnect)) hstrands
  exact Connection.answers_of_completion (c := c.withGuarded g) hwaits hg hcompletion

/-- Results reach the owner of the statement that they are of, as long as no statement is stranded.

Sessions queue statements, and new ones have nothing in their queues. In every ledger that can be
reached, the outcomes that were handed over, each to its owner or to nobody, were brought by operations
on connections; and if none of the operations on the connection before that had failed and left a
statement behind, the outcome is that of the statement accepted last, which was submitted for its
owner: the transport failed, or it is made of results of this statement alone. -/
theorem results_reach_own_owner (connector : κ) (hook : Nat → Nat)
    (hnew : ∀ (dsn : String) (connector connector' : κ) (session : σ),
      Connector.connect false dsn connector = (.ok session, connector') → pending session = [])
    {L : Ledger κ σ} (hL : Ledger.Reached (.start connector hook) L) :
    (∀ delivery ∈ L.delivered,
      (delivery.2 = delivery.1.owner ∨ delivery.2 = .departed) ∧
        ∃ key, ∃ p ∈ L.performances key, p.outcome.completion = some delivery.1) ∧
    ∀ (key : Nat) (before after : List (Performance σ)) (p : Performance σ) (completion : Completion),
      L.performances key = before ++ p :: after → p.outcome.completion = some completion →
        (∀ q ∈ before, q.strands = false) → Answers before completion := by
  have hfaithful := hL.faithful (.start connector hook)
  refine ⟨fun delivery hdelivery => ⟨?_, ?_⟩, ?_⟩
  · exact (hL.shown ⟨nofun, rfl, nofun⟩).recipient delivery hdelivery
  · have hbalanced := hL.balanced (List.Perm.refl [])
    refine mem_completions (hbalanced.mem_iff.2 (List.mem_append_left _ ?_))
    exact List.mem_map_of_mem hdelivery
  · intro key before after p completion hps hcompletion hstrands
    have hopened : L.world.Opened key := by
      refine hL.opened_of_completion (.start connector hook) (fun _ _ h => nomatch h) key p ?_ ?_
      · rw [hps]
        exact List.mem_append_right _ List.mem_cons_self
      · exact Option.isSome_of_eq_some hcompletion
    have hlt := hfaithful.sound.lt_of_opened key hopened
    have htold := hfaithful.told key _ (List.getElem?_eq_getElem hlt) hopened
    exact htold.answers hnew hps hstrands hcompletion

/-- Two cursors get the results of their own statements. -/
theorem results_reach_own_owner_two_cursors :
    let connector : Script := { answers := [("SELECT 1", .single "1"), ("SELECT 2", .single "2"),
      ("SHOW DATESTYLE", .single "ISO"), ("SHOW client_encoding", .single "UTF8")] }
    let start : Ledger Script ScriptedSession := .start connector fun _ => 1
    let ready := (List.replicate 7 .poll).foldl (performOn · 0) (start.openNext true)
    let made := (ready.makeCursorOn 0 "a").makeCursorOn 0 "b"
    let first := ((made.executeOn 0 "SELECT 1").performOn 0 .poll).deliverNext
    let second := ((first.executeOn 1 "SELECT 2").performOn 0 .poll).deliverNext
    Reached start second ∧ (second.performances 0).all (!·.strands) ∧
      ∃ delivery ∈ second.delivered, delivery.2 = .cursor 1 ∧
        delivery.1.outcome.toOption = some [.single "2"] ∧
        ∃ before p after, second.performances 0 = before ++ p :: after ∧
          p.outcome.completion = some delivery.1 ∧ Answers before delivery.1 := by
  intro connector start ready made first second
  have hready : Reached start ready :=
    (reached_openNext start true).trans (reached_foldl_performOn _ 0 _)
  have hmade : Reached ready made :=
    (reached_makeCursorOn ready 0 "a").trans (reached_makeCursorOn _ 0 "b")
  have hround : ∀ (L : Ledger Script ScriptedSession) (cursor : Nat) (sql : String),
      Reached L ((L.executeOn cursor sql).performOn 0 .poll).deliverNext := fun L cursor sql =>
    ((reached_executeOn L cursor sql).trans (reached_performOn _ 0 .poll)).trans (reached_deliverNext _)
  have hreached : Reached start second :=
    ((hready.trans hmade).trans (hround made 0 "SELECT 1")).trans (hround first 1 "SELECT 2")
  have hstranded : (second.performances 0).all (!·.strands) = true := by decide +kernel
  have hdelivered : second.delivered.map (fun delivery => (delivery.2, delivery.1.outcome.toOption)) =
      [(.cursor 0, some [.single "1"]), (.cursor 1, some [.single "2"])] := by
    decide +kernel
  have hnew : ∀ (dsn : String) (connector connector' : Script) (session : ScriptedSession),
      Connector.connect false dsn connector = (.ok session, connector') → pending session = [] := by
    intro dsn connector connector' session hconnect
    obtain ⟨hsession, -⟩ := Prod.mk.inj hconnect
    split at hsession
    · exact nomatch hsession
    · rw [← Except.ok.inj hsession]
      rfl
  obtain ⟨hbrought, hanswers⟩ := results_reach_own_owner connector _ hnew hreached
  have hlast : (QueryOwner.cursor 1, some [QueryResult.single "2"]) ∈
      second.delivered.map fun delivery => (delivery.2, delivery.1.outcome.toOption) := by
    rw [hdelivered]
    exact List.mem_cons_of_mem _ List.mem_cons_self
  obtain ⟨delivery, hmem, htold⟩ := List.mem_map.1 hlast
  obtain ⟨hrecipient, houtcome⟩ := Prod.mk.inj htold
  obtain ⟨-, key, p, hp, hcompletion⟩ := hbrought delivery hmem
  have hkey : key = 0 := by
    have hone : second.world.connections.length = 1 := by decide +kernel
    have hfaithful := hreached.faithful (.start connector _)
    refine Decidable.byContradiction fun hne => ?_
    rw [hfaithful.performances_eq_nil key (by omega)] at hp
    exact nomatch hp
  subst hkey
  obtain ⟨before, after, hps⟩ := List.append_of_mem hp
  refine ⟨hreached, hstranded, delivery, hmem, hrecipient, houtcome, before, p, after, hps,
    hcompletion, hanswers 0 before after p _ hps hcompletion fun q hq => ?_⟩
  have hkept := List.all_eq_true.1 hstranded q (hps ▸ List.mem_append_left _ hq)
  rwa [Bool.not_eq_true'] at hkept

end Scenario.Ledger

end SessionLayer
