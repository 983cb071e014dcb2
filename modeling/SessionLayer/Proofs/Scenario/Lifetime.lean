import SessionLayer.Proofs.Scenario.Diagram
import SessionLayer.Proofs.Span.Talk

/-!
# The lifetime of a session

`World.Lifetime` tells of one connection what the trace tells of its session: it was made and not ended
so far, it was ended by the last of the calls on it, or it was never made and never called. Every move
preserves this, so it holds of every connection of a scenario at all times.
-/

set_option autoImplicit false

namespace SessionLayer

variable {σ : Type} [WireSession σ]

namespace Connection

/-- A connection is opened by the span that follows once its session is there. -/
theorem opened_eq (c : Connection σ) (session : σ) :
    c.opened session =
      (if !c.asynchronous then Span.establish c.setupIsolation else pure () : Span σ Unit).run
        ((Guarded.fresh c.setupIsolation).on session) := by
  unfold opened Scenario.World.openingSpan Span.run
  rw [Span.exec_bind_ok (Span.exec_update _ _)]
  rfl

theorem accounted_opened (c : Connection σ) (session : σ) :
    (c.opened session).Accounted ((Guarded.fresh c.setupIsolation).on session) := by
  rw [opened_eq]
  apply Span.accounted_of_talking
  split
  · exact .establish (fun _ h => h) _
  · exact .pure ()

end Connection

namespace Scenario.World

open SessionLayer.Span

variable {κ : Type} {w w' : World κ σ} {key : Nat} {c : Connection σ}

/-- What became of the session of a connection so far. -/
inductive Lifetime (w : World κ σ) (key : Nat) (c : Connection σ) : Prop
  /-- It is still there, and it was not ended. -/
  | present
    (opened : w.Opened key)
    (session : c.guarded.session.isSome)
    (exchanges : finishes (w.exchanges key) = 0)
  /-- It was ended, right after its messages were taken over, and that was the last call. -/
  | ended (xs : List Exchange) (last : σ)
    (opened : w.Opened key)
    (session : c.guarded.session = none)
    (before : finishes xs = 0)
    (exchanges : w.exchanges key = xs ++ Runs.farewell last)
  /-- There was none, and nothing was said to it. -/
  | absent
    (opened : ¬w.Opened key)
    (session : c.guarded.session = none)
    (exchanges : w.exchanges key = [])

namespace Lifetime

/-- Nothing but the mailbox of the connection may have changed. -/
theorem of_kept (h : Lifetime w key c) (mailbox : Mailbox Nat)
    (hexchanges : w'.exchanges key = w.exchanges key) (hopened : w'.Opened key ↔ w.Opened key) :
    Lifetime w' key { c with mailbox } := by
  cases h with
  | present opened session exchanges =>
    exact .present (hopened.2 opened) session (by rw [hexchanges, exchanges])
  | ended xs last opened session before exchanges =>
    exact .ended xs last (hopened.2 opened) session before (by rw [hexchanges, exchanges])
  | absent opened session exchanges =>
    exact .absent (fun h => opened (hopened.1 h)) session (by rw [hexchanges, exchanges])

/-- The span of a connection with a session keeps the session, or it ends it. -/
theorem of_accounted {α : Type} {g : Guarded σ} {o : SpanOutcome σ α} (ho : o.Accounted g)
    (hg : g.session.isSome) (hopened : w'.Opened key) {before : List Exchange}
    (hbefore : finishes before = 0) (hexchanges : w'.exchanges key = before ++ o.exchanges) :
    Lifetime w' key { c with guarded := o.guarded } := by
  cases hsession : o.guarded.session with
  | some session =>
    have hsome : o.guarded.session.isSome := by simp [hsession]
    refine .present hopened hsome ?_
    rw [hexchanges, finishes_append, hbefore, ho.lasting hsome]
  | none =>
    obtain ⟨xs, last, hordinary, hxs⟩ := ho.ended hg hsession
    refine .ended (before ++ xs) last hopened hsession ?_ ?_
    · rw [finishes_append, hbefore, finishes_of_ordinary hordinary]
    · rw [hexchanges, hxs, List.append_assoc]

/-- Without a session nothing is said, whatever is asked of the connection. -/
theorem of_silent {op : Operation} (h : Lifetime w key c) (hsession : c.guarded.session = none)
    (hexchanges : w'.exchanges key = w.exchanges key ++ (c.perform op).exchanges)
    (hopened : w'.Opened key ↔ w.Opened key) :
    Lifetime w' key { c with guarded := (c.perform op).guarded } := by
  obtain ⟨hsilent, hnone⟩ := (c.accounted_perform op).silent hsession
  rw [hsilent, List.append_nil] at hexchanges
  cases h with
  | present opened session exchanges => simp [hsession] at session
  | ended xs last opened session before exchanges =>
    exact .ended xs last (hopened.2 opened) hnone before (by rw [hexchanges, exchanges])
  | absent opened session exchanges =>
    exact .absent (fun h => opened (hopened.1 h)) hnone (by rw [hexchanges, exchanges])

theorem performed {op : Operation} (h : Lifetime w key c)
    (hexchanges : w'.exchanges key = w.exchanges key ++ (c.perform op).exchanges)
    (hopened : w'.Opened key ↔ w.Opened key) :
    Lifetime w' key { c with guarded := (c.perform op).guarded } := by
  cases hsession : c.guarded.session with
  | none => exact h.of_silent hsession hexchanges hopened
  | some session =>
    have hsome : c.guarded.session.isSome := by simp [hsession]
    cases h with
    | present opened _ exchanges =>
      exact of_accounted (c.accounted_perform op) hsome (hopened.2 opened) exchanges hexchanges
    | ended _ _ _ gone _ _ => simp [gone] at hsession
    | absent _ gone _ => simp [gone] at hsession

end Lifetime

/-- The trace tells of the session of every connection what became of it, and of no other sessions. -/
structure Lifetimes (w : World κ σ) : Prop where
  lifetime : ∀ (key : Nat) (c : Connection σ), w.connections[key]? = some c → Lifetime w key c
  none : ∀ key, w.connections[key]? = none → ¬w.Opened key ∧ w.exchanges key = []

/-- Nothing is ever said to a session that was not made. -/
theorem Lifetimes.exchanges_of_not_opened (hw : w.Lifetimes) (h : ¬w.Opened key) :
    w.exchanges key = [] := by
  cases hc : w.connections[key]? with
  | none => exact (hw.none key hc).2
  | some c =>
    cases hw.lifetime key c hc with
    | present opened _ _ => exact absurd opened h
    | ended _ _ opened _ _ _ => exact absurd opened h
    | absent _ _ exchanges => exact exchanges

variable [Connector κ σ]

theorem Move.lifetimes (hw : w.Lifetimes) (hmove : Move w w') : w'.Lifetimes where
  lifetime := by
    intro key c' hc'
    cases hmove.fate key with
    | kept mailbox connection exchanges opened =>
      rw [connection, Option.map_eq_some_iff] at hc'
      obtain ⟨c, hc, rfl⟩ := hc'
      exact (hw.lifetime key c hc).of_kept mailbox exchanges opened
    | performed c op before after exchanges opened =>
      cases after.symm.trans hc'
      exact (hw.lifetime key c before).performed exchanges opened
    | opened c dsn asynchronous hooked settings session new created after exchanges opened =>
      cases after.symm.trans hc'
      have hbefore := (hw.none key (List.getElem?_eq_none (Nat.le_of_eq new.symm))).2
      exact .of_accounted (c.accounted_opened session) rfl opened (by rw [hbefore]; rfl) exchanges
    | unopened c dsn asynchronous hooked settings new created after exchanges opened =>
      cases after.symm.trans hc'
      obtain ⟨hopened, hbefore⟩ := hw.none key (List.getElem?_eq_none (Nat.le_of_eq new.symm))
      subst created
      exact .absent (fun h => hopened (opened.1 h)) rfl (exchanges.trans hbefore)
  none := by
    intro key hnone
    cases hmove.fate key with
    | kept mailbox connection exchanges opened =>
      rw [connection, Option.map_eq_none_iff] at hnone
      obtain ⟨hopened, hbefore⟩ := hw.none key hnone
      exact ⟨fun h => hopened (opened.1 h), exchanges.trans hbefore⟩
    | performed _ _ _ after _ _ => exact nomatch after.symm.trans hnone
    | opened _ _ _ _ _ _ _ _ after _ _ => exact nomatch after.symm.trans hnone
    | unopened _ _ _ _ _ _ _ after _ _ => exact nomatch after.symm.trans hnone

omit [Connector κ σ] in
theorem lifetimes_start (connector : κ) (hook : Nat → Nat) :
    ({ connector, hook } : World κ σ).Lifetimes where
  lifetime := fun _ _ hc => nomatch hc
  none := fun _ _ => ⟨fun ⟨_, _, hmem⟩ => (nomatch hmem), rfl⟩

theorem Reached.lifetimes {connector : κ} {hook : Nat → Nat}
    (h : Reached ({ connector, hook } : World κ σ) w) : w.Lifetimes :=
  h.preserves (fun _ _ => Move.lifetimes) (lifetimes_start connector hook)

end Scenario.World

end SessionLayer
