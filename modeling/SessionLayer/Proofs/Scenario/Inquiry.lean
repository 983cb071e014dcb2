import Mathlib.Logic.Function.Iterate
import SessionLayer.Proofs.Connection.Asking
import SessionLayer.Proofs.Scenario.Lifetime
import SessionLayer.Wire.Script

/-!
# The questions of the setup in a scenario

What operations preserve of the status of an asynchronous connection and of the inquiries of its session
holds of every asynchronous connection of a scenario, since a connection is opened with the setup ahead of
it and nothing asked. Two such properties are used: that the status tells the inquiries, which holds at
all times, and that the setup is still underway, which holds as long as the connection was never ready.
-/

set_option autoImplicit false

namespace SessionLayer

variable {κ σ : Type} [WireSession σ]

/-- An asynchronous connection is opened with the setup ahead of it, and nothing is inquired. -/
theorem Connection.inquiries_opened {c : Connection σ} (ha : c.asynchronous = true) (session : σ) :
    (c.opened session).guarded.status = .setup ∧ inquiries (c.opened session).exchanges = [] := by
  rw [opened_eq, ha]
  apply Span.inquiries_run_of_ends (Q := fun _ status xs => status = .setup ∧ xs = [])
  exact Span.ends_pure ⟨rfl, rfl⟩

namespace Scenario.World

variable {w w' : World κ σ} {key : Nat}

/-- A property of the status and the inquiries so far, of a connection that is asynchronous. -/
def Shows (key : Nat) (P : Status → List Exchange → Prop) (w : World κ σ) : Prop :=
  ∀ c : Connection σ, w.connections[key]? = some c → w.Opened key → c.asynchronous = true →
    P c.guarded.status (inquiries (w.exchanges key))

variable [Connector κ σ]

/-- A move preserves what holds at first and what operations preserve. -/
theorem Move.shows {P : Status → List Exchange → Prop} (hmove : Move w w') (hsound : w.Sound)
    (hlifetimes : w.Lifetimes) (hstart : P .setup [])
    (hstep : ∀ {op : Operation} {c' : Connection σ} {s : Status} {xs ys : List Exchange},
      w'.connections[key]? = some c' → P s xs → op.Inquires s c'.guarded.status ys →
      P c'.guarded.status (xs ++ ys))
    (h : w.Shows key P) : w'.Shows key P := by
  intro c' hc' hopened' ha
  cases hmove.fate key with
  | kept mailbox connection exchanges opened =>
    rw [connection, Option.map_eq_some_iff] at hc'
    obtain ⟨c, hc, rfl⟩ := hc'
    rw [exchanges]
    exact h c hc (opened.1 hopened') ha
  | performed c op before after exchanges opened =>
    cases after.symm.trans hc'
    have hopened := opened.1 hopened'
    have hinquires := Connection.inquires_perform (hsound.settled key c before hopened) ha op
    rw [exchanges, inquiries_append]
    exact hstep after (h c before hopened ha) hinquires
  | opened c dsn asynchronous hooked settings session new created after exchanges _ =>
    cases after.symm.trans hc'
    have hbefore := (hlifetimes.none key (List.getElem?_eq_none (Nat.le_of_eq new.symm))).2
    have hasynchronous : c.asynchronous = true := ha
    obtain ⟨hstatus, hquiet⟩ := Connection.inquiries_opened hasynchronous session
    rw [exchanges, hbefore, List.nil_append, hquiet]
    show P (c.opened session).guarded.status []
    rwa [hstatus]
  | unopened c dsn asynchronous hooked settings new created after exchanges opened =>
    have hnone := hlifetimes.none key (List.getElem?_eq_none (Nat.le_of_eq new.symm))
    exact absurd (opened.1 hopened') hnone.1

/-- The status of every asynchronous connection tells its inquiries so far. -/
theorem Reached.tells {connector : κ} {hook : Nat → Nat}
    (h : Reached ({ connector, hook } : World κ σ) w) (key : Nat) : w.Shows key Status.Tells := by
  have hall : w.Sound ∧ w.Lifetimes ∧ w.Shows key Status.Tells := by
    refine Reached.preserves
      (P := fun w => w.Sound ∧ w.Lifetimes ∧ w.Shows key Status.Tells) ?_ h
      ⟨sound_start connector hook, lifetimes_start connector hook, fun c hc => nomatch hc⟩
    rintro w w' ⟨hsound, hlifetimes, hshows⟩ hmove
    refine ⟨hmove.sound hsound, hmove.lifetimes hlifetimes, ?_⟩
    exact hmove.shows hsound hlifetimes (Or.inl rfl) (fun _ => Status.Tells.inquires) hshows
  exact hall.2.2

/-- A run throughout which a connection is not ready. -/
def Unready (key : Nat) : World κ σ → World κ σ → Prop :=
  Relation.ReflTransGen fun w w' =>
    Move w w' ∧ ∀ c, w'.connections[key]? = some c → c.guarded.status ≠ .ready

theorem Unready.reached (h : Unready key w w') : Reached w w' :=
  Relation.ReflTransGen.mono (fun _ _ hmove => hmove.1) _ _ h

/-- As long as it was never ready, the setup of an asynchronous connection is underway. -/
theorem Unready.underway {connector : κ} {hook : Nat → Nat}
    (h : Unready key ({ connector, hook } : World κ σ) w) : w.Shows key Status.Underway := by
  induction h with
  | refl => exact fun c hc => nomatch hc
  | tail hbefore hlast ih =>
    obtain ⟨hmove, hunready⟩ := hlast
    have hreached := Unready.reached hbefore
    refine hmove.shows (hreached.preserves (fun _ _ => Move.sound) (sound_start connector hook))
      hreached.lifetimes rfl ?_ ih
    intro op c' s xs ys hc' hunderway hop
    exact (hunderway.inquires hop).resolve_right fun hready => hunready c' hc' hready.1

/-- What an operation on an asynchronous connection submits comes after what was submitted before. -/
theorem asks_operating {connector : κ} {hook : Nat → Nat}
    (hreached : Reached ({ connector, hook } : World κ σ) w) {c : Connection σ}
    (hc : w.connections[key]? = some c) (hopened : w.Opened key) (ha : c.asynchronous = true)
    (hooked : Bool) (op : Operation) :
    ∃ asked, submissions ((w.operating key hooked op).exchanges key) =
        submissions (w.exchanges key) ++ asked ∧
      op.Submits c.guarded.status (submissions (w.exchanges key)) asked := by
  have hsound := hreached.preserves (fun _ _ => Move.sound) (sound_start connector hook)
  have hinquires := Connection.inquires_perform (hsound.settled key c hc hopened) ha op
  have hsubmits := (hreached.tells key c hc hopened ha).submits hinquires
  rw [submissions_inquiries, submissions_inquiries] at hsubmits
  refine ⟨submissions (c.perform op).exchanges, ?_, hsubmits⟩
  rw [exchanges_operating_self hc, submissions_append]

/-- In every scenario, whatever the session answers, and in every state of an asynchronous connection:
* as long as the connection was never ready, the statements that were submitted are the first ones of the
  two questions of the setup, in this order and each of them once;
* the second question is submitted after all results of the first one were fetched, with a last one that
  holds a date style that can be read, and nothing else was inquired meanwhile, unless the connection was
  ready already and callers have asked for more;
* the session is neither started anew nor made to run a statement while the connection waits;
* once its session was made, a poll submits a question exactly if it is the turn of that question, which
  is never one that was submitted before; another operation submits a statement only for a caller, on a
  connection that was set up, and both questions have been submitted by then. -/
theorem setup_questions_in_order (connector : κ) (hook : Nat → Nat) (key : Nat) :
    let start : World κ σ := { connector, hook }
    ∀ w : World κ σ, Reached start w → ∀ c : Connection σ, w.connections[key]? = some c →
      c.asynchronous = true →
        (Unready key start w →
          submissions (w.exchanges key) <+: ["SHOW DATESTYLE", "SHOW client_encoding"]) ∧
        (∀ before answer after,
          w.exchanges key = before ++ { call := .send "SHOW client_encoding", answer } :: after →
          ∃ results later,
            inquiries before = SetupQuery.dateStyle.answered results ++ later ∧
            TellsDateStyle results ∧ (Unready key start w → later = [])) ∧
        (∀ x ∈ w.exchanges key, x.call ≠ .reset ∧ ∀ sql, x.call ≠ .exec sql) ∧
        (w.Opened key →
          (∀ hooked op, ∃ asked,
            submissions ((w.operating key hooked op).exchanges key) =
              submissions (w.exchanges key) ++ asked ∧
            op.Submits c.guarded.status (submissions (w.exchanges key)) asked) ∧
          (c.guarded.status.isUsable →
            ["SHOW DATESTYLE", "SHOW client_encoding"] <+: submissions (w.exchanges key))) := by
  intro start w hreached c hc ha
  by_cases hopened : w.Opened key
  · have htells := hreached.tells key c hc hopened ha
    have hunderway : Unready key start w → SetupTalk (inquiries (w.exchanges key)) := fun hunready =>
      .of_underway (hunready.underway c hc hopened ha)
    refine ⟨fun hunready => ?_, fun before answer after hsplit => ?_, fun _ => htells.call_ne, fun _ =>
      ⟨asks_operating hreached hc hopened ha, fun husable => ?_⟩⟩
    · rw [← submissions_inquiries]
      exact (hunderway hunready).prefix_submissions
    · have hinquiries := (congrArg inquiries hsplit).trans
        (SetupQuery.clientEncoding.inquiries_split before after answer)
      by_cases hunready : Unready key start w
      · obtain ⟨results, hbefore, hdateStyle⟩ := (hunderway hunready).split hinquiries
        exact ⟨results, [], hbefore.trans (List.append_nil _).symm, hdateStyle, fun _ => rfl⟩
      · obtain ⟨results, later, hbefore, hdateStyle⟩ := htells.split hinquiries
        exact ⟨results, later, hbefore, hdateStyle, fun h => absurd h hunready⟩
    · rw [← submissions_inquiries]
      exact htells.prefix_submissions husable
  · rw [hreached.lifetimes.exchanges_of_not_opened hopened]
    refine ⟨fun _ => List.nil_prefix, fun before answer after hsplit => ?_, fun x hx => ?_,
      fun h => absurd h hopened⟩
    · exact absurd hsplit.symm (List.append_ne_nil_of_right_ne_nil _ (List.cons_ne_nil _ _))
    · exact absurd hx List.not_mem_nil

/-- On a slow server the second question is submitted by the seventh poll, and the eighth one writes the
rest of it. -/
theorem setup_questions_in_order_pending :
    let start : World Script ScriptedSession :=
      { connector := { pendingFlushes := 1, busyRounds := 1 }, hook := fun _ => 1 }
    let opened := (start.opening "" true .standard false).2
    let w := (operating 0 false .poll)^[8] opened
    Reached start w ∧ Unready 0 start w ∧ w.Opened 0 ∧
      (∃ c, w.connections[0]? = some c ∧ c.asynchronous = true ∧
        c.guarded.status = .awaiting .clientEncoding) ∧
      submissions (w.exchanges 0) = ["SHOW DATESTYLE", "SHOW client_encoding"] ∧
      ∃ before answer after results,
        w.exchanges 0 = before ++ { call := .send "SHOW client_encoding", answer } :: after ∧
        inquiries before = SetupQuery.dateStyle.answered results ∧ TellsDateStyle results := by
  intro start opened w
  have hstatuses : ∀ n ≤ 8, ∀ s ∈ ((operating 0 false .poll)^[n] opened).connections.map
      (·.guarded.status), s ≠ .ready := by decide +kernel
  have hnever : ∀ n ≤ 8, ∀ c, ((operating 0 false .poll)^[n] opened).connections[0]? = some c →
      c.guarded.status ≠ .ready := fun n hn c hc =>
    hstatuses n hn _ (List.mem_map_of_mem (List.mem_of_getElem? hc))
  have hpolled : ∀ n ≤ 8, Unready 0 start ((operating 0 false .poll)^[n] opened) := by
    intro n hn
    induction n with
    | zero => exact .single ⟨.opening "" true .standard false, hnever 0 hn⟩
    | succ n ih =>
      have hlast := hnever (n + 1) hn
      rw [Function.iterate_succ_apply'] at hlast ⊢
      exact .tail (ih (Nat.le_of_succ_le hn)) ⟨.operating 0 false .poll, hlast⟩
  have hunready : Unready 0 start w := hpolled 8 (Nat.le_refl 8)
  have hopened : w.Opened 0 := by decide +kernel
  have hstate : w.connections.map (fun c => (c.asynchronous, c.guarded.status)) =
      [(true, .awaiting .clientEncoding)] := by decide +kernel
  obtain ⟨c, hc, hfacts⟩ := exists_connection_of_map hstate
  rw [Prod.mk.injEq] at hfacts
  have hsubmitted : submissions (w.exchanges 0) = ["SHOW DATESTYLE", "SHOW client_encoding"] := by
    decide +kernel
  obtain ⟨answer, hmem⟩ : ∃ answer, { call := .send "SHOW client_encoding", answer } ∈ w.exchanges 0 := by
    rw [← mem_submissions, hsubmitted]
    exact List.mem_cons_of_mem _ List.mem_cons_self
  obtain ⟨before, after, hsplit⟩ := List.append_of_mem hmem
  obtain ⟨-, hordered, -⟩ := setup_questions_in_order start.connector start.hook 0 w
    hunready.reached c hc hfacts.1
  obtain ⟨results, later, hbefore, hdateStyle, hlater⟩ := hordered before answer after hsplit
  rw [hlater hunready, List.append_nil] at hbefore
  exact ⟨hunready.reached, hunready, hopened, ⟨c, hc, hfacts⟩, hsubmitted, before, answer, after, results,
    hsplit, hbefore, hdateStyle⟩

end Scenario.World

end SessionLayer
