import SessionLayer.Proofs.Connection.Executing
import SessionLayer.Proofs.Scenario.CursorHistory
import SessionLayer.Proofs.Scenario.Operations
import SessionLayer.Wire.Script

/-!
# Polls in a scenario and whether anything is under way

Unless a listener calls back into the connection before a poll returns, the caller finds the connection as
the span of the poll has left it: what the poll has answered agrees with what the connection tells about
itself right afterwards.
-/

set_option autoImplicit false

namespace SessionLayer.Scenario.World

variable {κ σ : Type} {w : World κ σ} {react : Reactor κ σ} {key : Nat} {op : Operation}
  [WireSession σ]

/-- Nobody calls back into the connection once the guard of the operation is released: what comes before
the operation returns leaves the connection as the span has left it, but for its mailbox, and makes no call
on its session. -/
def Undisturbed (react : Reactor κ σ) (key : Nat) (op : Operation) (w : World κ σ) : Prop :=
  AlikeAt key (w.operating key (w.usesHook key op) op) ((perform react key op).run w).2

/-- A connection that listeners spare is not disturbed. -/
theorem Spares.undisturbed (hreact : Spares react key) (op : Operation) (w : World κ σ) :
    Undisturbed react key op w := by
  unfold Undisturbed
  rw [perform_run_usesHook]
  have hconcluded := keeps_conclude hreact key
    (detached key (w.usesHook key op) (runSpan key (·.span op)) w).1
    (w.operating key (w.usesHook key op) op)
  dsimp only
  split
  · exact hconcluded.trans (.of_alike (.modifyConnection _ key fun c => ⟨_, rfl⟩) key)
  · exact hconcluded

/-- An operation that is not disturbed leaves the connection as its span does. -/
theorem Undisturbed.connection (h : Undisturbed react key op w) {c : Connection σ}
    (hc : w.connections[key]? = some c) :
    ∃ mailbox, ((perform react key op).run w).2.connections[key]? =
      some { c with guarded := (c.perform op).guarded, mailbox } :=
  AlikeAt.connection h _ (connection_operating_self hc _ op)

variable [Connector κ σ]

/-- In every state of a connection whose session was made, whatever the session answers, and unless a
listener calls back into the connection meanwhile: after a poll of an asynchronous connection something is
under way exactly if the poll has answered what to wait for, and after one that fails nothing is, or the
connection is closed. A poll of a blocking connection never answers that there is something to wait for,
and leaves the status, the isolation level and the information on the session as they were. Listeners that
spare the connection do not disturb the poll. -/
theorem poll_agrees_with_isExecuting (connector : κ) (hook : Nat → Nat) :
    (∀ w : World κ σ, Reached { connector, hook } w → ∀ (key : Nat) (c : Connection σ),
      w.connections[key]? = some c → w.Opened key →
        ∀ react : Reactor κ σ, Undisturbed react key .poll w →
          let polled := (perform react key .poll).run w
          let executing := ((perform react key .isExecuting).run polled.2).1
          ∃ c', polled.2.connections[key]? = some c' ∧
            (c.asynchronous = true →
              (polled.1 = .ok .complete → executing = .ok false) ∧
              (polled.1 = .ok .needRead ∨ polled.1 = .ok .needWrite → executing = .ok true) ∧
              ∀ fault, polled.1 = .error fault →
                c'.guarded.status = .closed ∨ executing = .ok false) ∧
            (c.asynchronous = false →
              polled.1 ≠ .ok .needRead ∧ polled.1 ≠ .ok .needWrite ∧
              c'.guarded.metadata = c.guarded.metadata)) ∧
    ∀ (react : Reactor κ σ) (key : Nat), Spares react key →
      ∀ (op : Operation) (w : World κ σ), Undisturbed react key op w := by
  refine ⟨fun w hreached key c hc hopened react hreact => ?_, fun _ _ => Spares.undisturbed⟩
  have hsound := hreached.preserves (fun _ _ => Move.sound) (sound_start connector hook)
  have hsettled := hsound.settled key c hc hopened
  obtain ⟨mailbox, hc'⟩ := hreact.connection hc
  intro polled executing
  have hpolled : polled.1 = (c.perform .poll).result := fst_perform react hc .poll
  have hexecuting : (c.perform .poll).guarded.status ≠ .closed →
      executing = .ok (c.asynchronous && (c.perform .poll).guarded.underway) := by
    intro hopen
    exact (fst_perform react hc' .isExecuting).trans (Connection.atOnce_isExecuting hopen).result
  have hconfirms := Connection.confirms_perform hsettled
  rw [← hpolled] at hconfirms
  refine ⟨_, hc', fun ha => ⟨fun hcomplete => ?_, fun hwaits => ?_, fun fault hfault => ?_⟩,
    fun ha => ?_⟩
  · rw [hcomplete] at hconfirms
    rw [hexecuting hconfirms.1, ha, hconfirms.2]
    rfl
  · have hunderway : (c.perform .poll).guarded.status ≠ .closed ∧
        (c.perform .poll).guarded.underway = true := by
      rcases hwaits with hwaits | hwaits <;> rw [hwaits] at hconfirms <;> exact hconfirms
    rw [hexecuting hunderway.1, ha, hunderway.2]
    rfl
  · rw [hfault] at hconfirms
    by_cases hclosed : (c.perform .poll).guarded.status = .closed
    · exact Or.inl hclosed
    · refine Or.inr ?_
      rw [hexecuting hclosed, hconfirms.resolve_left hclosed, Bool.and_false]
  · rw [hpolled]
    exact Connection.perform_poll_of_blocking hsettled ha

/-- A statement whose results are awaited is under way after a poll that has found none of them. -/
theorem poll_agrees_with_isExecuting_reading :
    let start : World Script ScriptedSession := { connector := { busyRounds := 1 }, hook := fun _ => 1 }
    let opened := (start.opening "" true .standard false).2
    let driven := ((drive (fire 0) 0 9 []).run opened).2
    let w := driven.operating 0 false (.submit "SELECT 1" .departed)
    let idle : Reactor Script ScriptedSession := fun _ _ => pure ()
    let polled := (perform idle 0 .poll).run w
    Reached start w ∧ w.Opened 0 ∧ Undisturbed idle 0 .poll w ∧ polled.1 = .ok .needRead ∧
      ((perform idle 0 .isExecuting).run polled.2).1 = .ok true := by
  intro start opened driven w idle polled
  have hreached : Reached start w :=
    ((Reached.of_move (.opening "" true .standard false)).trans
      (keeps_drive (conducts_of_attends fun _ _ => attends_fire (fun _ => conducts_of_attends) 0 _ _) 0 9
        [] opened)).trans (Reached.of_move (.operating 0 false (.submit "SELECT 1" .departed)))
  have hopened : w.Opened 0 := by decide +kernel
  have hstate : w.connections.map (·.asynchronous) = [true] := by decide +kernel
  obtain ⟨c, hc, ha⟩ := exists_connection_of_map hstate
  have hpolled : polled.1 = .ok .needRead := by
    have hanswer : polled.1.toOption = some .needRead := by decide +kernel
    cases hresult : polled.1 with
    | error fault => rw [hresult] at hanswer; exact nomatch hanswer
    | ok readiness => rw [hresult] at hanswer; rw [Option.some.inj hanswer]
  obtain ⟨hconfirms, hspared⟩ := poll_agrees_with_isExecuting start.connector start.hook
  have hundisturbed : Undisturbed idle 0 .poll w := hspared idle 0 (fun _ _ => .pure ()) .poll w
  obtain ⟨c', -, hasynchronous, -⟩ := hconfirms w hreached 0 c hc hopened idle hundisturbed
  exact ⟨hreached, hopened, hundisturbed, hpolled, (hasynchronous ha).2.1 (Or.inl hpolled)⟩

end SessionLayer.Scenario.World
