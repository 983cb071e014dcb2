import SessionLayer.Proofs.Connection.Diagram
import SessionLayer.Proofs.Scenario.Fate
import SessionLayer.Wire.Script

/-!
# Connections go along the diagram

In a scenario every connection is orderly at all times, so each guarded span takes its status along at
most one edge of the diagram. The one exception is the span that opens a blocking connection. From there
the rank of the status never falls, and a connection that is closed stays closed.
-/

set_option autoImplicit false

namespace SessionLayer

variable {σ : Type} [WireSession σ]

/-- What the span makes of a connection in which a new session is taken into it. -/
def Connection.Begins (c : Connection σ) (r : Except Fault Unit) (status : Status) : Prop :=
  (status = .setup ∨ status = .ready ∨ status = .closed) ∧
    (status = .ready ↔ c.asynchronous = false ∧ r = .ok ())

/-- An asynchronous connection begins with the setup; a blocking one is ready once it is opened, or it has
been closed. -/
theorem Connection.begins_opened (c : Connection σ) (session : σ) :
    c.Begins (c.opened session).result (c.opened session).guarded.status := by
  apply Span.status_run_of_ends
  apply Span.ends_bind_update
  cases ha : c.asynchronous with
  | true => exact Span.ends_pure ⟨Or.inl rfl, by simp [ha, Guarded.fresh]⟩
  | false =>
    apply (Span.ends_establish rfl _).mono
    rintro r t ⟨-, ⟨x, rfl, hrun⟩ | ⟨f, g, stash, rfl, -, ht⟩⟩
    · obtain ⟨info, next, ht⟩ := hrun.of_ok
      rw [ht]
      exact ⟨Or.inr (Or.inl rfl), fun _ => ⟨ha, rfl⟩, fun _ => rfl⟩
    · rw [ht]
      exact ⟨Or.inr (Or.inr rfl), by simp [Guarded.shut, Guarded.stashing]⟩

namespace Scenario.World

variable {κ σ : Type} [WireSession σ] [Connector κ σ] {w w' : World κ σ}

/-- Every connection is orderly. -/
def Orderly (w : World κ σ) : Prop :=
  ∀ (key : Nat) (c : Connection σ), w.connections[key]? = some c → c.Orderly

theorem Move.orderly (hw : w.Orderly) (hmove : Move w w') : w'.Orderly := by
  intro key c' hc'
  cases hmove.fate key with
  | kept mailbox connection _ _ =>
    rw [connection, Option.map_eq_some_iff] at hc'
    obtain ⟨c, hc, rfl⟩ := hc'
    exact hw key c hc
  | performed c op before after _ _ =>
    cases after.symm.trans hc'
    exact (hw key c before).perform op
  | opened c dsn asynchronous hooked settings session _ created after _ _ =>
    cases after.symm.trans hc'
    subst created
    exact Or.inl (Connection.settled_open key dsn asynchronous hooked settings session)
  | unopened c dsn asynchronous hooked settings _ created after _ _ =>
    cases after.symm.trans hc'
    subst created
    exact Or.inr (Guarded.unopened_fresh _)

omit [WireSession σ] [Connector κ σ] in
theorem orderly_start (connector : κ) (hook : Nat → Nat) :
    ({ connector, hook } : World κ σ).Orderly :=
  fun _ _ hc => nomatch hc

theorem Reached.orderly {connector : κ} {hook : Nat → Nat}
    (h : Reached ({ connector, hook } : World κ σ) w) : w.Orderly :=
  h.preserves (fun _ _ => Move.orderly) (orderly_start connector hook)

/-- A connection that exists goes along the diagram, one step at most. -/
theorem Move.moves (hw : w.Orderly) (hmove : Move w w') {key : Nat} {c : Connection σ}
    (hc : w.connections[key]? = some c) :
    ∃ c', w'.connections[key]? = some c' ∧ c.guarded.status.Moves c'.guarded.status := by
  rcases (hmove.fate key).of_some hc with ⟨mailbox, hc', -⟩ | ⟨op, hc', -⟩
  · exact ⟨_, hc', .refl _⟩
  · exact ⟨_, hc', (hw key c hc).moves op⟩

/-- From then on the rank of its status never falls, and closed is never left. -/
theorem Reached.advances (hw : w.Orderly) (h : Reached w w') {key : Nat} {c : Connection σ}
    (hc : w.connections[key]? = some c) :
    ∃ c', w'.connections[key]? = some c' ∧
      Relation.ReflTransGen Status.Next c.guarded.status c'.guarded.status := by
  induction h with
  | refl => exact ⟨c, hc, .refl⟩
  | tail hreached hmove ih =>
    obtain ⟨c₁, hc₁, hpath⟩ := ih
    obtain ⟨c₂, hc₂, hmoves⟩ := hmove.moves (Reached.preserves (fun _ _ => Move.orderly) hreached hw) hc₁
    refine ⟨c₂, hc₂, ?_⟩
    rcases hmoves with hsame | hnext
    · rw [hsame]
      exact hpath
    · exact hpath.tail hnext

/-- What opening a connection makes of it in its one span. -/
theorem status_opening (dsn : String) (asynchronous : Bool) (settings : Settings) (hooked : Bool)
    (w : World κ σ) :
    ∃ c, (w.opening dsn asynchronous settings hooked).2.connections[w.connections.length]? = some c ∧
      (c.guarded.status = .setup ∨ c.guarded.status = .ready ∨ c.guarded.status = .closed) ∧
      (c.guarded.status = .ready ↔ asynchronous = false ∧
        (w.opening dsn asynchronous settings hooked).1.result = .ok ()) := by
  rcases hconnect : Connector.connect (!asynchronous) dsn w.connector with ⟨text | session, connector⟩
  · obtain ⟨w', hspan, hc, -⟩ := opening_of_error hconnect settings hooked
    rw [hspan]
    refine ⟨_, hc, Or.inl rfl, ?_⟩
    simp [Connection.create, Guarded.fresh]
  · obtain ⟨w', hspan, hc, -⟩ := opening_of_ok hconnect settings hooked rfl
    rw [hspan]
    exact ⟨_, hc, Connection.begins_opened
      (Connection.create w.connections.length dsn asynchronous hooked settings) session⟩

/-- Whatever the sessions answer, the status of a connection goes along the diagram: every guarded span
of an operation leaves it or takes it one step further, and so does everything that happens in a
scenario; only the span that opens a blocking connection with success goes from the setup to ready at
once. So the rank of the status never falls from one moment to a later one, and a connection that is
closed stays closed. -/
theorem statuses_follow_diagram (connector : κ) (hook : Nat → Nat) :
    (∀ w : World κ σ, Reached { connector, hook } w →
      ∀ (key : Nat) (c : Connection σ), w.connections[key]? = some c →
        (∀ op, c.guarded.status.Moves (c.perform op).guarded.status) ∧
        (∀ w', Move w w' → ∃ c', w'.connections[key]? = some c' ∧
          c.guarded.status.Moves c'.guarded.status) ∧
        ∀ w', Reached w w' → ∃ c', w'.connections[key]? = some c' ∧
          c.guarded.status.rank ≤ c'.guarded.status.rank ∧
          (c.guarded.status = .closed → c'.guarded.status = .closed)) ∧
    (∀ (w : World κ σ) (dsn : String) (asynchronous : Bool) (settings : Settings) (hooked : Bool),
      ∃ c, (w.opening dsn asynchronous settings hooked).2.connections[w.connections.length]? =
          some c ∧
        (c.guarded.status = .setup ∨ c.guarded.status = .ready ∨ c.guarded.status = .closed) ∧
        (c.guarded.status = .ready ↔ asynchronous = false ∧
          (w.opening dsn asynchronous settings hooked).1.result = .ok ())) ∧
    (∀ (steps : List Step) (w : World κ σ), Reached w ((play steps).run w).2) ∧
    ∀ (depth listener : Nat) (signal : Signal) (w : World κ σ),
      Reached w ((fire depth listener signal).run w).2 := by
  refine ⟨fun w hreached key c hc => ⟨?_, ?_, ?_⟩, ?_, keeps_play, keeps_fire⟩
  · exact (hreached.orderly key c hc).moves
  · intro w' hmove
    exact hmove.moves hreached.orderly hc
  · intro w' hlater
    obtain ⟨c', hc', hpath⟩ := hlater.advances hreached.orderly hc
    exact ⟨c', hc', Status.rank_le_of_path hpath, Status.eq_closed_of_path hpath⟩
  · intro w dsn asynchronous settings hooked
    exact status_opening dsn asynchronous settings hooked w

/-- An asynchronous connection is driven through its setup. -/
theorem statuses_follow_diagram_driven :
    let start : World Script ScriptedSession := { connector := {}, hook := fun _ => 1 }
    let opened := (start.opening "" true .standard false).2
    let driven := ((drive (fire 0) 0 7 []).run opened).2
    Reached start opened ∧ Reached opened driven ∧
      ∃ c c', opened.connections[0]? = some c ∧ driven.connections[0]? = some c' ∧
        c.guarded.status = .setup ∧ c'.guarded.status = .ready ∧
        c.guarded.status.rank ≤ c'.guarded.status.rank := by
  intro start opened driven
  have hreached : Reached start opened := .of_move (.opening "" true .standard false)
  have hlater : Reached opened driven :=
    keeps_drive (conducts_of_attends fun _ _ => attends_fire (fun _ => conducts_of_attends) 0 _ _) 0 7 []
      opened
  have hfirst : opened.connections.map (·.guarded.status) = [.setup] := by decide +kernel
  have hthen : driven.connections.map (·.guarded.status) = [.ready] := by decide +kernel
  obtain ⟨c, hopened, hsetup⟩ := List.map_eq_singleton_iff.1 hfirst
  obtain ⟨last, hdriven, hready⟩ := List.map_eq_singleton_iff.1 hthen
  have hc : opened.connections[0]? = some c := by rw [hopened]; rfl
  obtain ⟨-, -, hlasting⟩ := (statuses_follow_diagram start.connector start.hook).1 opened hreached 0 c hc
  obtain ⟨c', hc', hrank, -⟩ := hlasting driven hlater
  refine ⟨hreached, hlater, c, c', hc, hc', hsetup, ?_, hrank⟩
  rw [hdriven] at hc'
  cases hc'
  exact hready

end Scenario.World

end SessionLayer
