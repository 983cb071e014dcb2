import SessionLayer.Proofs.Scenario.Refusal

/-!
# Cursors of closed connections

A cursor that outlives its connection has nothing to run statements on, and says so; but before it asks
the connection, a cursor with a name looks at the isolation level that the connection was left at. What a
statement on such a cursor comes to is determined by the mode of the connection, the name and that level,
and nothing is said to any session.
-/

set_option autoImplicit false

namespace SessionLayer.Scenario.World

variable {κ σ : Type} [WireSession σ] {w w' : World κ σ} {key : Nat} {c : Connection σ}

/-- No connection is different, and nothing has been said to any session. -/
structure Mute (w w' : World κ σ) : Prop where
  connections : w'.connections = w.connections
  exchanges : ∀ key, w'.exchanges key = w.exchanges key

namespace Mute

omit [WireSession σ] in
theorem refl (w : World κ σ) : w.Mute w :=
  ⟨rfl, fun _ => rfl⟩

omit [WireSession σ] in
theorem trans {w₂ : World κ σ} (h : w.Mute w') (h' : w'.Mute w₂) : w.Mute w₂ :=
  ⟨h'.connections.trans h.connections, fun key => (h'.exchanges key).trans (h.exchanges key)⟩

omit [WireSession σ] in
theorem modifyCursor (w : World κ σ) (key : Nat) (f : Cursor → Cursor) :
    w.Mute (w.modifyCursor key f) :=
  ⟨rfl, fun _ => rfl⟩

end Mute

omit [WireSession σ] in
/-- Where no message waits, none is delivered. -/
theorem deliver_empty (react : Reactor κ σ) (key : Nat) (w : World κ σ) :
    ((deliver react key .empty).run w).2 = w := by
  unfold deliver
  simp only [Play.run_bind, Play.run_get]
  cases w.connections[key]? <;> rfl

/-- A closed connection refuses what it is asked, and neither it nor anything else is different. -/
theorem perform_of_closed (horderly : c.Orderly) (hstash : c.guarded.stash = .empty)
    (hclosed : c.guarded.status = .closed) (hc : w.connections[key]? = some c)
    (react : Reactor κ σ) {op : Operation} (hop : op ≠ .close) :
    ((perform react key op).run w).1 = .error .closed ∧
      w.Mute ((perform react key op).run w).2 := by
  obtain ⟨hguarded, hrelief⟩ := Connection.relieved_of_closed horderly hstash hclosed
  obtain ⟨w₁, hrelieved, hrun⟩ :=
    perform_of_atOnce (Connection.refuses_of_closed hclosed hop) hop hc hstash react
  have hbatch : handedOver c.guarded.relief = .empty := by rw [hrelief]; rfl
  rw [hbatch, deliver_empty] at hrun
  rw [hrun]
  refine ⟨rfl, ?_, fun k => ?_⟩
  · rw [hrelieved.connections, hguarded]
    refine List.ext_getElem? fun k => ?_
    by_cases hk : key = k
    · subst hk
      rw [List.getElem?_modify_eq, hc]
      rfl
    · rw [List.getElem?_modify_ne _ _ hk]
  · rw [hrelieved.exchanges, hrelief, ite_self, List.append_nil]

/-- What a cursor of a closed connection is told: a named cursor of a blocking connection that was left at
autocommit complains about the missing transaction, and every other one reports the closed connection. -/
def closedCursorFault (c : Connection σ) (cursor : Cursor) : Fault :=
  if c.asynchronous = false ∧ cursor.name.isSome ∧ c.guarded.isolation = .autocommit then
    .namedCursorAutocommit
  else .closed

theorem executeCursor_of_closed (horderly : c.Orderly) (hstash : c.guarded.stash = .empty)
    (hclosed : c.guarded.status = .closed) {k : Nat} {cursor : Cursor}
    (hcursor : w.cursors[k]? = some cursor) (hc : w.connections[cursor.connection]? = some c)
    (react : Reactor κ σ) (sql : String) :
    ((executeCursor react k sql).run w).1 = .error (closedCursorFault c cursor) ∧
      w.Mute ((executeCursor react k sql).run w).2 := by
  unfold closedCursorFault
  cases ha : c.asynchronous with
  | true =>
    rw [if_neg fun h => nomatch h.1]
    rw [executeCursor_run react hcursor hc ha sql]
    obtain ⟨hresult, hmute⟩ := perform_of_closed horderly hstash hclosed
      (show (w.modifyCursor k Cursor.started).connections[cursor.connection]? = some c from hc)
      react (Operation.noConfusion : Operation.submit sql (.cursor k) ≠ .close)
    refine ⟨hresult, ?_⟩
    simp only [hresult]
    exact ((Mute.modifyCursor w k _).trans hmute).trans (Mute.modifyCursor _ k _)
  | false =>
    unfold executeCursor
    simp only [Play.run_bind, Play.run_get, hcursor, Option.bind_some, hc, ha, Bool.false_eq_true,
      if_false, true_and]
    by_cases hnamed : cursor.name.isSome ∧ c.guarded.isolation = .autocommit
    · rw [if_pos hnamed, if_pos hnamed]
      exact ⟨rfl, .refl w⟩
    · rw [if_neg hnamed, if_neg hnamed]
      obtain ⟨hresult, hmute⟩ := perform_of_closed horderly hstash hclosed hc react
        (Operation.noConfusion : Operation.execute (cursor.statement sql) ≠ .close)
      simp only [Play.run_bind, Play.run_modify, Play.run_pure, hresult]
      exact ⟨rfl, hmute.trans (Mute.modifyCursor _ k _)⟩

variable [Connector κ σ]

/-- However a connection came to be closed, from whatever level and with or without a statement in flight,
a statement on any cursor of it fails at once: no connection changes, and nothing is said to any session.
The connection is reported to be closed exactly if it is not a named cursor of a blocking connection that
was left at autocommit; such a cursor complains about the missing transaction instead. -/
theorem closed_connection_reported_iff (connector : κ) (hook : Nat → Nat) :
    (∀ w : World κ σ, Reached { connector, hook } w →
      ∀ (k : Nat) (cursor : Cursor) (c : Connection σ), w.cursors[k]? = some cursor →
        w.connections[cursor.connection]? = some c → c.guarded.status = .closed →
          ∀ (react : Reactor κ σ) (sql : String),
            (((executeCursor react k sql).run w).1 = .error .closed ↔
              ¬(c.asynchronous = false ∧ cursor.name.isSome ∧ c.guarded.isolation = .autocommit)) ∧
            (((executeCursor react k sql).run w).1 = .error .namedCursorAutocommit ↔
              c.asynchronous = false ∧ cursor.name.isSome ∧ c.guarded.isolation = .autocommit) ∧
            w.Mute ((executeCursor react k sql).run w).2) ∧
    (Fault.closed.cls = .interface ∧ Fault.closed.message = "connection already closed") ∧
    (Fault.namedCursorAutocommit.cls = .programming ∧
      Fault.namedCursorAutocommit.message = "can't use a named cursor outside of transactions") := by
  refine ⟨fun w hreached k cursor c hcursor hc hclosed react sql => ?_, ⟨rfl, rfl⟩, rfl, rfl⟩
  have horderly := Reached.orderly hreached cursor.connection c hc
  have hstash := Reached.unstashed hreached cursor.connection c hc
  obtain ⟨hresult, hmute⟩ := executeCursor_of_closed horderly hstash hclosed hcursor hc react sql
  rw [hresult, closedCursorFault]
  split
  next hnamed =>
    exact ⟨⟨fun h => (nomatch h), fun h => absurd hnamed h⟩, ⟨fun _ => hnamed, fun _ => rfl⟩, hmute⟩
  next hnamed =>
    exact ⟨⟨fun _ => hnamed, fun _ => rfl⟩, ⟨fun h => (nomatch h), fun h => absurd h hnamed⟩, hmute⟩

/-- A named cursor of a connection that was at autocommit does not report that the connection is closed,
and one without a name does. -/
theorem closed_connection_reported_unnamed :
    let start : World Script ScriptedSession := { connector := {}, hook := fun _ => 1 }
    let steps : List Step :=
      [.on "db" (.openConnection "" false { Settings.standard with isolation := .autocommit }
          .withSettings),
        .on "db" (.makeCursor "named" (some "c")), .on "db" (.makeCursor "plain" none),
        .on "db" (.perform .close)]
    let w := ((play steps).run start).2
    Reached start w ∧
      ((executeCursor (fire 0) 0 "SELECT 1").run w).1 = .error .namedCursorAutocommit ∧
      ((executeCursor (fire 0) 1 "SELECT 1").run w).1 = .error .closed := by
  intro start steps w
  have hreached : Reached start w := keeps_play steps start
  have hcursors : w.cursors.map (fun cursor => (cursor.connection, cursor.name)) =
      [(0, some "c"), (0, none)] := by decide +kernel
  have hstate : w.connections.map (fun c => (c.guarded.status, c.asynchronous,
      decide (c.guarded.isolation = .autocommit))) = [(.closed, false, true)] := by decide +kernel
  obtain ⟨c, hc, hfacts⟩ := exists_connection_of_map hstate
  simp only [Prod.mk.injEq, decide_eq_true_eq] at hfacts
  obtain ⟨hclosed, ha, hlevel⟩ := hfacts
  have hcursor : ∀ (k : Nat) (name : Option String), (w.cursors.map fun cursor =>
      (cursor.connection, cursor.name))[k]? = some (0, name) →
        ∃ cursor, w.cursors[k]? = some cursor ∧ cursor.connection = 0 ∧ cursor.name = name := by
    intro k name hk
    rw [List.getElem?_map, Option.map_eq_some_iff] at hk
    obtain ⟨cursor, hcursor, hsame⟩ := hk
    exact ⟨cursor, hcursor, congrArg Prod.fst hsame, congrArg Prod.snd hsame⟩
  obtain ⟨named, hnamed, hconnection, hname⟩ := hcursor 0 (some "c") (by rw [hcursors]; rfl)
  obtain ⟨plain, hplain, hconnection', hname'⟩ := hcursor 1 none (by rw [hcursors]; rfl)
  have hreports := (closed_connection_reported_iff start.connector start.hook).1 w hreached
  refine ⟨hreached, ?_, ?_⟩
  · obtain ⟨-, hcomplains, -⟩ := hreports 0 named c hnamed (by rw [hconnection, hc]) hclosed (fire 0)
      "SELECT 1"
    exact hcomplains.2 ⟨ha, by rw [hname]; rfl, hlevel⟩
  · obtain ⟨hclosed, -⟩ := hreports 1 plain c hplain (by rw [hconnection', hc]) hclosed (fire 0)
      "SELECT 1"
    exact hclosed.2 fun h => by simp [hname'] at h

end SessionLayer.Scenario.World
