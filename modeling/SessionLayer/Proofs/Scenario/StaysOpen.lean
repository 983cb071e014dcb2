import SessionLayer.Proofs.Connection.Failure
import SessionLayer.Proofs.Scenario.Bookkeeping
import SessionLayer.Proofs.Scenario.Closing

/-!
# Connections that stay open

`World.IsOpen` says of a connection that its session was made and that it has not been closed since. Of
all that a client can do to a connection, only to close it and a setup that fails end that; listeners and
factories apart, which are the client's own and may close what they like. So every other computation
`LeavesOpen` what is open.
-/

set_option autoImplicit false

namespace SessionLayer.Scenario.World

variable {κ σ : Type}

/-- The session of the connection was made, and the connection is not closed. -/
def IsOpen (w : World κ σ) (key : Nat) : Prop :=
  w.Opened key ∧ ∃ c, w.connections[key]? = some c ∧ c.guarded.status ≠ .closed

/-- Every connection that is open in the first world is open in the second one. -/
def LeavesOpen (w w' : World κ σ) : Prop :=
  w.Sound → w'.Sound ∧ ∀ key, w.IsOpen key → w'.IsOpen key

variable {w w' w₁ : World κ σ} {key : Nat} {c : Connection σ}

theorem IsOpen.of_alikeAt (h : w.IsOpen key) (halike : AlikeAt key w w')
    (hopened : w'.Opened key ↔ w.Opened key) : w'.IsOpen key := by
  obtain ⟨hbefore, c, hc, hopen⟩ := h
  obtain ⟨mailbox, hc'⟩ := halike.connection c hc
  exact ⟨hopened.2 hbefore, _, hc', hopen⟩

theorem LeavesOpen.of_alike (h : w.Alike w') : w.LeavesOpen w' :=
  fun hw => ⟨h.sound hw, fun key hopen => hopen.of_alikeAt (.of_alike h key) (h.opened_iff key)⟩

instance LeavesOpen.course : Course (LeavesOpen : World κ σ → World κ σ → Prop) where
  refl := fun w => .of_alike (.refl w)
  trans := by
    intro w w₁ w₂ h h' hw
    obtain ⟨hw₁, hopen₁⟩ := h hw
    obtain ⟨hw₂, hopen₂⟩ := h' hw₁
    exact ⟨hw₂, fun key hopen => hopen₂ key (hopen₁ key hopen)⟩
  quiet := .of_alike

variable [WireSession σ] {react : Reactor κ σ}

/-! ## Spans -/

/-- The span of an operation leaves its own connection open unless it closes it by intent or because the
setup failed. -/
theorem isOpen_operating_iff (hw : w.Sound) (hc : w.connections[key]? = some c) (hopen : w.IsOpen key)
    (hooked : Bool) (op : Operation) :
    (w.operating key hooked op).IsOpen key ↔ ¬c.ClosedBy op (c.perform op).result := by
  obtain ⟨hopened, c', hc', hstatus⟩ := hopen
  cases hc.symm.trans hc'
  obtain ⟨w₁, hspan, hafter, -⟩ := detached_runSpan hc hooked (·.span op)
  have hw₁ : w.operating key hooked op = w₁ := by rw [operating, hspan]
  rw [← Connection.closed_perform_iff (hw.settled key c hc hopened).1 hstatus op]
  refine ⟨fun h => ?_, fun h => ⟨(opened_operating_iff w key hooked op key).2 hopened, ?_⟩⟩
  · obtain ⟨-, d, hd, hdstatus⟩ := h
    rw [hw₁, hafter] at hd
    cases hd
    exact hdstatus
  · exact ⟨_, hw₁ ▸ hafter, h⟩

theorem leavesOpen_operating {op : Operation}
    (h : ∀ c, w.connections[key]? = some c → ¬c.ClosedBy op (c.perform op).result) (hooked : Bool) :
    w.LeavesOpen (w.operating key hooked op) := by
  refine fun hw => ⟨sound_operating hw key hooked op, fun k hopen => ?_⟩
  by_cases hk : key = k
  · subst hk
    obtain ⟨-, c, hc, -⟩ := id hopen
    exact (isOpen_operating_iff hw hc hopen hooked op).2 (h c hc)
  · exact hopen.of_alikeAt (alikeAt_operating hk w hooked op) (opened_operating_iff w key hooked op k)

/-- What closes a connection that was open is the span of an operation on it, which either closes it by
intent or sets it up and fails. -/
theorem Move.closedBy [Connector κ σ] (hw : w.Sound) (hmove : Move w w')
    (hc : w.connections[key]? = some c) (hopen : w.IsOpen key) (hclosed : ¬w'.IsOpen key) :
    ∃ hooked op, w' = w.operating key hooked op ∧ c.ClosedBy op (c.perform op).result := by
  cases hmove with
  | opening dsn asynchronous settings hooked =>
    have hlt := (List.getElem?_eq_some_iff.1 hc).1
    obtain ⟨halike, hopened⟩ := alikeAt_opening (Nat.ne_of_lt hlt) dsn asynchronous settings hooked
    exact absurd (hopen.of_alikeAt halike hopened) hclosed
  | operating other hooked op =>
    by_cases hother : other = key
    · subst hother
      refine ⟨hooked, op, rfl, ?_⟩
      rw [isOpen_operating_iff hw hc hopen hooked op, Classical.not_not] at hclosed
      exact hclosed
    · have hsame := hopen.of_alikeAt (alikeAt_operating hother w hooked op)
        (opened_operating_iff w other hooked op key)
      exact absurd hsame hclosed
  | quiet _ halike =>
    exact absurd (hopen.of_alikeAt (.of_alike halike key) (halike.opened_iff key)) hclosed

/-! ## Operations -/

/-- An operation leaves open what is open if its listeners do, unless it closes its own connection. -/
theorem leavesOpen_perform (hreact : ∀ listener signal, Keeps LeavesOpen (react listener signal))
    {op : Operation} (h : ∀ c, w.connections[key]? = some c → ¬c.ClosedBy op (c.perform op).result) :
    w.LeavesOpen ((perform react key op).run w).2 := by
  obtain ⟨hooked, hrun⟩ := perform_run react key op w
  have hspan := leavesOpen_operating h hooked
  have hconcluded := Course.trans hspan (keeps_conclude hreact key
    (detached key hooked (runSpan key (·.span op)) w).1 (w.operating key hooked op))
  rw [hrun]
  dsimp only
  split
  · exact Course.trans hconcluded (Course.quiet (Idle.clearMailbox _ key).alike)
  · exact hconcluded

/-- An operation that neither closes connections nor sets any up. -/
theorem keeps_perform_open (hreact : ∀ listener signal, Keeps LeavesOpen (react listener signal))
    (key : Nat) (op : Operation) (hop : op ≠ .close)
    (hsetsUp : ∀ c : Connection σ, c.setsUp op = false) : Keeps LeavesOpen (perform react key op) := by
  refine fun w => leavesOpen_perform hreact ?_
  rintro c - (hclose | ⟨hsetup, -⟩)
  · exact hop hclose
  · exact nomatch (hsetsUp c).symm.trans hsetup

/-! ## Cursors and large objects -/

section Requests

variable {γ : Type}

theorem keeps_cursorWith_open (hreact : ∀ listener signal, Keeps LeavesOpen (react listener signal))
    (key : Nat) (name : Option String) (connectionOf : γ → Nat) (nameOf : γ → Option String)
    {factory : Option String → Play κ σ (Except Fault γ)}
    (hfactory : ∀ name, Keeps LeavesOpen (factory name)) :
    Keeps LeavesOpen (cursorWith react key name connectionOf nameOf factory) := by
  have hadmitted := keeps_perform_open hreact key .admitCursor nofun fun _ => rfl
  exact keeps_cursorWith hadmitted name _ _ hfactory

theorem keeps_makeCursor_open (hreact : ∀ listener signal, Keeps LeavesOpen (react listener signal))
    (key : Nat) (name : Option String) : Keeps LeavesOpen (makeCursor react key name) := by
  have hadmitted := keeps_perform_open hreact key .admitCursor nofun fun _ => rfl
  exact keeps_makeCursor hadmitted name

theorem keeps_executeCursor_open (hreact : ∀ listener signal, Keeps LeavesOpen (react listener signal))
    (cursor : Nat) (sql : String) : Keeps LeavesOpen (executeCursor react cursor sql) := by
  have hsubmit := fun key sql owner =>
    keeps_perform_open hreact key (.submit sql owner) nofun fun _ => rfl
  have hexecute := fun key sql => keeps_perform_open hreact key (.execute sql) nofun fun _ => rfl
  exact keeps_executeCursor_of hsubmit hexecute cursor sql

theorem keeps_largeObjectWith_open
    (hreact : ∀ listener signal, Keeps LeavesOpen (react listener signal)) (key : Nat)
    (demand : LargeObjectDemand) (connectionOf : γ → Nat)
    {factory : LargeObjectRequest → Play κ σ (Except Fault γ)}
    (hfactory : ∀ request, Keeps LeavesOpen (factory request)) :
    Keeps LeavesOpen (largeObjectWith react key demand connectionOf factory) := by
  have hadmitted := keeps_perform_open hreact key .admitLargeObject nofun fun _ => rfl
  exact keeps_largeObjectWith hadmitted demand _ hfactory

theorem keeps_makeLargeObject_open
    (hreact : ∀ listener signal, Keeps LeavesOpen (react listener signal)) (key : Nat)
    (demand : LargeObjectDemand) : Keeps LeavesOpen (makeLargeObject react key demand) := by
  have hadmitted := keeps_perform_open hreact key .admitLargeObject nofun fun _ => rfl
  have hexecute := fun sql => keeps_perform_open hreact key (.execute sql) nofun fun _ => rfl
  refine keeps_makeLargeObject hadmitted (fun request => ?_) demand
  exact keeps_openLargeObject (fun sql _ => hexecute sql) fun _ sql _ => hexecute sql

end Requests

/-! ## Throughout a scenario -/

/-- The connection is closed, without a session and with nothing in flight, and the given exchanges are
all that there ever were with its session. -/
def Finished (w : World κ σ) (key : Nat) (xs : List Exchange) : Prop :=
  w.exchanges key = xs ∧ ∃ c, w.connections[key]? = some c ∧ c.guarded.status = .closed ∧
    c.guarded.session = none ∧ c.guarded.inFlight = none

/-- A connection that an operation has closed is finished once the operation has returned, whatever the
listeners of the scenario do. -/
theorem finished_perform [Connector κ σ] (hw : w.Orderly) (hc : w.connections[key]? = some c)
    {op : Operation} (hclosed : (c.perform op).guarded.status = .closed) (depth : Nat) :
    ((perform (fire depth) key op).run w).2.Finished key (w.exchanges key ++ (c.perform op).exchanges) := by
  obtain ⟨hooked, hrun⟩ := perform_run (fire depth) key op w
  obtain ⟨w₁, hspan, hafter, hsaid⟩ := detached_runSpan hc hooked (·.span op)
  have hw₁ : w.operating key hooked op = w₁ := by rw [operating, hspan]
  have horderly : w₁.Orderly := hw₁ ▸ Move.orderly hw (.operating key hooked op)
  have hlater : Reached w₁ ((perform (fire depth) key op).run w).2 := by
    have hconcluded := keeps_conclude (R := Reached) (keeps_fire depth) key
      (detached key hooked (runSpan key (·.span op)) w).1 w₁
    rw [hrun, ← hw₁]
    rw [← hw₁] at hconcluded
    dsimp only
    split
    · exact hconcluded.trans (Reached.of_alike (Idle.clearMailbox _ key).alike)
    · exact hconcluded
  obtain ⟨hsame, c', hc', hclosed'⟩ := hlater.of_closed horderly hafter hclosed
  have hdone := Reached.preserves (fun _ _ => Move.orderly) hlater horderly
  exact ⟨hsame.trans hsaid, c', hc', hclosed', (hdone key c' hc').of_closed hclosed'⟩

/-- In every state of an open connection whose session was made, whatever the session answers: an
operation closes the connection if and only if it is a close, or the setup of the session which it goes on
with, or runs again, fails. The connection is torn down then: its session is ended, once and last, and
nothing is in flight; a setup fails operationally, unless the handshake had an unknown answer. Nothing
else that happens in a scenario closes the connection; so where the listeners and the factories of the
client leave open what is open, every other operation on it leaves it open, and so does all that is done to
make cursors and large objects and to run statements on cursors, whether it succeeds or fails. -/
theorem closed_only_by_failed_setup [Connector κ σ] (connector : κ) (hook : Nat → Nat) :
    ∀ w : World κ σ, Reached { connector, hook } w → ∀ (key : Nat) (c : Connection σ),
      w.connections[key]? = some c → w.Opened key → c.guarded.status ≠ .closed →
        (∀ op,
          ((c.perform op).guarded.status = .closed ↔
            op = .close ∨ (c.setsUp op = true ∧ ∃ fault, (c.perform op).result = .error fault)) ∧
          ((c.perform op).guarded.status = .closed → Connection.TornDown (c.perform op)) ∧
          (∀ fault, c.setsUp op = true → (c.perform op).result = .error fault →
            Connection.SetupClass (c.perform op).exchanges fault) ∧
          ∀ depth, ((perform (fire depth) key op).run w).1 = (c.perform op).result ∧
            ((c.perform op).guarded.status = .closed →
              ((perform (fire depth) key op).run w).2.Finished key
                (w.exchanges key ++ (c.perform op).exchanges))) ∧
        (∀ w', Move w w' → ¬w'.IsOpen key →
          ∃ hooked op, w' = w.operating key hooked op ∧ c.ClosedBy op (c.perform op).result) ∧
        ∀ react : Reactor κ σ, (∀ listener signal, Keeps LeavesOpen (react listener signal)) →
          (∀ op, ¬c.ClosedBy op (c.perform op).result → ((perform react key op).run w).2.IsOpen key) ∧
          (∀ name, ((makeCursor react key name).run w).2.IsOpen key) ∧
          (∀ cursor sql, ((executeCursor react cursor sql).run w).2.IsOpen key) ∧
          (∀ demand, ((makeLargeObject react key demand).run w).2.IsOpen key) ∧
          ∀ {γ : Type} (connectionOf : γ → Nat),
            (∀ name nameOf factory, (∀ name, Keeps LeavesOpen (factory name)) →
              ((cursorWith react key name connectionOf nameOf factory).run w).2.IsOpen key) ∧
            ∀ demand factory, (∀ request, Keeps LeavesOpen (factory request)) →
              ((largeObjectWith react key demand connectionOf factory).run w).2.IsOpen key := by
  intro w hreached key c hc hopened hopen
  have hsound := hreached.preserves (fun _ _ => Move.sound) (sound_start connector hook)
  have hsettled := hsound.settled key c hc hopened
  have hisOpen : w.IsOpen key := ⟨hopened, c, hc, hopen⟩
  have stays : ∀ {w'}, w.LeavesOpen w' → w'.IsOpen key := fun h => (h hsound).2 key hisOpen
  refine ⟨fun op => ⟨?_, ?_, ?_, fun depth => ⟨?_, ?_⟩⟩, fun w' hmove hclosed => ?_,
    fun react hreact => ⟨fun op hop => ?_, fun name => ?_, fun cursor sql => ?_, fun demand => ?_,
      fun connectionOf => ⟨fun name nameOf factory hfactory => ?_, fun demand factory hfactory => ?_⟩⟩⟩
  · exact Connection.closed_perform_iff hsettled.1 hopen op
  · exact Connection.tornDown_of_closed hsettled hopen
  · exact fun fault hsetsUp hfault => Connection.setupClass_perform hsettled.1 hopen hsetsUp hfault
  · exact fst_perform (fire depth) hc op
  · exact fun hclosed => finished_perform hreached.orderly hc hclosed depth
  · exact hmove.closedBy hsound hc hisOpen hclosed
  · refine stays (leavesOpen_perform hreact fun d hd => ?_)
    cases hc.symm.trans hd
    exact hop
  · exact stays (keeps_makeCursor_open hreact key name w)
  · exact stays (keeps_executeCursor_open hreact cursor sql w)
  · exact stays (keeps_makeLargeObject_open hreact key demand w)
  · exact stays (keeps_cursorWith_open hreact key name connectionOf nameOf hfactory w)
  · exact stays (keeps_largeObjectWith_open hreact key demand connectionOf hfactory w)

/-- A handshake with an unknown answer closes the connection; a statement that is submitted meanwhile would
have left it open, and so would a factory that fails. -/
theorem closed_only_by_failed_setup_unknown :
    let start : World Script ScriptedSession :=
      { connector := { handshake := [.unknown 7] }, hook := fun _ => 1 }
    let opened := (start.opening "" true .standard false).2
    let polled := opened.operating 0 false .poll
    let calm : Reactor Script ScriptedSession := fun _ _ => pure ()
    Reached start polled ∧ polled.Opened 0 ∧
      ∃ c, polled.connections[0]? = some c ∧ c.guarded.status = .handshake ∧
        (c.perform .poll).result = .error (.handshakeUnknown 7) ∧
        Connection.TornDown (c.perform .poll) ∧
        Connection.SetupClass (c.perform .poll).exchanges (.handshakeUnknown 7) ∧
        ((perform calm 0 (.submit "SELECT 1" .departed)).run polled).2.IsOpen 0 ∧
        ((cursorWith calm 0 none id (fun _ => none) fun _ => pure (.error .closed)).run polled).2.IsOpen
          0 := by
  intro start opened polled calm
  have hreached : Reached start polled :=
    (Reached.of_move (.opening "" true .standard false)).tail (.operating 0 false .poll)
  have hopened : polled.Opened 0 := by decide +kernel
  have hstate : polled.connections.map (fun c => (c.guarded.status,
      match (c.perform .poll).result with
      | .ok _ => none
      | .error fault => some fault)) = [(.handshake, some (.handshakeUnknown 7))] := by
    decide +kernel
  obtain ⟨c, hconnections, hpair⟩ := List.map_eq_singleton_iff.1 hstate
  obtain ⟨hhandshake, hfault⟩ := Prod.mk.inj hpair
  have hfailed : (c.perform .poll).result = .error (.handshakeUnknown 7) := by
    split at hfault
    · exact nomatch hfault
    · rename_i fault hresult
      cases hfault
      exact hresult
  have hc : polled.connections[0]? = some c := by rw [hconnections]; rfl
  have hsetsUp : c.setsUp .poll = true := by rw [Connection.setsUp, hhandshake]; rfl
  have hcalm : ∀ listener signal, Keeps LeavesOpen (calm listener signal) := fun _ _ => .pure ()
  obtain ⟨hoperations, -, hleaves⟩ := closed_only_by_failed_setup start.connector start.hook polled
    hreached 0 c hc hopened (by rw [hhandshake]; decide)
  obtain ⟨hclosed, htorn, hclass, -⟩ := hoperations .poll
  obtain ⟨hperform, -, -, -, hfactories⟩ := hleaves calm hcalm
  refine ⟨hreached, hopened, c, hc, hhandshake, hfailed, ?_, ?_, ?_, ?_⟩
  · exact htorn (hclosed.2 (Or.inr ⟨hsetsUp, _, hfailed⟩))
  · exact hclass _ hsetsUp hfailed
  · refine hperform (.submit "SELECT 1" .departed) ?_
    rintro (hclose | ⟨hsetup, -⟩)
    · exact Operation.noConfusion hclose
    · exact absurd hsetup Bool.false_ne_true
  · exact (hfactories id).1 none (fun _ => none) _ fun _ => .pure _

end SessionLayer.Scenario.World
