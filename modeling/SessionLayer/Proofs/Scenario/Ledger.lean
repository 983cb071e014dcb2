import SessionLayer.Proofs.Connection.Performance
import SessionLayer.Proofs.Scenario.Operations

/-!
# A ledger of what a scenario does

A `Ledger` keeps books on a world: the history of its operations and deliveries, and the debts that are
still open because listeners run between a span and what follows it. An outcome that a span has brought
is owed to its owner, and a cursor whose statement was refused is owed the state that it had before.
`Ledger.Turn` lists what can happen next, in whatever order client code makes it happen, and
`Ledger.Reached` is any number of turns.
-/

set_option autoImplicit false

namespace SessionLayer.Scenario

/-- What is still to be done because listeners run first. -/
inductive Debt where
  /-- An outcome has not been handed over yet. -/
  | outcome (completion : Completion)
  /-- A cursor whose statement was refused has not gone back to the given state yet. -/
  | restoration (cursor : Nat) (state : CursorState)

/-- The outcome that is to be handed over, if the debt is one. -/
def Debt.outcome? : Debt → Option Completion
  | outcome completion => some completion
  | restoration .. => none

/-- What the history tells of. -/
inductive Entry (σ : Type) where
  /-- An operation that a client asked for. -/
  | performed (connection : Nat) (p : Performance σ)
  /-- The submission of a statement for a cursor, which has been marked as executing. -/
  | executed (cursor connection : Nat) (p : Performance σ)
  /-- A cursor went back to its state before. -/
  | restored (cursor : Nat)
  /-- An outcome was handed over; `departed` stands for nobody. -/
  | delivered (completion : Completion) (recipient : QueryOwner)

/-- The operation that an entry tells of, if it is one on the given connection. -/
def Entry.performanceOn? {σ : Type} (key : Nat) : Entry σ → Option (Performance σ)
  | performed connection p | executed _ connection p => if connection = key then some p else none
  | _ => none

/-- The outcome that the operation has brought which an entry tells of. -/
def Entry.completion? {σ : Type} : Entry σ → Option Completion
  | performed _ p | executed _ _ p => p.outcome.completion
  | _ => none

/-- The outcome that an entry tells the delivery of, and who was told. -/
def Entry.delivery? {σ : Type} : Entry σ → Option (Completion × QueryOwner)
  | delivered completion recipient => some (completion, recipient)
  | _ => none

/-- A world with its history and its debts, the latest debt first. -/
structure Ledger (κ σ : Type) where
  world : World κ σ
  debts : List Debt := []
  history : List (Entry σ) := []

namespace World

variable {κ σ : Type}

/-- Who is told an outcome: its owner if something holds it, else nobody. -/
def recipient (w : World κ σ) : QueryOwner → QueryOwner
  | .cursor key => if w.cursorHeld key then .cursor key else .departed
  | .listener key => if w.listenerHeld key then .listener key else .departed
  | .departed => .departed

theorem recipient_eq_or (w : World κ σ) (owner : QueryOwner) :
    w.recipient owner = owner ∨ w.recipient owner = .departed := by
  unfold recipient
  split
  · split
    · exact Or.inl rfl
    · exact Or.inr rfl
  · split
    · exact Or.inl rfl
    · exact Or.inr rfl
  · exact Or.inl rfl

/-- An outcome is handed over. -/
def handing (completion : Completion) (w : World κ σ) : World κ σ :=
  match w.recipient completion.owner with
  | .cursor key =>
    (w.modifyCursor key (·.completed completion.outcome)).record
      (.cursorCompleted key completion.outcome)
  | .listener key => w.announce key (.complete completion.outcome)
  | .departed => w.record (.discarded completion.outcome)

end World

namespace Ledger

open World

variable {κ σ : Type}

def start (connector : κ) (hook : Nat → Nat) : Ledger κ σ where
  world := { connector, hook }

/-- The operations on a connection so far. -/
def performances (L : Ledger κ σ) (key : Nat) : List (Performance σ) :=
  L.history.filterMap (Entry.performanceOn? key)

/-- The outcomes that all spans have brought so far. -/
def completions (L : Ledger κ σ) : List Completion :=
  L.history.filterMap Entry.completion?

/-- The outcomes that were handed over so far, each with who was told. -/
def delivered (L : Ledger κ σ) : List (Completion × QueryOwner) :=
  L.history.filterMap Entry.delivery?

/-- The outcomes that are owed. -/
def owed (L : Ledger κ σ) : List Completion :=
  L.debts.filterMap Debt.outcome?

/-- The debt that a span makes by the outcome that it brings. -/
def outcomeDebt (p : Performance σ) : List Debt :=
  p.outcome.completion.toList.map .outcome

/-- The debt that a submission for a cursor makes if it is refused. -/
def refusalDebt (cursor : Nat) (state : CursorState) : Except Fault Unit → List Debt
  | .error _ => [.restoration cursor state]
  | .ok _ => []

variable [WireSession σ]

/-- The ledger after the span of an operation. -/
def performing (L : Ledger κ σ) (key : Nat) (hooked : Bool) (op : Operation) (c : Connection σ) :
    Ledger κ σ where
  world := L.world.operating key hooked op
  debts := outcomeDebt (c.performance op) ++ L.debts
  history := L.history ++ [.performed key (c.performance op)]

/-- The ledger after a cursor was marked as executing and its statement submitted. -/
def executing (L : Ledger κ σ) (key : Nat) (cursor : Cursor) (hooked : Bool) (sql : String)
    (c : Connection σ) : Ledger κ σ where
  world := (L.world.modifyCursor key Cursor.started).operating cursor.connection hooked
    (.submit sql (.cursor key))
  debts := outcomeDebt (c.performance (.submit sql (.cursor key)))
    ++ (refusalDebt key cursor.state (c.perform (.submit sql (.cursor key))).result ++ L.debts)
  history := L.history
    ++ [.executed key cursor.connection (c.performance (.submit sql (.cursor key)))]

/-- The ledger after a cursor went back to a state, with the debts that are left. -/
def restoring (L : Ledger κ σ) (key : Nat) (state : CursorState) (debts : List Debt) :
    Ledger κ σ where
  world := L.world.modifyCursor key ({ · with state })
  debts
  history := L.history ++ [.restored key]

/-- The ledger after an outcome was handed over, with the debts that are left. -/
def delivering (L : Ledger κ σ) (completion : Completion) (debts : List Debt) : Ledger κ σ where
  world := L.world.handing completion
  debts
  history := L.history ++ [.delivered completion (L.world.recipient completion.owner)]

variable [Connector κ σ]

/-- What can happen next. -/
inductive Turn (L : Ledger κ σ) : Ledger κ σ → Prop
  /-- Nothing that matters to spans or to outcomes. -/
  | resting (w : World κ σ) : L.world.Still w → Turn L { L with world := w }
  | opening (dsn : String) (asynchronous : Bool) (settings : Settings) (hooked : Bool) :
      Turn L { L with world := (L.world.opening dsn asynchronous settings hooked).2 }
  | performing (key : Nat) (hooked : Bool) (op : Operation) (c : Connection σ) :
      L.world.connections[key]? = some c → Turn L (L.performing key hooked op c)
  /-- On an asynchronous connection, what a cursor executes is only submitted. -/
  | executing (key : Nat) (cursor : Cursor) (hooked : Bool) (sql : String) (c : Connection σ) :
      L.world.cursors[key]? = some cursor → L.world.connections[cursor.connection]? = some c →
      c.asynchronous = true → Turn L (L.executing key cursor hooked sql c)
  | restoring (key : Nat) (state : CursorState) (debts : List Debt) :
      L.debts = .restoration key state :: debts → Turn L (L.restoring key state debts)
  | delivering (completion : Completion) (debts : List Debt) :
      L.debts = .outcome completion :: debts → Turn L (L.delivering completion debts)
  /-- A cursor of a blocking connection keeps the outcome of a statement that has been run. -/
  | storing (key : Nat) (cursor : Cursor) (c : Connection σ)
      (outcome : Except Fault (List QueryResult)) :
      L.world.cursors[key]? = some cursor → L.world.connections[cursor.connection]? = some c →
      c.asynchronous = false →
      Turn L { L with world := L.world.modifyCursor key (·.completed outcome) }

/-- The second ledger is reached from the first one by turns. -/
def Reached : Ledger κ σ → Ledger κ σ → Prop :=
  Relation.ReflTransGen Turn

/-! ## Turns that are taken if they can be -/

section Taken

variable (L : Ledger κ σ)

/-- The ledger after a connection was opened. -/
def openNext (asynchronous : Bool) : Ledger κ σ :=
  { L with world := (L.world.opening "" asynchronous .standard false).2 }

theorem reached_openNext (asynchronous : Bool) : Reached L (L.openNext asynchronous) :=
  .single (.opening "" asynchronous .standard false)

/-- The ledger after a cursor of a connection was put into a slot. -/
def makeCursorOn (key : Nat) (slot : String) : Ledger κ σ :=
  { L with world := { L.world with
    cursors := L.world.cursors ++ [{ connection := key, name := none }]
    cursorSlots := L.world.cursorSlots.put slot L.world.cursors.length } }

theorem reached_makeCursorOn (key : Nat) (slot : String) : Reached L (L.makeCursorOn key slot) :=
  .single (.resting _ (Yields.makeCursor L.world _ rfl slot).minor.still)

/-- The ledger after an operation on a connection, if there is such a connection. -/
def performOn (key : Nat) (op : Operation) : Ledger κ σ :=
  match L.world.connections[key]? with
  | some c => L.performing key false op c
  | none => L

theorem reached_performOn (key : Nat) (op : Operation) : Reached L (L.performOn key op) := by
  unfold performOn
  split
  next c hc => exact .single (.performing key false op c hc)
  next => exact .refl

theorem reached_foldl_performOn (key : Nat) (ops : List Operation) :
    Reached L (ops.foldl (performOn · key) L) := by
  induction ops generalizing L with
  | nil => exact .refl
  | cons op ops ih => exact (reached_performOn L key op).trans (ih _)

/-- The ledger after a cursor of an asynchronous connection has submitted a statement. -/
def executeOn (key : Nat) (sql : String) : Ledger κ σ :=
  match L.world.cursors[key]? with
  | some cursor =>
    match L.world.connections[cursor.connection]? with
    | some c => if c.asynchronous then L.executing key cursor false sql c else L
    | none => L
  | none => L

theorem reached_executeOn (key : Nat) (sql : String) : Reached L (L.executeOn key sql) := by
  unfold executeOn
  split
  next cursor hcursor =>
    split
    next c hc =>
      split
      next ha => exact .single (.executing key cursor false sql c hcursor hc ha)
      next => exact .refl
    next => exact .refl
  next => exact .refl

/-- The ledger after the latest debt has been settled, if it is an outcome. -/
def deliverNext : Ledger κ σ :=
  match L.debts with
  | .outcome completion :: debts => L.delivering completion debts
  | _ => L

theorem reached_deliverNext : Reached L L.deliverNext := by
  unfold deliverNext
  split
  next completion debts hdebts => exact .single (.delivering completion debts hdebts)
  next => exact .refl

end Taken

end Ledger

namespace World

variable {κ σ : Type} {w w' w₁ w₂ : World κ σ}

/-! ## What a turn does to cursors and connections -/

section Calm

variable [WireSession σ]

theorem calm_operating (w : World κ σ) (key : Nat) (hooked : Bool) (op : Operation) :
    w.Calm (w.operating key hooked op) :=
  .detached (fun w => calm_runSpan w key _) w

theorem calm_opening [Connector κ σ] (w : World κ σ) (dsn : String) (asynchronous : Bool)
    (settings : Settings) (hooked : Bool) :
    w.Calm (w.opening dsn asynchronous settings hooked).2 := by
  have hcreated : w.Calm (w.creating dsn asynchronous settings hooked) :=
    .of_held rfl rfl (fun _ => id) (fun _ => Or.inl) rfl
  exact hcreated.trans (.detached (fun w => calm_establish w _ _ _) _)

end Calm

/-- Nothing is ever taken away, and what is fixed about connections and cursors stays what it is. -/
structure Lasts (w w' : World κ σ) : Prop where
  connection : ∀ (key : Nat) (c : Connection σ), w.connections[key]? = some c → ∃ guarded mailbox,
    w'.connections[key]? = some { c with guarded, mailbox }
  cursor : ∀ (key : Nat) (c : Cursor), w.cursors[key]? = some c → ∃ state,
    w'.cursors[key]? = some { c with state }

namespace Lasts

theorem refl (w : World κ σ) : w.Lasts w where
  connection := fun _ c hc => ⟨c.guarded, c.mailbox, hc⟩
  cursor := fun _ c hc => ⟨c.state, hc⟩

theorem trans (h : w.Lasts w₁) (h' : w₁.Lasts w₂) : w.Lasts w₂ where
  connection := by
    intro key c hc
    obtain ⟨guarded, mailbox, hc₁⟩ := h.connection key c hc
    obtain ⟨guarded', mailbox', hc₂⟩ := h'.connection key _ hc₁
    exact ⟨guarded', mailbox', hc₂⟩
  cursor := by
    intro key c hc
    obtain ⟨state, hc₁⟩ := h.cursor key c hc
    obtain ⟨state', hc₂⟩ := h'.cursor key _ hc₁
    exact ⟨state', hc₂⟩

theorem of_still (h : w.Still w') : w.Lasts w' where
  connection := by
    intro key c hc
    obtain ⟨mailbox, hc'⟩ := h.connection key c hc
    exact ⟨c.guarded, mailbox, hc'⟩
  cursor := fun key c hc => ⟨c.state, h.cursor key c hc⟩

/-- The state of a cursor may change. -/
theorem modifyCursor (w : World κ σ) (key : Nat) {f : Cursor → Cursor}
    (hf : ∀ c, ∃ state, f c = { c with state }) : w.Lasts (w.modifyCursor key f) where
  connection := fun _ c hc => ⟨c.guarded, c.mailbox, hc⟩
  cursor := by
    intro k c hc
    obtain ⟨state, hstate⟩ := hf c
    by_cases hk : key = k
    · refine ⟨state, ?_⟩
      simp only [World.modifyCursor, List.getElem?_modify, hk, if_true, hc, Option.map_eq_map,
        Option.map_some, hstate]
    · refine ⟨c.state, ?_⟩
      simp only [World.modifyCursor, List.getElem?_modify, hk, if_false, hc, Option.map_eq_map,
        Option.map_some]

theorem record (w : World κ σ) (event : Event) : w.Lasts (w.record event) where
  connection := fun _ c hc => ⟨c.guarded, c.mailbox, hc⟩
  cursor := fun _ c hc => ⟨c.state, hc⟩

theorem announce (w : World κ σ) (listener : Nat) (signal : Signal) :
    w.Lasts (w.announce listener signal) where
  connection := by
    intro key c hc
    obtain ⟨mailbox, hc'⟩ := (Alike.announce w listener signal).connection key c hc
    exact ⟨c.guarded, mailbox, hc'⟩
  cursor := by
    intro key c hc
    refine ⟨c.state, ?_⟩
    unfold World.announce
    split <;> exact hc

theorem handing (completion : Completion) (w : World κ σ) : w.Lasts (w.handing completion) := by
  unfold World.handing
  split
  · exact (modifyCursor w _ fun c => ⟨_, rfl⟩).trans (record _ _)
  · exact announce w _ _
  · exact record w _

variable [WireSession σ]

theorem runSpan {α : Type} (w : World κ σ) (key : Nat) (span : Connection σ → Span σ α) :
    w.Lasts (w.runSpan key span).2 where
  connection := by
    intro k c hc
    by_cases hk : k = key
    · subst hk
      exact ⟨_, c.mailbox, connection_runSpan_self hc span⟩
    · exact ⟨c.guarded, c.mailbox, (connection_runSpan_of_ne w hk span).trans hc⟩
  cursor := fun k c hc => ⟨c.state, (calm_runSpan w key span).cursor k c hc⟩

theorem operating (w : World κ σ) (key : Nat) (hooked : Bool) (op : Operation) :
    w.Lasts (w.operating key hooked op) where
  connection := by
    obtain ⟨w₁, -, hconnections, -, -, hkept⟩ := detached_eq key hooked (World.runSpan key (·.span op)) w
    intro k c hc
    rw [World.operating, hkept]
    exact (runSpan w₁ key (·.span op)).connection k c (by rw [hconnections, hc])
  cursor := fun k c hc => ⟨c.state, (calm_operating w key hooked op).cursor k c hc⟩

variable [Connector κ σ]

theorem establish (w : World κ σ) (key : Nat) (blocking : Bool) (dsn : String) :
    w.Lasts (w.establish key blocking dsn).2 := by
  refine establish_of_trans (R := Lasts) trans (fun w connector failure => ?_)
    (fun w span => runSpan w key span) w
  exact
    { connection := fun _ c hc => ⟨c.guarded, c.mailbox, hc⟩
      cursor := fun _ c hc => ⟨c.state, hc⟩ }

theorem opening (w : World κ σ) (dsn : String) (asynchronous : Bool) (settings : Settings)
    (hooked : Bool) : w.Lasts (w.opening dsn asynchronous settings hooked).2 where
  connection := by
    obtain ⟨w₁, -, hconnections, -, -, hkept⟩ := detached_eq w.connections.length
      (hooked && !asynchronous) (World.establish w.connections.length (!asynchronous) dsn)
      (w.creating dsn asynchronous settings hooked)
    intro key c hc
    rw [World.opening, hkept]
    refine (establish w₁ _ _ _).connection key c ?_
    rw [hconnections, creating, List.getElem?_append_left (List.getElem?_eq_some_iff.1 hc).1, hc]
  cursor := fun key c hc => ⟨c.state, (calm_opening w _ _ _ _).cursor key c hc⟩

end Lasts

end World

namespace Ledger

open World

variable {κ σ : Type} [WireSession σ] [Connector κ σ] {L L' : Ledger κ σ}

theorem Turn.lasts (h : Turn L L') : L.world.Lasts L'.world := by
  cases h with
  | resting w hstill => exact .of_still hstill
  | opening dsn asynchronous settings hooked => exact .opening _ dsn asynchronous settings hooked
  | performing key hooked op c hc => exact .operating _ key hooked op
  | executing key cursor hooked sql c hcursor hc ha =>
    exact (Lasts.modifyCursor _ key fun c => ⟨_, rfl⟩).trans (.operating _ _ hooked _)
  | restoring key state debts hdebts => exact .modifyCursor _ key fun c => ⟨_, rfl⟩
  | delivering completion debts hdebts => exact .handing completion _
  | storing key cursor c outcome hcursor hc ha => exact .modifyCursor _ key fun c => ⟨_, rfl⟩

theorem Reached.lasts (h : Ledger.Reached L L') : L.world.Lasts L'.world := by
  induction h with
  | refl => exact .refl _
  | tail _ hturn ih => exact ih.trans hturn.lasts

end Ledger

end SessionLayer.Scenario
