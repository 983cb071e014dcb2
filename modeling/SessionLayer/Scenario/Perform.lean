import SessionLayer.Scenario.World

/-!
# Operations in a world

An operation runs its span, inside of the embedder's hook where it may block. Only then, with the guard
released, are the messages delivered and is an outcome handed to its owner, so that observers and
owners may call back into the connection. What they do is a parameter here, the `Reactor`.
-/

set_option autoImplicit false

namespace SessionLayer.Scenario

/-- What happens when a listener is told something. -/
abbrev Reactor (κ σ : Type) : Type :=
  (listener : Nat) → Signal → Play κ σ Unit

/-- What is left of a span once its guard is released. -/
structure Aftermath (α : Type) where
  result : Except Fault α
  batch : Batch := .empty
  completion : Option Completion := none

namespace World

variable {κ σ : Type}

section Spans

variable [WireSession σ]

/-- Runs a span on the guarded state of a connection. -/
def runSpan {α : Type} (key : Nat) (span : Connection σ → Span σ α) (w : World κ σ) :
    Aftermath α × World κ σ :=
  match w.connections[key]? with
  | none => ({ result := .error .closed }, w)
  | some c =>
    let outcome := (span c).run c.guarded
    ({ result := outcome.result, batch := outcome.batch, completion := outcome.completion },
      { w.modifyConnection key ({ · with guarded := outcome.guarded }) with
        trace := w.trace ++ outcome.exchanges.map (.exchanged key) })

def attemptConnect [Connector κ σ] (key : Nat) (blocking : Bool) (dsn : String) (w : World κ σ) :
    Except Fault σ × World κ σ :=
  let (outcome, connector) := Connector.connect blocking dsn w.connector
  match outcome with
  | .ok session =>
    (.ok session, { w with connector }.record (.connected key blocking dsn none))
  | .error text =>
    (.error (.transport text), { w with connector }.record (.connected key blocking dsn (some text)))

/-- Connects and, where that blocks, sets the session up. -/
def establish [Connector κ σ] (key : Nat) (blocking : Bool) (dsn : String) (w : World κ σ) :
    Aftermath Unit × World κ σ :=
  match w.attemptConnect key blocking dsn with
  | (.error fault, w) => ({ result := .error fault }, w)
  | (.ok session, w) =>
    w.runSpan key fun c => do
      Span.update ({ · with session := some session })
      if blocking then Span.establish c.setupIsolation

end Spans

/-- Puts a batch into the mailbox of a connection, and tells its observers about every notice. -/
def deliver (react : Reactor κ σ) (key : Nat) (batch : Batch) : Play κ σ Unit := do
  match (← get).connections[key]? with
  | none => pure ()
  | some c =>
    if !batch.isEmpty then
      let (audience, mailbox) := c.mailbox.absorb batch
      modify (modifyConnection key ({ · with mailbox }))
      modify (record (.absorbed key batch audience))
      (Mailbox.showings audience batch).forM fun (listener, notice) =>
        react listener (.notice notice)

/-- Hands an outcome to its owner, if the owner is still held. -/
def settle (react : Reactor κ σ) (completion : Completion) : Play κ σ Unit := do
  let w ← get
  match completion.owner with
  | .cursor key =>
    if w.cursorHeld key then
      modify (modifyCursor key (·.completed completion.outcome))
      modify (record (.cursorCompleted key completion.outcome))
    else modify (record (.discarded completion.outcome))
  | .listener key =>
    if w.listenerHeld key then react key (.complete completion.outcome)
    else modify (record (.discarded completion.outcome))
  | .departed => modify (record (.discarded completion.outcome))

/-- What follows a span: delivery, then the outcome of a statement, then the result. -/
def conclude {α : Type} (react : Reactor κ σ) (key : Nat) (a : Aftermath α) :
    Play κ σ (Except Fault α) := do
  deliver react key a.batch
  if let some completion := a.completion then settle react completion
  return a.result

/-- Empties the mailbox of a connection. -/
def clearMailbox (key : Nat) (w : World κ σ) : World κ σ :=
  w.modifyConnection key fun c => { c with mailbox := c.mailbox.clear }

variable [WireSession σ]

/-- An operation on a connection. Closing also empties the mailbox, after everything else. -/
def perform (react : Reactor κ σ) (key : Nat) (op : Operation) :
    Play κ σ (Except Fault op.Answer) := do
  let hooked := (← get).connections[key]?.any fun c => c.hooked && c.mayBlock op
  let aftermath ← modifyGet (detached key hooked (runSpan key (·.span op)))
  let result ← conclude react key aftermath
  if op = .close then modify (clearMailbox key)
  return result

/-- Closes a connection that nothing holds any more. -/
def release (react : Reactor κ σ) (key : Nat) : Play κ σ Unit := do
  if !(← get).connectionHeld key then
    let _ ← perform react key .close

/-- Opens a connection; one that fails to open is closed again. -/
def openConnection [Connector κ σ] (react : Reactor κ σ) (dsn : String) (asynchronous : Bool)
    (settings : Settings) (hooked : Bool) : Play κ σ (Except Fault Nat) := do
  let key := (← get).connections.length
  let connection := Connection.create key dsn asynchronous hooked settings
  modify fun w => { w with connections := w.connections ++ [connection] }
  let aftermath ← modifyGet
    (detached key (hooked && !asynchronous) (establish key (!asynchronous) dsn))
  match ← conclude react key aftermath with
  | .ok () => return .ok key
  | .error fault =>
    release react key
    return .error fault

end World

end SessionLayer.Scenario
