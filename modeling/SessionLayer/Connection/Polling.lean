import SessionLayer.Connection.Setup

/-!
# Polling an asynchronous connection

One poll makes one step that does not block: of the handshake, of a question of the setup, or of the
statement in flight. It answers what the caller has to wait for before the next poll. A failure while
the connection is still being set up closes it; a failure after that costs at most the statement in
flight, whose owner is told.
-/

set_option autoImplicit false

namespace SessionLayer

/-- The outcome that the owner of a statement is told: its results, or the first rejection. -/
def collectOutcome (results : List QueryResult) : Except Fault (List QueryResult) :=
  match (results.find? (·.isError)).bind (·.error) with
  | some rejection => .error (.rejected rejection.state rejection.message)
  | none => .ok results

namespace Span

variable {σ : Type} [WireSession σ]

def stepHandshake : Span σ Readiness := do
  match ← ask .handshake with
  | .reading => return .needRead
  | .writing => return .needWrite
  | .failed => throw (.handshakeFailed (← ask .errorMessage))
  | .established =>
    recordHandshake
    moveTo (.asking .dateStyle)
    return .needWrite
  | .unknown code => throw (.handshakeUnknown code)

/-- Goes on after an attempt to write a question; `submitted` tells whether it was submitted only now. -/
def afterFlush (q : SetupQuery) (submitted : Bool) : FlushOutcome → Span σ Readiness
  | .done => do
    moveTo (.awaiting q)
    return .needRead
  | .pending => do
    if submitted then moveTo (.writing q)
    return .needWrite

/-- Submits a question, and tries to write it. -/
def stepAsking (q : SetupQuery) : Span σ Readiness := do
  sent (← ask (.send q.statement))
  afterFlush q true (← sent (← ask .flush))

/-- Tries to write the rest of a question. -/
def stepWriting (q : SetupQuery) : Span σ Readiness := do
  afterFlush q false (← sent (← ask .flush))

/-- Reads what there is of the answer to a question, and notes it once it is complete. -/
def stepAwaiting (q : SetupQuery) (isolation : Isolation) : Span σ Readiness := do
  sent (← ask .consume)
  if ← ask .isBusy then return .needRead
  let results ← askResults
  noteAnswer q results.getLast?
  match q with
  | .dateStyle =>
    moveTo (.asking .clientEncoding)
    return .needWrite
  | .clientEncoding =>
    completeSetup isolation
    return .complete

/-- Gives a statement up after a failure of the transport, and tells its owner. -/
def abandon (flight : InFlight) (text : String) : Span σ Readiness := do
  complete flight (.error (.transport text))
  throw (.transport text)

/-- Tries to write the rest of the statement in flight. -/
def stepFlight (flight : InFlight) : Span σ Readiness := do
  match ← ask .flush with
  | .error text => abandon flight text
  | .ok .pending => return .needWrite
  | .ok .done =>
    update ({ · with inFlight := some { flight with phase := .reading } })
    return .needRead

/-- Reads what there is of the results in flight, and completes the statement once all are there. -/
def stepResults (flight : InFlight) : Span σ Readiness := do
  match ← ask .consume with
  | .error text => abandon flight text
  | .ok () =>
    if ← ask .isBusy then return .needRead
    complete flight (collectOutcome (← askResults))
    return .complete

/-- One step of a connection that is set up; with nothing in flight it only reads messages. -/
def stepReady : Span σ Readiness := do
  match (← guarded).inFlight with
  | none =>
    sent (← ask .consume)
    return .complete
  | some flight =>
    match flight.phase with
    | .writing => stepFlight flight
    | .reading => stepResults flight

/-- One step in whatever status the connection is. -/
def step (asynchronous : Bool) (isolation : Isolation) : Span σ Readiness := do
  match (← guarded).status with
  | .closed => throw .closed
  | .setup =>
    if asynchronous then
      moveTo .handshake
      return .needWrite
    else throw .noAttempt
  | .handshake => stepHandshake
  | .asking q => stepAsking q
  | .writing q => stepWriting q
  | .awaiting q => stepAwaiting q isolation
  | .ready | .inBlock => stepReady

def poll (asynchronous : Bool) (isolation : Isolation) : Span σ Readiness := do
  if asynchronous && (← guarded).status.isConnecting then
    orTearDown (step asynchronous isolation)
  else step asynchronous isolation

/-- Submits a statement for an owner; only one may be in flight. -/
def submit (sql : String) (owner : QueryOwner) : Span σ Unit := do
  if !(← guarded).status.isUsable then throw .setupUnderway
  if (← guarded).inFlight.isSome then throw .queryInProgress
  sent (← ask (.send sql))
  let phase := match ← sent (← ask .flush) with
    | .done => QueryPhase.reading
    | .pending => QueryPhase.writing
  update ({ · with inFlight := some { owner, phase } })

end Span

end SessionLayer
