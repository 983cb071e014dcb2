import SessionLayer.Connection.Guarded

/-!
# Guarded spans

A span is a computation under the guard of one connection. It may fail, but what it did to the guarded
state before stays done; and it records every exchange with the session, so that statements about the
wire are statements about a list. `Span.run` ends a span: it takes over the messages that the session
has collected, together with those of a session that ended on the way.
-/

set_option autoImplicit false

namespace SessionLayer

/-- The state of a span: what it guards, what it said to the session, and what it completed. -/
structure SpanState (σ : Type) where
  guarded : Guarded σ
  exchanges : List Exchange := []
  completion : Option Completion := none

/-- A computation under the guard. -/
abbrev Span (σ : Type) (α : Type) : Type :=
  ExceptT Fault (StateM (SpanState σ)) α

namespace Span

variable {σ : Type}

/-- What a computation yields and leaves behind from a given state. -/
def exec {α : Type} (span : Span σ α) (s : SpanState σ) : Except Fault α × SpanState σ :=
  (ExceptT.run span).run s

def guarded : Span σ (Guarded σ) := do
  return (← get).guarded

/-- Changes the guarded state. -/
def update (f : Guarded σ → Guarded σ) : Span σ Unit :=
  modify fun s => { s with guarded := f s.guarded }

/-- Moves the connection on to a status. -/
def moveTo (status : Status) : Span σ Unit :=
  update ({ · with status })

/-- Fails on a connection that is closed. -/
def ensureOpen : Span σ Unit := do
  if (← guarded).isClosed then throw .closed

/-- Makes one call on the session. -/
def ask [WireSession σ] (call : Call) : Span σ call.Answer := do
  match (← guarded).session with
  | none => throw .closed
  | some session =>
    let (answer, session) := WireSession.respond call session
    modify fun s =>
      { s with
        guarded := { s.guarded with session := some session }
        exchanges := s.exchanges ++ [{ call, answer }] }
    return answer

/-- Turns a failure of the transport into a fault. -/
def sent {α : Type} : Except String α → Span σ α
  | .ok x => pure x
  | .error text => throw (.transport text)

/-- Takes over the messages that the session has collected. -/
def collectMessages [WireSession σ] : Span σ Unit := do
  let notices ← ask .takeNotices
  let notifications ← ask .takeNotifications
  update fun g => { g with stash := g.stash ++ { notices, notifications } }

/-- Ends the session, where there is one, and closes the connection. -/
def tearDown [WireSession σ] : Span σ Unit := do
  if (← guarded).session.isSome then
    collectMessages
    let _ ← ask .finish
  update fun g => { g with session := none, inFlight := none, status := .closed }

/-- Closes the connection if the span fails. -/
def orTearDown [WireSession σ] {α : Type} (span : Span σ α) : Span σ α :=
  tryCatch span fun fault => do
    tearDown
    throw fault

/-- Fetches results until none is left. -/
def fetchAll [WireSession σ] (session : σ) : List QueryResult × σ :=
  match _h : WireSession.respond .getResult session with
  | (none, session') => ([], session')
  | (some result, session') =>
    let (results, last) := fetchAll session'
    (result :: results, last)
termination_by WireSession.backlog session
decreasing_by
  have := WireSession.backlog_lt session result (by rw [_h])
  simpa [_h] using this

/-- The exchanges in which the given results, and no more, were fetched. -/
def fetchExchanges (results : List QueryResult) : List Exchange :=
  results.map (fun r => { call := .getResult, answer := some r })
    ++ [{ call := .getResult, answer := none }]

/-- Fetches every result that waits. -/
def askResults [WireSession σ] : Span σ (List QueryResult) := do
  match (← guarded).session with
  | none => throw .closed
  | some session =>
    let (results, session) := fetchAll session
    modify fun s =>
      { s with
        guarded := { s.guarded with session := some session }
        exchanges := s.exchanges ++ fetchExchanges results }
    return results

/-- Completes the statement in flight with an outcome for its owner. -/
def complete (flight : InFlight) (outcome : Except Fault (List QueryResult)) : Span σ Unit :=
  modify fun s =>
    { s with
      guarded := { s.guarded with inFlight := none }
      completion := some { owner := flight.owner, outcome } }

end Span

/-- What a span leaves behind once its guard is released. -/
structure SpanOutcome (σ : Type) (α : Type) where
  result : Except Fault α
  guarded : Guarded σ
  exchanges : List Exchange
  /-- The messages to deliver. -/
  batch : Batch
  completion : Option Completion

namespace Span

variable {σ α : Type} [WireSession σ]

/-- Takes over the messages of a session that is still there. -/
def collectRemaining : Span σ Unit := do
  if (← guarded).session.isSome then collectMessages

/-- Runs a span, and takes over the messages that it leaves to be delivered. -/
def run (span : Span σ α) (g : Guarded σ) : SpanOutcome σ α :=
  let (result, s) := span.exec { guarded := g }
  let (_, s) := collectRemaining.exec s
  { result
    guarded := { s.guarded with stash := .empty }
    exchanges := s.exchanges
    batch := s.guarded.stash
    completion := s.completion }

end Span

end SessionLayer
