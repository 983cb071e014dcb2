import SessionLayer.Connection.Status
import SessionLayer.Isolation
import SessionLayer.Mailbox.Batch
import SessionLayer.Wire.Session

/-!
# What the guard of a connection protects

The session itself, how far the connection has come, the statement in flight, and what is known about
the server. `Guarded.fresh` is the state before anything has happened.
-/

set_option autoImplicit false

namespace SessionLayer

/-- Who receives the outcome of a statement that was submitted; not kept alive by it. -/
inductive QueryOwner where
  | cursor (key : Nat)
  | listener (key : Nat)
  /-- An owner that was gone before the statement was submitted. -/
  | departed
  deriving DecidableEq, Repr

/-- How far a submitted statement has come. -/
inductive QueryPhase where
  /-- Part of its text has not been written yet. -/
  | writing
  /-- The server's results are awaited. -/
  | reading
  deriving DecidableEq, Repr

/-- The one statement that a connection has submitted and not completed. -/
structure InFlight where
  owner : QueryOwner
  phase : QueryPhase
  deriving DecidableEq, Repr

/-- What the setup has found out so far. -/
structure SetupProgress where
  standardConformingStrings : Bool := false
  serverVersion : Int := 0
  protocolVersion : Int := 0
  dateStyle : Option DateStyle := none
  encoding : Option String := none
  deriving DecidableEq, Repr

/-- What is known about the session once the setup is complete. -/
structure SessionInfo where
  dateStyle : DateStyle
  /-- The client encoding, in upper case. -/
  encoding : String
  serverVersion : Int
  protocolVersion : Int
  standardConformingStrings : Bool
  deriving DecidableEq, Repr

/-- The outcome of a statement that was submitted, on its way to the owner. -/
structure Completion where
  owner : QueryOwner
  outcome : Except Fault (List QueryResult)

/-- Everything that one guarded span at a time may touch. -/
structure Guarded (σ : Type) where
  session : Option σ := none
  status : Status := .setup
  inFlight : Option InFlight := none
  progress : SetupProgress := {}
  info : Option SessionInfo := none
  isolation : Isolation
  /-- Messages that were saved from a session that ended within the span. -/
  stash : Batch := .empty

namespace Guarded

variable {σ : Type}

/-- The state of a connection that has just been created. -/
def fresh (isolation : Isolation) : Guarded σ :=
  { isolation }

def isClosed (g : Guarded σ) : Bool :=
  g.status == .closed

end Guarded

end SessionLayer
