import SessionLayer.Wire.Answer

/-!
# Sessions of the wire protocol

The transport is not part of this library. It is seen as a state that answers calls, one `Call` at a
time; `WireSession` says what the library relies on, namely that the results which wait to be fetched
run out. A `Connector` makes sessions and names the calls that its log shows.
-/

set_option autoImplicit false

namespace SessionLayer

/-- A call on a session of the wire protocol. -/
inductive Call where
  /-- Advances the handshake by one step that does not block. -/
  | handshake
  /-- Asks for the text of the latest failure. -/
  | errorMessage
  /-- Asks for a parameter that the server reported. -/
  | parameter (name : String)
  | protocolVersion
  | serverVersion
  | backendPid
  | socket
  | transactionStatus
  /-- Queues a statement without waiting for the server. -/
  | send (sql : String)
  /-- Writes queued output without blocking. -/
  | flush
  /-- Reads what input there is without blocking. -/
  | consume
  /-- Asks whether fetching a result would block. -/
  | isBusy
  /-- Fetches the next result, if there is one left. -/
  | getResult
  /-- Runs a statement to completion; may block. -/
  | exec (sql : String)
  /-- Closes the session and reopens it; may block. -/
  | reset
  /-- Ends the session. -/
  | finish
  /-- Hands over the notices that were collected. -/
  | takeNotices
  /-- Hands over the notifications that were collected. -/
  | takeNotifications
  deriving DecidableEq, Repr

/-- What a call is answered with; a text as an error is a failure of the transport. -/
@[reducible] def Call.Answer : Call → Type
  | .handshake => HandshakeStep
  | .errorMessage => String
  | .parameter _ => Option String
  | .protocolVersion | .serverVersion | .backendPid | .socket => Int
  | .transactionStatus => TransactionStatus
  | .send _ | .consume | .reset => Except String Unit
  | .flush => Except String FlushOutcome
  | .isBusy => Bool
  | .getResult => Option QueryResult
  | .exec _ => Except String QueryResult
  | .finish => Unit
  | .takeNotices => List String
  | .takeNotifications => List Notification

/-- One call together with its answer. -/
structure Exchange where
  call : Call
  answer : call.Answer

/-- A state that answers calls. -/
class WireSession (σ : Type) where
  /-- The answer to a call, and the state after it. -/
  respond : (c : Call) → σ → c.Answer × σ
  /-- A bound on the results that wait to be fetched. -/
  backlog : σ → Nat
  /-- Fetching a result leaves fewer of them. -/
  backlog_lt : ∀ (s : σ) (r : QueryResult), (respond .getResult s).1 = some r →
    backlog (respond .getResult s).2 < backlog s

/-- A source of sessions. -/
class Connector (κ : Type) (σ : outParam Type) where
  /-- Establishes a session for a connection string, or only starts to where `blocking` is false. -/
  connect : (blocking : Bool) → (dsn : String) → κ → Except String σ × κ
  /-- What the log shows for an attempt to connect. -/
  connectEntry : κ → (blocking : Bool) → (dsn : String) → String
  /-- What the log shows for a call, `none` for calls that it leaves out. -/
  callEntry : κ → Call → Option String

end SessionLayer
