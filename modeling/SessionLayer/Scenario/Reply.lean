import SessionLayer.Cursor
import SessionLayer.LargeObject
import SessionLayer.Scenario.Step

/-!
# What steps answer

Each step of a scenario answers with a `Reply`. Steps, callbacks and calls on the wire leave `Event`s
behind, which together are the trace of a scenario.
-/

set_option autoImplicit false

namespace SessionLayer.Scenario

/-- The kinds of things that a step may look for in vain. -/
inductive Missing where
  | connection
  | cursor
  | largeObject
  | owner
  deriving DecidableEq, Repr

/-- The word for a kind of thing. -/
def Missing.word : Missing → String
  | connection => "conn"
  | cursor => "cursor"
  | largeObject => "lob"
  | owner => "owner"

/-- What the accessors of a connection show. -/
structure Profile where
  dsn : String
  asynchronous : Bool
  info : Option SessionInfo
  display : String
  diagnostic : String
  faultKinds : List FaultKind

/-- The answer of a step. -/
inductive Reply where
  /-- Something that the step is about does not exist. -/
  | missing (what : Missing)
  | fault (f : Fault)
  | done
  | readiness (r : Readiness)
  /-- What the polls of a drive answered, and the fault of the last one. -/
  | driven (answers : List Readiness) (failure : Option Fault)
  | result (r : QueryResult)
  | results (rs : List QueryResult)
  | flag (b : Bool)
  | number (n : Int)
  | text (t : Option String)
  | texts (ts : List String)
  | notifications (ns : List Notification)
  | transaction (s : TransactionStatus)
  | info (i : Option SessionInfo)
  | profile (p : Profile)
  | ordering (o : Ordering)
  /-- A cursor: its name, whether its connection is closed, and whether it reports its connection. -/
  | cursor (name : Option String) (isClosed reportsConnection : Bool)
  | largeObject (object : LargeObject)
  /-- A large object, whether its connection is closed, and whether it reports its connection. -/
  | largeObjectInfo (object : LargeObject) (isClosed reportsConnection : Bool)
  /-- Whether a cursor factory was called, and the name of what came of it. -/
  | cursorMade (called : Bool) (made : Except Fault (Option String))
  /-- What a large-object factory was handed and whether its connection was closed, if it was called,
  and the oid of what came of it. -/
  | largeObjectMade (handed : Option (LargeObjectRequest × Bool)) (made : Except Fault Nat)

namespace Reply

/-- The reply for an outcome, given the reply for a success. -/
def ofExcept {α : Type} (reply : α → Reply) : Except Fault α → Reply
  | .ok x => reply x
  | .error f => .fault f

/-- The reply for the answer of an operation. -/
def ofAnswer : (op : Operation) → op.Answer → Reply
  | .poll, r => .readiness r
  | .execute _, r => .result r
  | .transactionStatus, s => .transaction s
  | .parameterStatus _, t => .text t
  | .backendPid, n | .socket, n => .number n
  | .isExecuting, b => .flag b
  | .close, _ | .reset, _ | .commit, _ | .rollback, _ | .setIsolation _, _
  | .setClientEncoding _, _ | .submit _ _, _ | .admitCursor, _ | .admitLargeObject, _ => .done

end Reply

/-- What an observer or an owner is told. -/
inductive Signal where
  | notice (text : String)
  | complete (outcome : Except Fault (List QueryResult))

/-- Something that happened. -/
inductive Event where
  /-- A connection was attempted; `failure` is the text with which it failed. -/
  | connected (connection : Nat) (blocking : Bool) (dsn : String) (failure : Option String)
  /-- A call on the session of a connection. -/
  | exchanged (connection : Nat) (exchange : Exchange)
  | hookEntered (connection : Nat)
  | hookLeft (connection : Nat)
  /-- Messages went into a mailbox, to be seen by the given observers. -/
  | absorbed (connection : Nat) (batch : Batch) (audience : List Nat)
  /-- An observer or an owner of the given name was told something. -/
  | signalled (listener : Nat) (id : String) (signal : Signal)
  /-- A cursor was told the outcome of its statement. -/
  | cursorCompleted (cursor : Nat) (outcome : Except Fault (List QueryResult))
  /-- An outcome had no owner left. -/
  | discarded (outcome : Except Fault (List QueryResult))
  /-- A step of an observer or an owner answered. -/
  | stepped (id : String) (index : Nat) (reply : Reply)

end SessionLayer.Scenario
