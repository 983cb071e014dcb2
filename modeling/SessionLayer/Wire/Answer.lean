/-!
# What the wire answers

The values that a session of the wire protocol hands out: results of statements, notifications, and
the outcomes of its steps.
-/

set_option autoImplicit false

namespace SessionLayer

/-- How the server ended a statement. -/
inductive ResultStatus where
  | emptyQuery
  | commandOk
  | tuplesOk
  | nonfatalError
  | fatalError
  deriving DecidableEq, Repr

namespace ResultStatus

/-- Every status. -/
def all : List ResultStatus :=
  [emptyQuery, commandOk, tuplesOk, nonfatalError, fatalError]

def name : ResultStatus → String
  | emptyQuery => "EmptyQuery"
  | commandOk => "CommandOk"
  | tuplesOk => "TuplesOk"
  | nonfatalError => "NonfatalError"
  | fatalError => "FatalError"

/-- The status with the given name. -/
def ofName? (text : String) : Option ResultStatus :=
  all.find? (·.name == text)

end ResultStatus

/-- What a server says about a statement that it rejected. -/
structure ServerError where
  message : String
  state : Option String
  deriving DecidableEq, Repr

/-- The answer to one statement: rows of nullable texts, and an error where there is one. -/
structure QueryResult where
  status : ResultStatus
  rows : List (List (Option String)) := []
  error : Option ServerError := none
  deriving DecidableEq, Repr

namespace QueryResult

/-- A statement that succeeded without rows. -/
def commandOk : QueryResult := { status := .commandOk }

/-- A query that succeeded with rows. -/
def tuples (rows : List (List (Option String))) : QueryResult := { status := .tuplesOk, rows }

/-- A query that yielded a single value. -/
def single (value : String) : QueryResult := tuples [[some value]]

/-- A statement that the server rejected. -/
def fatal (message : String) (state : Option String) : QueryResult :=
  { status := .fatalError, error := some { message, state } }

/-- The text at a row and a column, `none` where it is null or outside of the rows. -/
def value? (r : QueryResult) (row column : Nat) : Option String :=
  (r.rows[row]?.bind (·[column]?)).join

/-- Whether the server rejected the statement. -/
def isError (r : QueryResult) : Bool :=
  r.status == .fatalError

/-- The error of a rejected statement, `none` for any other and where the server gave none. -/
def rejection? (r : QueryResult) : Option ServerError :=
  if r.isError then r.error else none

end QueryResult

/-- A message that another session sent over a channel. -/
structure Notification where
  pid : Int
  channel : String
  payload : String
  deriving DecidableEq, Repr

inductive HandshakeStep where
  /-- The socket has to become readable. -/
  | reading
  /-- The socket has to become writable. -/
  | writing
  | failed
  | established
  /-- A code outside the ones above. -/
  | unknown (code : Int)
  deriving DecidableEq, Repr

/-- Whether output that was queued has been written. -/
inductive FlushOutcome where
  | done
  | pending
  deriving DecidableEq, Repr

/-- What a caller waits for before it polls again. -/
inductive Readiness where
  /-- Nothing: the operation is complete. -/
  | complete
  /-- The socket has to become readable. -/
  | needRead
  /-- The socket has to become writable. -/
  | needWrite
  deriving DecidableEq, Repr

/-- The number by which callers know a readiness. -/
def Readiness.code : Readiness → Nat
  | complete => 0
  | needRead => 1
  | needWrite => 2

/-- The server's view of the transaction of a session. -/
inductive TransactionStatus where
  | idle
  /-- A statement is running. -/
  | active
  /-- Inside a block, and nothing failed in it. -/
  | inTransaction
  /-- Inside a block in which a statement failed. -/
  | inError
  /-- The session is broken. -/
  | unknown
  deriving DecidableEq, Repr, Inhabited

namespace TransactionStatus

/-- Every status. -/
def all : List TransactionStatus := [idle, active, inTransaction, inError, unknown]

def name : TransactionStatus → String
  | idle => "Idle"
  | active => "Active"
  | inTransaction => "InTransaction"
  | inError => "InError"
  | unknown => "Unknown"

/-- The status with the given name. -/
def ofName? (text : String) : Option TransactionStatus :=
  all.find? (·.name == text)

/-- The number by which callers know a status. -/
def code : TransactionStatus → Nat
  | idle => 0
  | active => 1
  | inTransaction => 2
  | inError => 3
  | unknown => 4

end TransactionStatus

end SessionLayer
