import SessionLayer.Connection.Polling
import SessionLayer.Dsn
import SessionLayer.Mailbox
import SessionLayer.Settings

/-!
# Connections

A connection is a guarded session with a mailbox. `Operation` lists what can be asked of it, each
operation being one guarded span (`Connection.span`); `Connection.perform` runs the span and says what
remains to be done once the guard is released: messages to deliver and an outcome for an owner.
-/

set_option autoImplicit false

namespace SessionLayer

/-- A connection: its fixed properties, what its guard protects, and its mailbox. -/
structure Connection (σ : Type) where
  /-- Tells connections apart; later ones have greater keys. -/
  key : Nat
  /-- The connection string, with the password masked. -/
  dsn : String
  asynchronous : Bool
  /-- The isolation level of a blocking connection after its setup. -/
  defaultIsolation : Isolation
  /-- Whether the hook of the embedder is wrapped around spans that may block. -/
  hooked : Bool
  guarded : Guarded σ
  /-- The mailbox; observers are known by their keys. -/
  mailbox : Mailbox Nat

/-- What can be asked of a connection, in one guarded span each. -/
inductive Operation where
  | poll
  | close
  | reset
  | commit
  | rollback
  | setIsolation (level : Int)
  | setClientEncoding (name : String)
  | execute (sql : String)
  | submit (sql : String) (owner : QueryOwner)
  | transactionStatus
  | parameterStatus (name : String)
  | backendPid
  | socket
  | isExecuting
  /-- Whether a cursor may be made now. -/
  | admitCursor
  /-- Whether a large object may be opened now. -/
  | admitLargeObject
  deriving DecidableEq, Repr

/-- What an operation yields when it succeeds. -/
@[reducible] def Operation.Answer : Operation → Type
  | .poll => Readiness
  | .execute _ => QueryResult
  | .transactionStatus => TransactionStatus
  | .parameterStatus _ => Option String
  | .backendPid | .socket => Int
  | .isExecuting => Bool
  | _ => Unit

namespace Connection

variable {σ : Type}

/-- The isolation level that the setup ends with; an asynchronous connection knows no other than
autocommit. -/
def setupIsolation (c : Connection σ) : Isolation :=
  if c.asynchronous then .autocommit else c.defaultIsolation

/-- A connection that has no session yet. -/
def create (key : Nat) (dsn : String) (asynchronous hooked : Bool) (settings : Settings) :
    Connection σ :=
  { key
    dsn := Dsn.redact dsn
    asynchronous
    defaultIsolation := settings.isolation
    hooked
    guarded := .fresh (if asynchronous then .autocommit else settings.isolation)
    mailbox := .create settings.noticeCapacity settings.notificationCapacity }

/-- A connection that is about to be opened, in one line, for diagnostics. -/
def request (dsn : String) (asynchronous : Bool) (settings : Settings) : String :=
  "ConnectionBuilder \x7b dsn: " ++ Text.quoted (Dsn.redact dsn) ++ ", async_mode: "
    ++ Settings.flag asynchronous ++ ", config: " ++ settings.diagnostic ++ ", .. \x7d"

def isClosed (c : Connection σ) : Bool :=
  c.guarded.isClosed

/-- The connection in one line, for readers. -/
def display (c : Connection σ) : String :=
  "Connection(dsn='" ++ c.dsn ++ "', closed=" ++ Settings.flag c.isClosed ++ ")"

/-- The connection in one line, for diagnostics; the key is written as given. -/
def diagnostic (c : Connection σ) (keyText : String) : String :=
  "Connection \x7b id: ConnectionId(" ++ keyText ++ "), dsn: " ++ Text.quoted c.dsn
    ++ ", async_mode: " ++ Settings.flag c.asynchronous
    ++ ", lock: SessionLock \x7b locked: false, .. \x7d, .. \x7d"

/-- Fails on an asynchronous connection. -/
def ensureBlocking (c : Connection σ) (operation : String) : Span σ Unit :=
  if c.asynchronous then throw (.blockingOnly operation) else pure ()

variable [WireSession σ]

/-- A span of a blocking connection that is open. -/
def blocking {α : Type} (c : Connection σ) (operation : String) (span : Span σ α) : Span σ α := do
  Span.ensureOpen
  c.ensureBlocking operation
  span

/-- One question to the session of a connection that is open. -/
def query (call : Call) : Span σ call.Answer := do
  Span.ensureOpen
  Span.ask call

def span (c : Connection σ) : (op : Operation) → Span σ op.Answer
  | .poll => Span.poll c.asynchronous c.setupIsolation
  | .close => do
    if !(← Span.guarded).isClosed then Span.tearDown
  | .reset => c.blocking "reset" (Span.reopen c.setupIsolation)
  | .commit => c.blocking "commit" (Span.endBlock Sql.commit)
  | .rollback => c.blocking "rollback" (Span.endBlock Sql.rollback)
  | .setIsolation level => c.blocking "set_isolation_level" (Span.setIsolation level)
  | .setClientEncoding name => c.blocking "set_client_encoding" (Span.setClientEncoding name)
  | .execute sql => c.blocking "execute" (Span.execute sql)
  | .submit sql owner => do
    Span.ensureOpen
    if !c.asynchronous then throw .asynchronousOnly
    Span.submit sql owner
  | .transactionStatus => query .transactionStatus
  | .parameterStatus name => query (.parameter name)
  | .backendPid => query .backendPid
  | .socket => query .socket
  | .isExecuting => do
    Span.ensureOpen
    let g ← Span.guarded
    return c.asynchronous && (g.status.isConnecting || g.inFlight.isSome)
  | .admitCursor => do
    Span.ensureOpen
    if !(← Span.guarded).status.isUsable then throw .setupUnderway
  | .admitLargeObject => c.blocking "lobject" do
    if !(← Span.guarded).status.isUsable then throw .setupUnderway

/-- Whether an operation may block, so that its span belongs inside of the embedder's hook. -/
def mayBlock (c : Connection σ) : Operation → Bool
  | .poll => c.guarded.status == .handshake
  | .close | .reset | .commit | .rollback | .setIsolation _ | .setClientEncoding _ | .execute _ =>
    true
  | _ => false

/-- Runs an operation's span on the guarded state of a connection. -/
def perform (c : Connection σ) (op : Operation) : SpanOutcome σ op.Answer :=
  (c.span op).run c.guarded

end Connection

end SessionLayer
