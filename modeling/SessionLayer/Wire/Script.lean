import SessionLayer.Wire.Session

/-!
# Scripted sessions

A script says how a server behaves: what it answers to which statement, where the transport fails, and
how often a statement has to be flushed and polled. A scripted session follows its script and keeps
track of the transaction that the statements it accepted have opened.
-/

set_option autoImplicit false

namespace SessionLayer

/-- The behaviour of a server. In the tables the entry nearest to the front counts. -/
structure Script where
  connectFailure : Option String := none
  /-- The outcomes of the first steps of the handshake; all later ones establish the session. -/
  handshake : List HandshakeStep := []
  /-- What is said about a handshake that failed. -/
  handshakeText : String := ""
  parameters : List (String × String) := [("standard_conforming_strings", "on")]
  /-- Results by statement; any other statement succeeds without rows. -/
  answers : List (String × QueryResult) :=
    [("SHOW DATESTYLE", .single "ISO, MDY"), ("SHOW client_encoding", .single "UTF8")]
  /-- Failures of the transport by statement. -/
  failures : List (String × String) := []
  /-- Notices that are raised while a statement runs. -/
  notices : List (String × List String) := []
  /-- Notifications that the first reading of input brings. -/
  notifications : List Notification := []
  /-- How often reading input leaves a submitted statement busy. -/
  busyRounds : Nat := 0
  /-- How often flushing a submitted statement leaves output pending. -/
  pendingFlushes : Nat := 0
  resetFailure : Option String := none
  serverVersion : Int := 160002
  protocolVersion : Int := 3
  backendPid : Int := 4242
  socket : Int := 7

namespace Script

/-- The result of a statement that the transport lets through. -/
def answer (script : Script) (sql : String) : QueryResult :=
  (script.answers.lookup sql).getD .commandOk

end Script

structure ScriptedSession where
  script : Script
  /-- The steps of the handshake that are left. -/
  handshake : List HandshakeStep
  results : List QueryResult := []
  busyLeft : Nat := 0
  flushesLeft : Nat := 0
  notices : List String := []
  /-- Notifications that have not been read yet. -/
  incoming : List Notification
  /-- Notifications that have been read. -/
  arrived : List Notification := []
  transaction : TransactionStatus := .idle

namespace ScriptedSession

/-- A session that has just been made. -/
def start (script : Script) (handshake : List HandshakeStep) : ScriptedSession :=
  { script, handshake, incoming := script.notifications }

/-- The transaction after a statement with the given result. -/
def transactionAfter (current : TransactionStatus) (sql : String) (result : QueryResult) :
    TransactionStatus :=
  if result.isError then
    if current = .inTransaction then .inError else current
  else if "BEGIN".toList.isPrefixOf sql.toList then .inTransaction
  else if sql = "COMMIT" ∨ sql = "ROLLBACK" then .idle
  else current

/-- Runs a statement; one that fails in the transport has no effect. -/
def run (s : ScriptedSession) (sql : String) : Except String QueryResult × ScriptedSession :=
  match s.script.failures.lookup sql with
  | some text => (.error text, s)
  | none =>
    let result := s.script.answer sql
    (.ok result,
      { s with
        notices := s.notices ++ (s.script.notices.lookup sql).getD []
        transaction := transactionAfter s.transaction sql result })

def submit (s : ScriptedSession) (sql : String) : Except String Unit × ScriptedSession :=
  match s.run sql with
  | (.error text, s) => (.error text, s)
  | (.ok result, s) =>
    (.ok (),
      { s with
        results := s.results ++ [result]
        busyLeft := s.script.busyRounds + 1
        flushesLeft := s.script.pendingFlushes })

/-- The answer to a call, and the session after it. -/
def respond : (c : Call) → ScriptedSession → c.Answer × ScriptedSession
  | .handshake, s => (s.handshake.headD .established, { s with handshake := s.handshake.tail })
  | .errorMessage, s => (s.script.handshakeText, s)
  | .parameter name, s => (s.script.parameters.lookup name, s)
  | .protocolVersion, s => (s.script.protocolVersion, s)
  | .serverVersion, s => (s.script.serverVersion, s)
  | .backendPid, s => (s.script.backendPid, s)
  | .socket, s => (s.script.socket, s)
  | .transactionStatus, s => (s.transaction, s)
  | .send sql, s => s.submit sql
  | .flush, s =>
    if s.flushesLeft = 0 then (.ok .done, s)
    else (.ok .pending, { s with flushesLeft := s.flushesLeft - 1 })
  | .consume, s =>
    (.ok (),
      { s with
        busyLeft := s.busyLeft - 1
        incoming := []
        arrived := s.arrived ++ s.incoming })
  | .isBusy, s => (0 < s.busyLeft, s)
  | .getResult, s => (s.results.head?, { s with results := s.results.tail })
  | .exec sql, s => s.run sql
  | .reset, s =>
    (match s.script.resetFailure with
      | some text => .error text
      | none => .ok (),
      { s with transaction := .idle })
  | .finish, s => ((), s)
  | .takeNotices, s => (s.notices, { s with notices := [] })
  | .takeNotifications, s => (s.arrived, { s with arrived := [] })

instance : WireSession ScriptedSession where
  respond := respond
  backlog s := s.results.length
  backlog_lt s r h := by
    cases hr : s.results with
    | nil => simp [respond, hr] at h
    | cons x xs => simp [respond, hr]

end ScriptedSession

namespace Script

/-- What the log of a script shows for a call: those that talk to the server. -/
def callEntry : Call → Option String
  | .handshake => some "connect_poll"
  | .send sql => some ("send_query:" ++ sql)
  | .flush => some "flush"
  | .consume => some "consume_input"
  | .exec sql => some ("exec:" ++ sql)
  | .reset => some "reset"
  | .finish => some "finish"
  | _ => none

instance : Connector Script ScriptedSession where
  connect blocking _ script :=
    (match script.connectFailure with
      | some text => .error text
      | none => .ok (.start script (if blocking then [] else script.handshake)),
      script)
  connectEntry _ blocking _ := if blocking then "connect" else "connect_start"
  callEntry _ := callEntry

end Script

end SessionLayer
