import SessionLayer.Wire.Session

/-!
# Replayed sessions

A replayed session answers every call from a list of prepared answers, one list for each kind of call,
and with a default once the list is used up. It has no logic of its own, so it can show a connection
any behaviour of a server, sensible or not.
-/

set_option autoImplicit false

namespace SessionLayer

/-- One prepared outcome: messages that are raised, and then a failure or a result. -/
structure ReplayEntry where
  notices : List String := []
  notifications : List Notification := []
  failure : Option String := none
  /-- Whether output stays pending, for a flush. -/
  pending : Bool := false
  /-- The result, for a statement that is run. -/
  result : QueryResult := .commandOk

/-- Prepared answers by kind of call, and the messages that were raised so far. -/
structure ReplaySession where
  handshake : List HandshakeStep := []
  errorMessage : String := ""
  parameters : List (String × String) := []
  protocolVersion : Int := 0
  serverVersion : Int := 0
  backendPid : Int := 0
  socket : Int := 0
  transactions : List TransactionStatus := []
  sends : List ReplayEntry := []
  flushes : List ReplayEntry := []
  readings : List ReplayEntry := []
  busy : List Bool := []
  results : List (Option QueryResult) := []
  runs : List ReplayEntry := []
  resets : List ReplayEntry := []
  notices : List String := []
  notifications : List Notification := []

namespace ReplaySession

/-- Raises the messages of an entry. -/
def raise (s : ReplaySession) (e : ReplayEntry) : ReplaySession :=
  { s with
    notices := s.notices ++ e.notices
    notifications := s.notifications ++ e.notifications }

/-- The outcome of an entry that yields `x` where it does not fail. -/
def outcome {α : Type} (e : ReplayEntry) (x : α) : Except String α :=
  match e.failure with
  | some text => .error text
  | none => .ok x

/-- The entry at the front of a list, or the default one. -/
def front (entries : List ReplayEntry) : ReplayEntry :=
  entries.headD {}

/-- The answer to a call, and the session after it. -/
def respond : (c : Call) → ReplaySession → c.Answer × ReplaySession
  | .handshake, s => (s.handshake.headD .established, { s with handshake := s.handshake.tail })
  | .errorMessage, s => (s.errorMessage, s)
  | .parameter name, s => (s.parameters.lookup name, s)
  | .protocolVersion, s => (s.protocolVersion, s)
  | .serverVersion, s => (s.serverVersion, s)
  | .backendPid, s => (s.backendPid, s)
  | .socket, s => (s.socket, s)
  | .transactionStatus, s =>
    (s.transactions.headD .idle, { s with transactions := s.transactions.tail })
  | .send _, s =>
    (outcome (front s.sends) (), { s with sends := s.sends.tail }.raise (front s.sends))
  | .flush, s =>
    (outcome (front s.flushes) (if (front s.flushes).pending then .pending else .done),
      { s with flushes := s.flushes.tail }.raise (front s.flushes))
  | .consume, s =>
    (outcome (front s.readings) (), { s with readings := s.readings.tail }.raise (front s.readings))
  | .isBusy, s => (s.busy.headD false, { s with busy := s.busy.tail })
  | .getResult, s => (s.results.head?.join, { s with results := s.results.tail })
  | .exec _, s =>
    (outcome (front s.runs) (front s.runs).result,
      { s with runs := s.runs.tail }.raise (front s.runs))
  | .reset, s =>
    (outcome (front s.resets) (), { s with resets := s.resets.tail }.raise (front s.resets))
  | .finish, s => ((), s)
  | .takeNotices, s => (s.notices, { s with notices := [] })
  | .takeNotifications, s => (s.notifications, { s with notifications := [] })

instance : WireSession ReplaySession where
  respond := respond
  backlog s := s.results.length
  backlog_lt s r h := by
    cases hr : s.results with
    | nil => simp [respond, hr] at h
    | cons x xs => simp [respond, hr]

end ReplaySession

/-- A source of replayed sessions: outcomes of the attempts to connect, and what each session gets. -/
structure Replay where
  /-- For each attempt the failure that it ends with, if it fails. -/
  attempts : List (Option String) := []
  session : ReplaySession := {}

namespace Replay

/-- What the log of a replay shows for a call. -/
def callEntry : Call → Option String
  | .handshake => some "connect_poll"
  | .errorMessage => some "error_message"
  | .parameter name => some ("parameter_status:" ++ name)
  | .send sql => some ("send_query:" ++ sql)
  | .flush => some "flush"
  | .consume => some "consume_input"
  | .isBusy => some "is_busy"
  | .getResult => some "get_result"
  | .exec sql => some ("exec:" ++ sql)
  | .reset => some "reset"
  | .finish => some "finish"
  | _ => none

instance : Connector Replay ReplaySession where
  connect _ _ replay :=
    (match replay.attempts.head?.join with
      | some text => .error text
      | none => .ok replay.session,
      { replay with attempts := replay.attempts.tail })
  connectEntry _ blocking dsn := (if blocking then "connect:" else "connect_start:") ++ dsn
  callEntry _ := callEntry

end Replay

end SessionLayer
