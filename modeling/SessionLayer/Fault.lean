import SessionLayer.Fault.SqlState

/-!
# Faults of a session

`Fault` lists the causes for which an operation of a session is refused or fails. The class of a fault
and its wording are functions of the cause, so two faults with one cause never read differently.
-/

set_option autoImplicit false

namespace SessionLayer

/-- Why an operation was refused or failed. -/
inductive Fault where
  /-- The connection is closed. -/
  | closed
  /-- A blocking operation was asked of an asynchronous connection. -/
  | blockingOnly (operation : String)
  /-- A statement was submitted on a blocking connection. -/
  | asynchronousOnly
  /-- The asynchronous connection is still being set up. -/
  | setupUnderway
  /-- Another statement is in flight. -/
  | queryInProgress
  /-- A blocking connection was polled before its setup. -/
  | noAttempt
  /-- The transport failed with the given text. -/
  | transport (text : String)
  /-- The handshake failed with the given text. -/
  | handshakeFailed (text : String)
  /-- The handshake answered with a code that has no meaning. -/
  | handshakeUnknown (code : Int)
  /-- The server rejected a command. -/
  | rejected (state : Option String) (text : String)
  /-- The server rejected a query of the setup. -/
  | setupRejected (text : String)
  /-- A query of the setup did not yield exactly one value. -/
  | cannotFetch (parameter : String)
  /-- The server reported a date style without an output format. -/
  | unreadableDateStyle (text : String)
  /-- An isolation level outside the known ones. -/
  | levelOutOfBounds
  /-- An access mode of large objects that does not start with a known letter. -/
  | unknownAccessMode
  /-- A named cursor was asked of an asynchronous connection. -/
  | namedCursorAsynchronous
  /-- A named cursor was used outside of transactions. -/
  | namedCursorAutocommit
  /-- A large object was used outside of transactions. -/
  | largeObjectAutocommit
  /-- The answer to `statement` is not a number of the expected range. -/
  | unexpectedAnswer (statement : String)
  /-- A cursor factory made a cursor of another connection or another name. -/
  | foreignCursor
  /-- A large-object factory made an object of another connection. -/
  | foreignLargeObject
  /-- A fault that a caller raised on its own. -/
  | raised (cls : FaultClass) (text : String)
  deriving DecidableEq, Repr

namespace Fault

/-- The class of a fault. -/
def cls : Fault → FaultClass
  | closed => .interface
  | blockingOnly _ | asynchronousOnly | queryInProgress | noAttempt | namedCursorAsynchronous
  | namedCursorAutocommit | largeObjectAutocommit => .programming
  | setupUnderway | transport _ | handshakeFailed _ | setupRejected _ | cannotFetch _
  | unreadableDateStyle _ | unexpectedAnswer _ => .operational
  | handshakeUnknown _ => .unexpectedState
  | rejected state _ => SqlState.classify state
  | levelOutOfBounds => .value
  | unknownAccessMode | foreignCursor | foreignLargeObject => .type
  | raised c _ => c

/-- The wording of a fault; where a server or the transport spoke, its text as it is. -/
def message : Fault → String
  | closed => "connection already closed"
  | blockingOnly operation => operation ++ " cannot be used in asynchronous mode"
  | asynchronousOnly => "send_query requires an asynchronous connection"
  | setupUnderway => "asynchronous connection attempt underway"
  | queryInProgress => "another asynchronous query is in progress"
  | noAttempt => "poll() called on a connection with no asynchronous attempt"
  | transport text | handshakeFailed text | rejected _ text | setupRejected text | raised _ text =>
      text
  | handshakeUnknown code => "unexpected result from handshake poll: " ++ toString code
  | cannotFetch parameter => "can't fetch " ++ parameter
  | unreadableDateStyle text => "can't parse datestyle '" ++ text ++ "'"
  | levelOutOfBounds => "isolation level out of bounds (0,3)"
  | unknownAccessMode => "mode should be one of 'r', 'w' or 'rw'"
  | namedCursorAsynchronous => "asynchronous connections cannot produce named cursors"
  | namedCursorAutocommit => "can't use a named cursor outside of transactions"
  | largeObjectAutocommit => "can't use a lobject outside of transactions"
  | unexpectedAnswer statement => "unexpected result from '" ++ statement ++ "'"
  | foreignCursor => "cursor factory must return a cursor bound to this connection"
  | foreignLargeObject => "lobject factory must return a large object bound to this connection"

/-- A fault as it is shown to a reader: its heading, a colon and its wording. -/
def display (f : Fault) : String :=
  f.cls.heading ++ ": " ++ f.message

end Fault

end SessionLayer
