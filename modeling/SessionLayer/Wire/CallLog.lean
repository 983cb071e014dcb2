/-!
# Logs of calls

A log lists the calls on a connector and on its sessions, each by its entry, in the order in which they
were made.
-/

set_option autoImplicit false

namespace SessionLayer

/-- The entries of the calls so far, in order. -/
structure CallLog where
  calls : List String := []

namespace CallLog

/-- Appends a call. -/
def record (log : CallLog) (call : String) : CallLog :=
  { calls := log.calls ++ [call] }

/-- Appends a call if it is one that the log shows. -/
def record? (log : CallLog) (call : Option String) : CallLog :=
  call.elim log log.record

/-- Whether a call was made. -/
def contains (log : CallLog) (call : String) : Bool :=
  log.calls.contains call

/-- The number of calls whose entry starts with a text. -/
def count (log : CallLog) (start : String) : Nat :=
  log.calls.countP fun call => start.toList.isPrefixOf call.toList

/-- The number of calls. -/
def size (log : CallLog) : Nat :=
  log.calls.length

/-- Whether no call was made. -/
def isEmpty (log : CallLog) : Bool :=
  log.calls.isEmpty

end CallLog

end SessionLayer
