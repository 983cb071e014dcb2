import SessionLayer.DateStyle
import SessionLayer.Encoding
import SessionLayer.Wire.Answer

/-!
# The status of a connection

After the handshake a connection asks the server two questions, its date style and its client encoding.
`SetupQuery` holds what depends on which of the two is being asked, and `Status` says how far a
connection has come. `Status.rank` orders the statuses along the way that a connection takes.
-/

set_option autoImplicit false

namespace SessionLayer

/-- A question that is asked during the setup. -/
inductive SetupQuery where
  | dateStyle
  | clientEncoding
  deriving DecidableEq, Repr

namespace SetupQuery

/-- Both questions in the order in which they are asked. -/
def all : List SetupQuery := [dateStyle, clientEncoding]

/-- The statement that asks the question. -/
def statement : SetupQuery → String
  | dateStyle => "SHOW DATESTYLE"
  | clientEncoding => "SHOW client_encoding"

/-- The name of the parameter in question. -/
def parameter : SetupQuery → String
  | dateStyle => "datestyle"
  | clientEncoding => "client_encoding"

end SetupQuery

/-- How far a connection has come. -/
inductive Status where
  /-- Created; the handshake has not been started by a poll. -/
  | setup
  /-- In the handshake. -/
  | handshake
  /-- About to submit a question. -/
  | asking (query : SetupQuery)
  /-- A question is submitted, and part of it not written yet. -/
  | writing (query : SetupQuery)
  /-- Waits for the answer to a question. -/
  | awaiting (query : SetupQuery)
  /-- Usable, outside of a transaction block. -/
  | ready
  /-- Usable, inside of a transaction block. -/
  | inBlock
  | closed
  deriving DecidableEq, Repr

namespace Status

/-- Every status, in the order in which a connection can pass through them. -/
def all : List Status :=
  [setup, handshake, asking .dateStyle, writing .dateStyle, awaiting .dateStyle,
    asking .clientEncoding, writing .clientEncoding, awaiting .clientEncoding, ready, inBlock,
    closed]

/-- The name of a status in diagnostics. -/
def name : Status → String
  | setup => "setup"
  | handshake => "async"
  | asking q => "send_" ++ q.parameter
  | writing q => "sent_" ++ q.parameter
  | awaiting q => "get_" ++ q.parameter
  | ready => "ready"
  | inBlock => "begin"
  | closed => "closed"

/-- The status with the given name. -/
def ofName? (text : String) : Option Status :=
  all.find? (·.name == text)

/-- Whether the setup is complete and statements may be issued. -/
def isUsable : Status → Bool
  | ready | inBlock => true
  | _ => false

/-- Whether the handshake or the setup is still going on. -/
def isConnecting : Status → Bool
  | ready | inBlock | closed => false
  | _ => true

/-- The stage of the setup that a status belongs to; it never falls on the way. -/
def rank : Status → Nat
  | setup => 0
  | handshake => 1
  | asking .dateStyle => 2
  | writing .dateStyle => 3
  | awaiting .dateStyle => 4
  | asking .clientEncoding => 5
  | writing .clientEncoding => 6
  | awaiting .clientEncoding => 7
  | ready | inBlock => 8
  | closed => 9

theorem ofName?_name (s : Status) : ofName? s.name = some s := by
  cases s with
  | asking q => cases q <;> decide +kernel
  | writing q => cases q <;> decide +kernel
  | awaiting q => cases q <;> decide +kernel
  | _ => decide +kernel

end Status

end SessionLayer
