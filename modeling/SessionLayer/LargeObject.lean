import SessionLayer.Fault
import SessionLayer.Sql
import SessionLayer.Text.Numeral
import SessionLayer.Wire.Answer

/-!
# Large objects

A large object is known by a number, its oid. It is created or imported where no oid is given, and then
opened unless the access mode says otherwise; each of the two is one statement whose single value is a
number.
-/

set_option autoImplicit false

namespace SessionLayer

/-- How a large object is opened. -/
inductive AccessMode where
  | read
  | write
  | readWrite
  /-- The object is only looked up or created. -/
  | noOpen
  deriving DecidableEq, Repr

namespace AccessMode

/-- The name of a mode in diagnostics. -/
def name : AccessMode → String
  | read => "Read"
  | write => "Write"
  | readWrite => "ReadWrite"
  | noOpen => "NoOpen"

/-- Reads a mode: both letters `rw` count where they come first, else the first letter alone. -/
def parse (text : String) : Except Fault AccessMode :=
  match text.toList with
  | 'r' :: 'w' :: _ => .ok readWrite
  | 'r' :: _ => .ok read
  | 'w' :: _ => .ok write
  | 'n' :: _ => .ok noOpen
  | _ => .error .unknownAccessMode

/-- The flags for the server; there are none for an object that is not opened. -/
def flags : AccessMode → Int
  | read => 0x40000
  | write => 0x20000
  | readWrite => 0x60000
  | noOpen => -1

end AccessMode

structure LargeObjectRequest where
  /-- The object to open, 0 to create one. -/
  oid : Nat
  mode : AccessMode
  /-- The oid for an object that is created, 0 to let the server choose. -/
  newOid : Nat
  /-- The file to import where an object is created. -/
  newFile : Option String
  deriving DecidableEq, Repr

structure LargeObject where
  /-- The key of its connection. -/
  connection : Nat
  oid : Nat
  mode : AccessMode
  /-- The descriptor of an object that is open. -/
  descriptor : Option Int
  deriving DecidableEq, Repr

namespace LargeObjectRequest

/-- The statement that creates the object, `none` where it exists. -/
def creation (r : LargeObjectRequest) : Option String :=
  if r.oid ≠ 0 then none
  else
    match r.newFile with
    | some file => some (Sql.importLargeObject file r.newOid)
    | none => some (Sql.createLargeObject r.newOid)

/-- The statement that opens the object, `none` where it is not opened. -/
def opening (r : LargeObjectRequest) (oid : Nat) : Option String :=
  if r.mode = .noOpen then none else some (Sql.openLargeObject oid r.mode.flags)

end LargeObjectRequest

namespace QueryResult

/-- The single value of a result as an oid. -/
def oid? (r : QueryResult) : Option Nat :=
  (r.value? 0 0).bind fun text => (Text.readUnsigned Text.maxUnsigned32 text.toList).toOption

/-- The single value of a result as a descriptor. -/
def descriptor? (r : QueryResult) : Option Int :=
  (r.value? 0 0).bind fun text => (Text.readSigned Text.maxSigned32 text.toList).toOption

end QueryResult

end SessionLayer
