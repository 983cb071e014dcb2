import SessionLayer.Connection

/-!
# Cursors

A cursor runs statements on one connection and keeps the outcome of the latest. On a blocking
connection a named cursor declares a cursor of the server instead of running its query.
-/

set_option autoImplicit false

namespace SessionLayer

structure CursorState where
  /-- The outcome of the latest statement, where there is one. -/
  outcome : Option (Except Fault (List QueryResult)) := none
  /-- Whether a submitted statement has not been completed. -/
  executing : Bool := false

structure Cursor where
  /-- The key of its connection. -/
  connection : Nat
  /-- The name of the cursor of the server that it declares, if it does. -/
  name : Option String
  state : CursorState := {}

namespace Cursor

/-- The statement that a cursor runs on a blocking connection for a query. -/
def statement (c : Cursor) (query : String) : String :=
  match c.name with
  | some name => Sql.declareCursor name query
  | none => query

/-- The results of the latest statement, none before the first and while one is executing. -/
def results (c : Cursor) : Except Fault (List QueryResult) :=
  c.state.outcome.getD (.ok [])

/-- The cursor after a statement has come to an end. -/
def completed (c : Cursor) (outcome : Except Fault (List QueryResult)) : Cursor :=
  { c with state := { outcome := some outcome, executing := false } }

/-- The cursor with a statement that has not come to an end. -/
def started (c : Cursor) : Cursor :=
  { c with state := { outcome := none, executing := true } }

end Cursor

end SessionLayer
