import SessionLayer.Connection.Span
import SessionLayer.Sql

/-!
# Statements on a blocking connection

A statement is run to completion inside of a span. At a transactional isolation level a block is opened
before the first statement, and it stays open until it is committed or rolled back.
-/

set_option autoImplicit false

namespace SessionLayer.Span

variable {σ : Type} [WireSession σ]

/-- Runs a statement; one that the server rejects is a fault, classified by its state. -/
def command (sql : String) : Span σ QueryResult := do
  let result ← sent (← ask (.exec sql))
  match result.rejection? with
  | some rejection => throw (.rejected rejection.state rejection.message)
  | none => return result

/-- Opens a transaction block where the isolation level asks for one and none is open. -/
def beginIfNeeded : Span σ Unit := do
  let g ← guarded
  if g.status = .ready then
    match g.isolation.beginStatement with
    | none => pure ()
    | some statement =>
      let _ ← command statement
      moveTo .inBlock

/-- Ends the transaction block with a statement, if one is open. -/
def endBlock (statement : String) : Span σ Unit := do
  let g ← guarded
  if g.isolation ≠ .autocommit ∧ g.status = .inBlock then
    let _ ← command statement
    moveTo .ready

/-- Runs a statement, in a transaction block where the level asks for one. -/
def execute (sql : String) : Span σ QueryResult := do
  beginIfNeeded
  command sql

/-- Switches to the level that a number names; leaving a transactional level undoes an open block. -/
def setIsolation (level : Int) : Span σ Unit := do
  let target ← Isolation.ofLevel level
  let current := (← guarded).isolation
  if target ≠ current then
    if current ≠ .autocommit then endBlock Sql.rollback
    update ({ · with isolation := target })

/-- Switches to another client encoding; an open block is undone. The current one is left as it is. -/
def setClientEncoding (name : String) : Span σ Unit := do
  let encoding := Encoding.normalize name
  if (← guarded).info.map (·.encoding) ≠ some encoding then
    endBlock Sql.rollback
    let _ ← command (Sql.setClientEncoding encoding)
    update fun g => { g with info := g.info.map ({ · with encoding }) }

end SessionLayer.Span
