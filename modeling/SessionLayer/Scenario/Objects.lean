import SessionLayer.Scenario.Perform

/-!
# Cursors and large objects in a world

Cursors and large objects are made by factories, which a client may replace by its own. A factory is
called only once every precondition holds, and what it makes is accepted only if it reports to be bound
to the connection that asked for it.
-/

set_option autoImplicit false

namespace SessionLayer.Scenario

/-- What a factory was handed, if it was called, and what came of it. -/
structure Making (ι α : Type) where
  handed : Option ι
  made : Except Fault α

namespace World

variable {κ σ : Type} [WireSession σ]

/-- The outcome of a number that the single value of a statement should be. -/
def number (react : Reactor κ σ) (key : Nat) (statement : String) {α : Type}
    (read : QueryResult → Option α) : Play κ σ (Except Fault α) := do
  match ← perform react key (.execute statement) with
  | .error fault => return .error fault
  | .ok result =>
    match read result with
    | some n => return .ok n
    | none => return .error (.unexpectedAnswer statement)

/-- Makes a cursor by a factory, which is handed the requested name. -/
def cursorWith {γ : Type} (react : Reactor κ σ) (key : Nat) (name : Option String)
    (connectionOf : γ → Nat) (nameOf : γ → Option String)
    (factory : Option String → Play κ σ (Except Fault γ)) :
    Play κ σ (Making (Option String) γ) := do
  match ← perform react key .admitCursor with
  | .error fault => return { handed := none, made := .error fault }
  | .ok () =>
    if name.isSome && (← get).connections[key]?.any (·.asynchronous) then
      return { handed := none, made := .error .namedCursorAsynchronous }
    match ← factory name with
    | .error fault => return { handed := some name, made := .error fault }
    | .ok product =>
      if connectionOf product ≠ key ∨ nameOf product ≠ name then
        return { handed := some name, made := .error .foreignCursor }
      return { handed := some name, made := .ok product }

/-- Makes a plain cursor; its key is the number of those before it. -/
def makeCursor (react : Reactor κ σ) (key : Nat) (name : Option String) :
    Play κ σ (Except Fault Nat) := do
  let making ← cursorWith react key name Cursor.connection Cursor.name fun name =>
    return .ok { connection := key, name }
  match making.made with
  | .error fault => return .error fault
  | .ok cursor =>
    modifyGet fun w => (.ok w.cursors.length, { w with cursors := w.cursors ++ [cursor] })

/-- Runs a statement on a cursor. On an asynchronous connection it is only submitted, and the cursor
goes back to what it was if that fails. -/
def executeCursor (react : Reactor κ σ) (key : Nat) (sql : String) :
    Play κ σ (Except Fault Unit) := do
  let w ← get
  match w.cursors[key]?, w.cursors[key]?.bind fun c => w.connections[c.connection]? with
  | some cursor, some connection =>
    if connection.asynchronous then
      modify (modifyCursor key Cursor.started)
      match ← perform react cursor.connection (.submit sql (.cursor key)) with
      | .error fault =>
        modify (modifyCursor key ({ · with state := cursor.state }))
        return .error fault
      | .ok () => return .ok ()
    else if cursor.name.isSome ∧ connection.guarded.isolation = .autocommit then
      return .error .namedCursorAutocommit
    else
      let outcome ← perform react cursor.connection (.execute (cursor.statement sql))
      modify (modifyCursor key (·.completed (outcome.map fun result => [result])))
      return outcome.map fun _ => ()
  | _, _ => return .error .closed

/-- Makes a large object by a factory, which is handed the request. -/
def largeObjectWith {γ : Type} (react : Reactor κ σ) (key : Nat) (demand : LargeObjectDemand)
    (connectionOf : γ → Nat) (factory : LargeObjectRequest → Play κ σ (Except Fault γ)) :
    Play κ σ (Making LargeObjectRequest γ) := do
  match ← perform react key .admitLargeObject with
  | .error fault => return { handed := none, made := .error fault }
  | .ok () =>
    match demand.mode.elim (.ok .read) AccessMode.parse with
    | .error fault => return { handed := none, made := .error fault }
    | .ok mode =>
      let request : LargeObjectRequest :=
        { oid := demand.oid, mode, newOid := demand.newOid, newFile := demand.newFile }
      match ← factory request with
      | .error fault => return { handed := some request, made := .error fault }
      | .ok product =>
        if connectionOf product ≠ key then
          return { handed := some request, made := .error .foreignLargeObject }
        return { handed := some request, made := .ok product }

/-- Creates the object of a request where it does not exist, and yields its oid. -/
def resolveOid (react : Reactor κ σ) (key : Nat) (request : LargeObjectRequest) :
    Play κ σ (Except Fault Nat) := do
  match request.creation with
  | none => return .ok request.oid
  | some statement => number react key statement QueryResult.oid?

/-- Opens the object of a request unless its mode says otherwise, and yields the descriptor. -/
def resolveDescriptor (react : Reactor κ σ) (key : Nat) (request : LargeObjectRequest) (oid : Nat) :
    Play κ σ (Except Fault (Option Int)) := do
  match request.opening oid with
  | none => return .ok none
  | some statement => return (← number react key statement QueryResult.descriptor?).map some

def openLargeObject (react : Reactor κ σ) (key : Nat) (request : LargeObjectRequest) :
    Play κ σ (Except Fault LargeObject) := do
  if (← get).connections[key]?.any (·.guarded.isolation = .autocommit) then
    return .error .largeObjectAutocommit
  match ← resolveOid react key request with
  | .error fault => return .error fault
  | .ok oid =>
    match ← resolveDescriptor react key request oid with
    | .error fault => return .error fault
    | .ok descriptor => return .ok { connection := key, oid, mode := request.mode, descriptor }

def makeLargeObject (react : Reactor κ σ) (key : Nat) (demand : LargeObjectDemand) :
    Play κ σ (Except Fault LargeObject) := do
  return (← largeObjectWith react key demand LargeObject.connection
    (openLargeObject react key)).made

end World

end SessionLayer.Scenario
