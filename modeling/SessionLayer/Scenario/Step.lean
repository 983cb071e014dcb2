import SessionLayer.Connection
import SessionLayer.LargeObject

/-!
# The steps of a scenario

A scenario is a list of steps by a client of the library. The client keeps connections, cursors, large
objects and owners of statements in named slots, and it may leave code behind, as steps, that runs when
a notice arrives or a statement completes. `Step.firings` bounds how often such code can run.
-/

set_option autoImplicit false

namespace SessionLayer.Scenario

/-- By which of the entry points a connection is opened. -/
inductive Route where
  /-- With the settings of the step, and the embedder's hook. -/
  | full
  /-- With default settings, and without a hook. -/
  | plain
  /-- With the settings of the step, and without a hook. -/
  | withSettings
  deriving DecidableEq, Repr

/-- What a client's own cursor factory makes. -/
inductive CursorProduct where
  /-- A cursor of this connection with the requested name. -/
  | own
  /-- A cursor of another connection with the requested name. -/
  | foreign
  /-- A cursor of this connection with a name of its own. -/
  | renamed (name : Option String)
  /-- Nothing: the factory fails. -/
  | failing
  deriving DecidableEq, Repr

/-- What a client's own large-object factory makes. -/
inductive LargeObjectProduct where
  | own
  | foreign
  | failing
  deriving DecidableEq, Repr

/-- A large object as a client asks for it, with the access mode as a text. -/
structure LargeObjectDemand where
  oid : Nat
  mode : Option String
  newOid : Nat
  newFile : Option String
  deriving DecidableEq, Repr

mutual

/-- What a client does. -/
inductive Action where
  | openConnection (dsn : String) (asynchronous : Bool) (settings : Settings) (route : Route)
  | dropConnection
  | dropCursor (slot : String)
  | dropLargeObject (slot : String)
  | dropOwner (id : String)
  /-- An operation of the connection. -/
  | perform (op : Operation)
  /-- Polls until nothing is left to do or a poll fails, `limit` times at most. -/
  | drive (limit : Nat)
  /-- Submits a statement for the owner of the given name. -/
  | submit (sql : String) (owner : String)
  /-- Makes an owner, whose steps run for the first `limit` outcomes that it is told. -/
  | makeOwner (id : String) (limit : Nat) (steps : List Step)
  /-- Registers an observer, whose steps run for the first `limit` notices that it sees. -/
  | observe (id : String) (limit : Nat) (steps : List Step)
  | makeCursor (slot : String) (name : Option String)
  | cursorExecute (slot : String) (sql : String)
  | cursorResults (slot : String)
  | cursorExecuting (slot : String)
  | cursorInfo (slot : String)
  | cursorWith (name : Option String) (product : CursorProduct)
  | makeLargeObject (slot : String) (demand : LargeObjectDemand)
  | largeObjectInfo (slot : String)
  | largeObjectWith (demand : LargeObjectDemand) (product : LargeObjectProduct)
  | notices
  | notifications
  | takeNotifications
  | sessionInfo
  | accessors
  | compareKeys (first second : String)

/-- An action with the slot of the connection that it is about. -/
inductive Step where
  | on (slot : String) (action : Action)

end

namespace Step

/-- The slot of the connection that a step is about. -/
def slot : Step → String
  | on slot _ => slot

/-- What a step does. -/
def action : Step → Action
  | on _ action => action

end Step

mutual

/-- How often code that an action leaves behind can run, that of its own steps included. -/
def Action.firings : Action → Nat
  | .makeOwner _ limit steps | .observe _ limit steps => limit * (1 + stepFirings steps)
  | _ => 0

/-- How often code that a step leaves behind can run. -/
def Step.firings : Step → Nat
  | .on _ action => action.firings

/-- How often code that the given steps leave behind can run. -/
def stepFirings : List Step → Nat
  | [] => 0
  | step :: rest => step.firings + stepFirings rest

end

end SessionLayer.Scenario
