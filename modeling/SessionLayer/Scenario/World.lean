import SessionLayer.Detach
import SessionLayer.Scenario.Reply
import SessionLayer.Scenario.Slots

/-!
# The world of a scenario

All connections, cursors and listeners that were ever made, the slots in which the client keeps them,
and the trace of what happened. A connection is *held* by its slot, by every cursor that is held, by
every large object in a slot, and by a step that runs on it; the holders that are steps form a stack.
-/

set_option autoImplicit false

namespace SessionLayer.Scenario

/-- Code that a client left behind to be told about notices or outcomes. -/
structure Listener where
  id : String
  /-- For how many signals the steps run. -/
  limit : Nat
  steps : List Step
  /-- The number of signals so far. -/
  fired : Nat := 0

/-- What a step that is running holds. -/
inductive Holder where
  | connection (key : Nat)
  | cursor (key : Nat)
  | listener (key : Nat)
  deriving DecidableEq, Repr

/-- The state of a scenario. -/
structure World (κ σ : Type) where
  connector : κ
  /-- How often the embedder's hook invokes the call that it is handed, by the number of the call. -/
  hook : Nat → Nat
  hookCalls : Nat := 0
  /-- Every connection so far; its place is its key. -/
  connections : List (Connection σ) := []
  /-- Every cursor so far; its place is its key. -/
  cursors : List Cursor := []
  /-- Every observer and owner so far; its place is its key. -/
  listeners : List Listener := []
  connectionSlots : Slots Nat := {}
  cursorSlots : Slots Nat := {}
  largeObjectSlots : Slots LargeObject := {}
  ownerSlots : Slots Nat := {}
  /-- The holders among the steps that are running, the innermost first. -/
  running : List Holder := []
  trace : List Event := []

/-- A computation in a world. -/
abbrev Play (κ σ : Type) (α : Type) : Type :=
  StateM (World κ σ) α

namespace World

variable {κ σ : Type}

/-- Appends an event to the trace. -/
def record (event : Event) (w : World κ σ) : World κ σ :=
  { w with trace := w.trace ++ [event] }

def cursorHeld (w : World κ σ) (key : Nat) : Bool :=
  w.cursorSlots.contents.contains key || w.running.contains (.cursor key)

def listenerHeld (w : World κ σ) (key : Nat) : Bool :=
  w.ownerSlots.contents.contains key || w.running.contains (.listener key)

def cursorConnection? (w : World κ σ) (key : Nat) : Option Nat :=
  if w.cursorHeld key then w.cursors[key]?.map (·.connection) else none

def connectionHeld (w : World κ σ) (key : Nat) : Bool :=
  w.connectionSlots.contents.contains key
    || w.running.contains (.connection key)
    || (List.range w.cursors.length).any (fun k => w.cursorConnection? k == some key)
    || w.largeObjectSlots.contents.any (·.connection == key)

def modifyConnection (key : Nat) (f : Connection σ → Connection σ) (w : World κ σ) : World κ σ :=
  { w with connections := w.connections.modify key f }

def modifyCursor (key : Nat) (f : Cursor → Cursor) (w : World κ σ) : World κ σ :=
  { w with cursors := w.cursors.modify key f }

def modifyListener (key : Nat) (f : Listener → Listener) (w : World κ σ) : World κ σ :=
  { w with listeners := w.listeners.modify key f }

/-- Appends a listener; its key is the number of those before it. -/
def addListener (listener : Listener) (w : World κ σ) : World κ σ :=
  { w with listeners := w.listeners ++ [listener] }

/-- Enters the embedder's hook for a connection. -/
def enterHook (key : Nat) (w : World κ σ) : World κ σ :=
  { w with hookCalls := w.hookCalls + 1 }.record (.hookEntered key)

def leaveHook (key : Nat) (w : World κ σ) : World κ σ :=
  w.record (.hookLeft key)

/-- Runs a call that may block, inside of the hook if the connection has one. -/
def detached {α : Type} (key : Nat) (hooked : Bool) (call : World κ σ → α × World κ σ)
    (w : World κ σ) : α × World κ σ :=
  if hooked then
    Detach.through (w.hook w.hookCalls) (enterHook key) (leaveHook key) call w
  else call w

end World

end SessionLayer.Scenario
