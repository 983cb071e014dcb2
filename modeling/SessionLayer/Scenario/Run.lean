import SessionLayer.Scenario.Act

/-!
# Running a scenario

The reactor of a scenario runs the steps that the client left behind, by `step` again. How deep that
nests is bounded by `stepFirings`, so `fire` recurses on that number. `play` runs a whole scenario and
reports on every step.
-/

set_option autoImplicit false

namespace SessionLayer.Scenario.World

variable {κ σ : Type} [WireSession σ]

/-- Runs the steps that a listener was left with, and records what they answer. -/
def runSteps [Connector κ σ] (react : Reactor κ σ) (id : String) : Nat → List Step → Play κ σ Unit
  | _, [] => pure ()
  | index, s :: rest => do
    let reply ← step react s
    modify (record (.stepped id index reply))
    runSteps react id (index + 1) rest

/-- Tells a listener something: its steps run for as many signals as it has a limit. The number bounds
how deep listeners nest. -/
def fire [Connector κ σ] : Nat → Reactor κ σ
  | depth, key, signal => do
    match (← get).listeners[key]? with
    | none => pure ()
    | some listener =>
      modify (record (.signalled key listener.id signal))
      modify (modifyListener key ({ · with fired := listener.fired + 1 }))
      match depth with
      | 0 => pure ()
      | depth + 1 =>
        if listener.fired < listener.limit then
          modify fun w => { w with running := .listener key :: w.running }
          runSteps (fire depth) listener.id 0 listener.steps
          modify fun w => { w with running := w.running.tail }

/-- What is shown of the connection in a slot after each step. -/
structure Summary where
  status : Status
  isolation : Isolation
  isClosed : Bool
  noticeCount : Nat
  notificationCount : Nat

/-- The summary of the connection in a slot. -/
def summary? (w : World κ σ) (slot : String) : Option Summary :=
  ((w.connectionSlots.get? slot).bind fun key => w.connections[key]?).map fun c =>
    { status := c.guarded.status
      isolation := c.guarded.isolation
      isClosed := c.isClosed
      noticeCount := c.mailbox.notices.size
      notificationCount := c.mailbox.notifications.size }

/-- What is reported about one step. -/
structure Report where
  reply : Reply
  summary : Option Summary
  /-- What happened in the step. -/
  events : List Event
  /-- The calls of the embedder's hook so far. -/
  hookCalls : Nat

/-- Runs a step, and reports on it. -/
def report [Connector κ σ] (react : Reactor κ σ) (s : Step) : Play κ σ Report := do
  let before := (← get).trace.length
  let reply ← step react s
  let w ← get
  return { reply, summary := w.summary? s.slot, events := w.trace.drop before, hookCalls := w.hookCalls }

/-- Runs a scenario, and reports on every step and on what happened at the end. -/
def play [Connector κ σ] (steps : List Step) : Play κ σ (List Report × List Event) := do
  let react := fire (stepFirings steps)
  let reports ← steps.mapM (report react)
  let before := (← get).trace.length
  letGo react
  return (reports, (← get).trace.drop before)

/-- The log of the calls on the wire among some events. -/
def callLog [Connector κ σ] (connector : κ) (events : List Event) : List String :=
  events.filterMap fun event =>
    match event with
    | .connected _ blocking dsn _ => some (Connector.connectEntry connector blocking dsn)
    | .exchanged _ exchange => Connector.callEntry connector exchange.call
    | _ => none

end SessionLayer.Scenario.World
