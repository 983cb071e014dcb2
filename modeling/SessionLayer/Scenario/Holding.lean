import SessionLayer.Scenario.Objects

/-!
# Holding and letting go

A step holds the connection or the cursor that it works on for as long as it runs, and a slot holds what
the client put into it. Whenever a holder goes, the connection that it held is closed if nothing else
holds it; this is done last, so that what closing brings about finds the holder gone.
-/

set_option autoImplicit false

namespace SessionLayer.Scenario.World

variable {κ σ : Type} [WireSession σ]

/-- Runs `body` while a step holds `holder`, and then closes `key` if nothing holds it any more. -/
def holding {α : Type} (react : Reactor κ σ) (holder : Holder) (key : Nat) (body : Play κ σ α) :
    Play κ σ α := do
  modify fun w => { w with running := holder :: w.running }
  let x ← body
  modify fun w => { w with running := w.running.tail }
  release react key
  return x

/-- Runs `body` on the connection in a slot. -/
def withConnection (react : Reactor κ σ) (slot : String) (body : Nat → Play κ σ Reply) :
    Play κ σ Reply := do
  match (← get).connectionSlots.get? slot with
  | none => return .missing .connection
  | some key => holding react (.connection key) key (body key)

/-- Runs `body` on the cursor in a slot. -/
def withCursor (react : Reactor κ σ) (slot : String) (body : Nat → Cursor → Play κ σ Reply) :
    Play κ σ Reply := do
  let w ← get
  match w.cursorSlots.get? slot with
  | none => return .missing .cursor
  | some key =>
    match w.cursors[key]? with
    | none => return .missing .cursor
    | some cursor => holding react (.cursor key) cursor.connection (body key cursor)

/-- Puts a connection into a slot; the one that was there is let go. -/
def fillConnectionSlot (react : Reactor κ σ) (slot : String) (key : Nat) : Play κ σ Unit := do
  let previous := (← get).connectionSlots.get? slot
  modify fun w => { w with connectionSlots := w.connectionSlots.put slot key }
  if let some old := previous then release react old

/-- Puts a cursor into a slot; the one that was there is let go. -/
def fillCursorSlot (react : Reactor κ σ) (slot : String) (key : Nat) : Play κ σ Unit := do
  let w ← get
  let previous := (w.cursorSlots.get? slot).bind fun old => w.cursors[old]?
  modify fun w => { w with cursorSlots := w.cursorSlots.put slot key }
  if let some old := previous then release react old.connection

/-- Puts a large object into a slot; the one that was there is let go. -/
def fillLargeObjectSlot (react : Reactor κ σ) (slot : String) (object : LargeObject) :
    Play κ σ Unit := do
  let previous := (← get).largeObjectSlots.get? slot
  modify fun w => { w with largeObjectSlots := w.largeObjectSlots.put slot object }
  if let some old := previous then release react old.connection

/-- Empties the slot of a connection. -/
def dropConnection (react : Reactor κ σ) (slot : String) : Play κ σ Reply := do
  match (← get).connectionSlots.get? slot with
  | none => return .missing .connection
  | some key =>
    modify fun w => { w with connectionSlots := w.connectionSlots.erase slot }
    release react key
    return .done

/-- Empties the slot of a cursor. -/
def dropCursor (react : Reactor κ σ) (slot : String) : Play κ σ Reply := do
  let w ← get
  match w.cursorSlots.get? slot with
  | none => return .missing .cursor
  | some key =>
    modify fun w => { w with cursorSlots := w.cursorSlots.erase slot }
    if let some cursor := w.cursors[key]? then release react cursor.connection
    return .done

def dropLargeObject (react : Reactor κ σ) (slot : String) : Play κ σ Reply := do
  match (← get).largeObjectSlots.get? slot with
  | none => return .missing .largeObject
  | some object =>
    modify fun w => { w with largeObjectSlots := w.largeObjectSlots.erase slot }
    release react object.connection
    return .done

/-- Empties the slot of an owner. -/
def dropOwner (id : String) : Play κ σ Reply := do
  match (← get).ownerSlots.get? id with
  | none => return .missing .owner
  | some _ =>
    modify fun w => { w with ownerSlots := w.ownerSlots.erase id }
    return .done

/-- Lets everything go that the slots still hold: large objects, then cursors, then connections. -/
def letGo (react : Reactor κ σ) : Play κ σ Unit := do
  (← get).largeObjectSlots.names.forM fun name => do let _ ← dropLargeObject react name
  (← get).cursorSlots.names.forM fun name => do let _ ← dropCursor react name
  (← get).connectionSlots.names.forM fun name => do let _ ← dropConnection react name

end SessionLayer.Scenario.World
