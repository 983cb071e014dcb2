import SessionLayer.Scenario.Holding

/-!
# What the actions of a client do

`act` runs one action in a world, for any reactor, and `step` one step. An action looks its slot up and
holds what it finds there, runs operations or asks a factory, and puts what was made into a slot.
-/

set_option autoImplicit false

namespace SessionLayer.Scenario.World

variable {κ σ : Type} [WireSession σ]

/-- Polls until nothing is left to do or a poll fails, at most the given number of times. -/
def drive (react : Reactor κ σ) (key : Nat) : Nat → List Readiness → Play κ σ Reply
  | 0, answers => return .driven answers none
  | n + 1, answers => do
    match ← perform react key .poll with
    | .error fault => return .driven answers (some fault)
    | .ok .complete => return .driven (answers ++ [.complete]) none
    | .ok readiness => drive react key n (answers ++ [readiness])

/-- Puts a new owner into its slot. -/
def makeOwner (id : String) (limit : Nat) (steps : List Step) : Play κ σ Reply :=
  modifyGet fun w =>
    (.done,
      { w.addListener { id, limit, steps } with
        ownerSlots := w.ownerSlots.put id w.listeners.length })

/-- Registers a new observer with a connection. -/
def observe (key : Nat) (id : String) (limit : Nat) (steps : List Step) : Play κ σ Reply :=
  modifyGet fun w =>
    (.done,
      (w.modifyConnection key fun c =>
        { c with mailbox := c.mailbox.addObserver w.listeners.length }).addListener
        { id, limit, steps })

/-- The owner of the given name, who is gone if there is none. -/
def ownerOf (w : World κ σ) (id : String) : QueryOwner :=
  match w.ownerSlots.get? id with
  | some key => .listener key
  | none => .departed

/-- Whether the connection of the given key is closed. -/
def isClosed (w : World κ σ) (key : Nat) : Bool :=
  w.connections[key]?.any (·.isClosed)

/-- What the accessors of a connection show. -/
def profile (c : Connection σ) : Profile :=
  { dsn := c.dsn
    asynchronous := c.asynchronous
    info := c.guarded.info
    display := c.display
    diagnostic := c.diagnostic "N"
    faultKinds := FaultKind.all }

/-- What the client's own cursor factory makes: the connection and the name that are reported. -/
def produceCursor (key : Nat) (product : CursorProduct) (name : Option String) :
    Except Fault (Nat × Option String) :=
  match product with
  | .own => .ok (key, name)
  | .foreign => .ok (key + 1, name)
  | .renamed other => .ok (key, other)
  | .failing => .error (.raised .data "factory failed")

/-- The oid that objects of the client's own large-object factory report. -/
def producedOid : Nat := Text.maxUnsigned32

/-- What the client's own large-object factory makes: the connection and the oid that are reported. -/
def produceLargeObject (key : Nat) : LargeObjectProduct → Except Fault (Nat × Nat)
  | .own => .ok (key, producedOid)
  | .foreign => .ok (key + 1, producedOid)
  | .failing => .error (.raised .data "factory failed")

/-- Runs an action; `slot` is the one of the connection that the step is about. -/
def act [Connector κ σ] (react : Reactor κ σ) (slot : String) : Action → Play κ σ Reply
  | .openConnection dsn asynchronous settings route => do
    let applied := if route = .plain then .standard else settings
    match ← openConnection react dsn asynchronous applied (route = .full) with
    | .error fault => return .fault fault
    | .ok key =>
      fillConnectionSlot react slot key
      return .done
  | .dropConnection => dropConnection react slot
  | .dropCursor name => dropCursor react name
  | .dropLargeObject name => dropLargeObject react name
  | .dropOwner id => dropOwner id
  | .perform op => withConnection react slot fun key =>
    return Reply.ofExcept (Reply.ofAnswer op) (← perform react key op)
  | .drive limit => withConnection react slot fun key => drive react key limit []
  | .submit sql owner => withConnection react slot fun key => do
    let owner := (← get).ownerOf owner
    return Reply.ofExcept (fun _ => .done) (← perform react key (.submit sql owner))
  | .makeOwner id limit steps => makeOwner id limit steps
  | .observe id limit steps => withConnection react slot fun key => observe key id limit steps
  | .makeCursor name cursorName => withConnection react slot fun key => do
    match ← makeCursor react key cursorName with
    | .error fault => return .fault fault
    | .ok cursor =>
      fillCursorSlot react name cursor
      return .done
  | .cursorExecute name sql => withCursor react name fun key _ =>
    return Reply.ofExcept (fun _ => .done) (← executeCursor react key sql)
  | .cursorResults name => withCursor react name fun _ cursor =>
    return Reply.ofExcept .results cursor.results
  | .cursorExecuting name => withCursor react name fun _ cursor =>
    return .flag cursor.state.executing
  | .cursorInfo name => withCursor react name fun _ cursor =>
    return .cursor cursor.name ((← get).isClosed cursor.connection) true
  | .cursorWith name product => withConnection react slot fun key => do
    let making ← cursorWith react key name Prod.fst Prod.snd fun name =>
      return produceCursor key product name
    return .cursorMade making.handed.isSome (making.made.map Prod.snd)
  | .makeLargeObject name demand => withConnection react slot fun key => do
    match ← makeLargeObject react key demand with
    | .error fault => return .fault fault
    | .ok object =>
      fillLargeObjectSlot react name object
      return .largeObject object
  | .largeObjectInfo name => do
    let w ← get
    match w.largeObjectSlots.get? name with
    | none => return .missing .largeObject
    | some object => return .largeObjectInfo object (w.isClosed object.connection) true
  | .largeObjectWith demand product => withConnection react slot fun key => do
    let making ← largeObjectWith react key demand Prod.fst fun _ =>
      return produceLargeObject key product
    let isClosed := (← get).isClosed key
    return .largeObjectMade (making.handed.map fun request => (request, isClosed))
      (making.made.map Prod.snd)
  | .notices => withConnection react slot fun key => do
    return .texts (((← get).connections[key]?.map (·.mailbox.notices.items)).getD [])
  | .notifications => withConnection react slot fun key => do
    return .notifications (((← get).connections[key]?.map (·.mailbox.notifications.items)).getD [])
  | .takeNotifications => withConnection react slot fun key => do
    match (← get).connections[key]? with
    | none => return .notifications []
    | some c =>
      let (taken, mailbox) := c.mailbox.drainNotifications
      modify (modifyConnection key ({ · with mailbox }))
      return .notifications taken
  | .sessionInfo => withConnection react slot fun key => do
    return .info ((← get).connections[key]?.bind (·.guarded.info))
  | .accessors => withConnection react slot fun key => do
    match (← get).connections[key]? with
    | none => return .missing .connection
    | some c => return .profile (profile c)
  | .compareKeys first second => do
    let slots := (← get).connectionSlots
    match slots.get? first, slots.get? second with
    | some a, some b => return .ordering (compare a b)
    | _, _ => return .missing .connection

def step [Connector κ σ] (react : Reactor κ σ) (s : Step) : Play κ σ Reply :=
  act react s.slot s.action

end SessionLayer.Scenario.World
