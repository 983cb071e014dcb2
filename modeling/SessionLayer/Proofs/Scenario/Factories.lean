import SessionLayer.Proofs.Scenario.Refusal

/-!
# Factories yield bound objects

Cursors and large objects are made in the same way: checks come first, then a factory is asked once, and
what it makes is accepted only if it is bound to the connection. `YieldsBound` says so of any checks and
any factory. Connections report identifiers that are drawn from a counter of 64 bits; as long as it has
not started over, no two of them report the same one, so that an object is bound to one connection only.
-/

set_option autoImplicit false

namespace SessionLayer

/-! ## Identifiers -/

/-- The identifier that is drawn after so many others: the counter starts from one and has 64 bits. -/
def nthIdentifier : Nat → UInt64
  | 0 => 1
  | n + 1 => nthIdentifier n + 1

/-- The key of the connection that an identifier is drawn for. -/
def bearer (id : UInt64) : Nat :=
  (id - 1).toNat

theorem nthIdentifier_eq (n : Nat) : nthIdentifier n = UInt64.ofNat n + 1 := by
  induction n with
  | zero => rfl
  | succ n ih => rw [nthIdentifier, ih, UInt64.ofNat_add, UInt64.ofNat_one]

/-- Until the counter starts over, an identifier has one bearer. -/
theorem bearer_eq_iff {id : UInt64} {key : Nat} (hkey : key < UInt64.size) :
    bearer id = key ↔ id = nthIdentifier key := by
  rw [nthIdentifier_eq, bearer]
  constructor
  · rintro rfl
    rw [UInt64.ofNat_toNat, UInt64.sub_add_cancel]
  · rintro rfl
    rw [UInt64.add_sub_cancel, UInt64.toNat_ofNat_of_lt' hkey]

namespace Connection

variable {σ : Type} {c : Connection σ}

/-- The identifier that a connection reports. -/
def identifier (c : Connection σ) : UInt64 :=
  nthIdentifier c.key

/-! ## Checks -/

/-- The checks before a factory is asked for a cursor; it is handed the name. -/
def cursorChecks (c : Connection σ) (name : Option String) : Except Fault (Option String) :=
  if c.guarded.status = .closed then .error .closed
  else if c.guarded.status.isUsable = false then .error .setupUnderway
  else if name.isSome ∧ c.asynchronous = true then .error .namedCursorAsynchronous
  else .ok name

/-- The checks before a factory is asked for a large object; it is handed the request. -/
def largeObjectChecks (c : Connection σ) (demand : Scenario.LargeObjectDemand) :
    Except Fault LargeObjectRequest :=
  if c.guarded.status = .closed then .error .closed
  else if c.asynchronous = true then .error (.blockingOnly "lobject")
  else if c.guarded.status.isUsable = false then .error .setupUnderway
  else
    (demand.mode.elim (.ok .read) AccessMode.parse).map fun mode =>
      { oid := demand.oid, mode, newOid := demand.newOid, newFile := demand.newFile }

theorem eq_of_cursorChecks {name requested : Option String} (h : c.cursorChecks name = .ok requested) :
    requested = name := by
  unfold cursorChecks at h
  split at h
  · exact nomatch h
  split at h
  · exact nomatch h
  split at h
  · exact nomatch h
  · exact (Except.ok.inj h).symm

end Connection

namespace Scenario.World

variable {κ σ : Type}

/-! ## Factories -/

/-- What comes of making an object by a factory, for any checks before that and any factory. -/
structure YieldsBound {ι γ : Type} (checks : Except Fault ι) (factory : ι → Play κ σ (Except Fault γ))
    (IsBound : γ → Prop) (foreign : Fault) (w : World κ σ) (making : Making ι γ × World κ σ) :
    Prop where
  /-- The factory is called if and only if the checks pass, -/
  handed : making.1.handed = checks.toOption
  /-- and then once: nothing else happens. -/
  once : making.2 = checks.toOption.elim w fun request => ((factory request).run w).2
  refused : ∀ fault, checks = .error fault → making.1.made = .error fault
  failed : ∀ request fault, checks = .ok request → ((factory request).run w).1 = .error fault →
    making.1.made = .error fault
  rejected : ∀ request product, checks = .ok request → ((factory request).run w).1 = .ok product →
    ¬IsBound product → making.1.made = .error foreign
  accepted : ∀ request product, checks = .ok request → ((factory request).run w).1 = .ok product →
    IsBound product → making.1.made = .ok product
  bound : ∀ product, making.1.made = .ok product → IsBound product ∧
    ∃ request, checks = .ok request ∧ ((factory request).run w).1 = .ok product

/-- Asks a factory, and accepts what it makes if that is bound. -/
def consult {ι γ : Type} (factory : ι → Play κ σ (Except Fault γ)) (IsBound : γ → Prop)
    [DecidablePred IsBound] (foreign : Fault) (request : ι) : Play κ σ (Making ι γ) := do
  let made ← factory request
  return {
    handed := some request
    made := made.bind fun product => if IsBound product then .ok product else .error foreign }

namespace YieldsBound

variable {ι γ : Type} {checks : Except Fault ι} {factory : ι → Play κ σ (Except Fault γ)}
  {IsBound : γ → Prop} {foreign fault : Fault} {w : World κ σ} {making : Making ι γ × World κ σ}

/-- Where the checks fail, nobody is asked. -/
theorem of_error (h : checks = .error fault) (factory : ι → Play κ σ (Except Fault γ))
    (IsBound : γ → Prop) (foreign : Fault) (w : World κ σ) :
    YieldsBound checks factory IsBound foreign w ({ handed := none, made := .error fault }, w) := by
  subst h
  constructor <;> simp [Except.toOption]

/-- Where the checks pass, the factory is. -/
theorem of_ok [DecidablePred IsBound] {request : ι} (h : checks = .ok request)
    (factory : ι → Play κ σ (Except Fault γ)) (foreign : Fault) (w : World κ σ) :
    YieldsBound checks factory IsBound foreign w
      ((consult factory IsBound foreign request).run w) := by
  subst h
  have hrun : (consult factory IsBound foreign request).run w =
      ({ handed := some request
         made := ((factory request).run w).1.bind fun product =>
           if IsBound product then .ok product else .error foreign },
        ((factory request).run w).2) := rfl
  rw [hrun]
  refine ⟨rfl, rfl, nofun, ?_, ?_, ?_, ?_⟩
  · rintro _ fault ⟨⟩ hfailed
    dsimp only
    rw [hfailed, Except.bind]
  · rintro _ product ⟨⟩ hmade hforeign
    dsimp only
    rw [hmade, Except.bind, if_neg hforeign]
  · rintro _ product ⟨⟩ hmade hbound
    dsimp only
    rw [hmade, Except.bind, if_pos hbound]
  · intro product haccepted
    dsimp only at haccepted
    cases hmade : ((factory request).run w).1 with
    | error fault =>
      rw [hmade] at haccepted
      exact nomatch haccepted
    | ok own =>
      rw [hmade, Except.bind] at haccepted
      split at haccepted
      next hbound =>
        cases haccepted
        exact ⟨hbound, request, rfl, hmade⟩
      next => exact nomatch haccepted

/-- The checks and the factory determine what comes of it. -/
theorem eq_of_made (h : YieldsBound checks factory IsBound foreign w making) {made : Except Fault γ}
    (hmade : making.1.made = made) :
    making = ({ handed := checks.toOption, made },
      checks.toOption.elim w fun request => ((factory request).run w).2) := by
  have hhanded := h.handed
  have honce := h.once
  obtain ⟨⟨handed, _⟩, w'⟩ := making
  cases hhanded
  cases honce
  cases hmade
  rfl

theorem eq_of_error (h : YieldsBound checks factory IsBound foreign w making)
    (hchecks : checks = .error fault) : making = ({ handed := none, made := .error fault }, w) := by
  subst hchecks
  exact h.eq_of_made (h.refused fault rfl)

/-- A factory that makes nothing but what is bound has the last word. -/
theorem eq_of_ok (h : YieldsBound checks factory IsBound foreign w making) {request : ι}
    (hchecks : checks = .ok request)
    (hbound : ∀ product, ((factory request).run w).1 = .ok product → IsBound product) :
    making = ({ handed := some request, made := ((factory request).run w).1 },
      ((factory request).run w).2) := by
  subst hchecks
  refine h.eq_of_made ?_
  cases hasked : ((factory request).run w).1 with
  | error fault => exact h.failed request fault rfl hasked
  | ok product => exact h.accepted request product rfl hasked (hbound product hasked)

end YieldsBound

variable [WireSession σ] {key : Nat} {w : World κ σ} {c : Connection σ} {react : Reactor κ σ}

section Making

variable {γ : Type}

/-- Where a cursor may be made, the factory is asked for it. -/
theorem cursorWith_of_ok {name : Option String}
    (h : ((perform react key .admitCursor).run w).1 = .ok ())
    (hallowed : (name.isSome &&
      ((perform react key .admitCursor).run w).2.connections[key]?.any (·.asynchronous)) = false)
    (connectionOf : γ → Nat) (nameOf : γ → Option String)
    (factory : Option String → Play κ σ (Except Fault γ)) :
    (cursorWith react key name connectionOf nameOf factory).run w =
      (consult factory (fun product => connectionOf product = key ∧ nameOf product = name)
        .foreignCursor name).run ((perform react key .admitCursor).run w).2 := by
  unfold cursorWith consult
  rw [Play.run_bind, h]
  simp only [Play.run_bind, Play.run_get, hallowed, Bool.false_eq_true, if_false]
  rcases (factory name).run ((perform react key .admitCursor).run w).2 with ⟨fault | product, w'⟩
  · rfl
  · dsimp only [Except.bind]
    by_cases hbound : connectionOf product = key ∧ nameOf product = name
    · rw [if_pos hbound, if_neg (by simp [hbound])]
    · rw [if_neg hbound, if_pos (Decidable.not_and_iff_not_or_not.1 hbound)]

theorem largeObjectWith_of_ok {demand : LargeObjectDemand} {mode : AccessMode}
    (h : ((perform react key .admitLargeObject).run w).1 = .ok ())
    (hmode : demand.mode.elim (.ok .read) AccessMode.parse = .ok mode) (connectionOf : γ → Nat)
    (factory : LargeObjectRequest → Play κ σ (Except Fault γ)) :
    (largeObjectWith react key demand connectionOf factory).run w =
      (consult factory (connectionOf · = key) .foreignLargeObject
        { oid := demand.oid, mode, newOid := demand.newOid, newFile := demand.newFile }).run
          ((perform react key .admitLargeObject).run w).2 := by
  unfold largeObjectWith consult
  rw [Play.run_bind, h]
  dsimp only
  rw [hmode]
  simp only [Play.run_bind]
  rcases (factory { oid := demand.oid, mode, newOid := demand.newOid, newFile := demand.newFile }).run
    ((perform react key .admitLargeObject).run w).2 with ⟨fault | product, w'⟩
  · rfl
  · dsimp only [Except.bind]
    by_cases hbound : connectionOf product = key
    · rw [if_pos hbound, if_neg (not_not_intro hbound)]
    · rw [if_neg hbound, if_pos hbound]

end Making

/-- Plain large objects belong to the connection that opened them. -/
theorem connection_of_openLargeObject {request : LargeObjectRequest} {object : LargeObject}
    (h : ((openLargeObject react key request).run w).1 = .ok object) : object.connection = key := by
  unfold openLargeObject at h
  rw [Play.run_bind, Play.run_get] at h
  by_cases hlevel : w.connections[key]?.any (·.guarded.isolation = .autocommit) = true
  · simp only [hlevel, if_true] at h
    cases h
  simp only [hlevel, if_false, Play.run_bind, Bool.false_eq_true] at h
  rcases hresolved : (resolveOid react key request).run w with ⟨fault | oid, w₁⟩
  · rw [hresolved] at h
    cases h
  rw [hresolved] at h
  dsimp only at h
  rw [Play.run_bind] at h
  rcases hopened : (resolveDescriptor react key request oid).run w₁ with ⟨fault | descriptor, w₂⟩
  · rw [hopened] at h
    cases h
  · rw [hopened] at h
    cases h
    rfl

/-! ## Connections -/

/-- What a connection makes by factories whose objects report to be of it if they satisfy `IsOwn`. -/
structure VetsObjects (react : Reactor κ σ) (key : Nat) (c : Connection σ) (w : World κ σ) {γ : Type}
    (connectionOf : γ → Nat) (IsOwn : γ → Prop) : Prop where
  cursor : ∀ (name : Option String) (nameOf : γ → Option String)
    (factory : Option String → Play κ σ (Except Fault γ)),
    YieldsBound (c.cursorChecks name) factory (fun product => IsOwn product ∧ nameOf product = name)
      .foreignCursor ((perform react key .admitCursor).run w).2
      ((cursorWith react key name connectionOf nameOf factory).run w)
  largeObject : ∀ (demand : LargeObjectDemand)
    (factory : LargeObjectRequest → Play κ σ (Except Fault γ)),
    YieldsBound (c.largeObjectChecks demand) factory IsOwn .foreignLargeObject
      ((perform react key .admitLargeObject).run w).2
      ((largeObjectWith react key demand connectionOf factory).run w)

/-- A connection accepts an object of some factory, as a cursor or as a large object. -/
def Accepts (react : Reactor κ σ) (key : Nat) (w : World κ σ) {γ : Type} (connectionOf : γ → Nat)
    (product : γ) : Prop :=
  (∃ name nameOf factory,
    ((cursorWith react key name connectionOf nameOf factory).run w).1.made = .ok product) ∨
  ∃ demand factory,
    ((largeObjectWith react key demand connectionOf factory).run w).1.made = .ok product

namespace VetsObjects

variable {γ : Type} {connectionOf : γ → Nat} {IsOwn IsBound : γ → Prop}

theorem congr (h : VetsObjects react key c w connectionOf IsBound)
    (hsame : ∀ product, IsOwn product ↔ IsBound product) : VetsObjects react key c w connectionOf IsOwn := by
  obtain rfl : IsOwn = IsBound := funext fun product => propext (hsame product)
  exact h

theorem of_accepts (h : VetsObjects react key c w connectionOf IsOwn) {product : γ}
    (haccepts : Accepts react key w connectionOf product) : IsOwn product := by
  rcases haccepts with ⟨name, nameOf, factory, hmade⟩ | ⟨demand, factory, hmade⟩
  · exact ((h.cursor name nameOf factory).bound product hmade).1.1
  · exact ((h.largeObject demand factory).bound product hmade).1

end VetsObjects

variable [Connector κ σ]

section Reacting

variable (hreact : ∀ listener signal, Keeps Reached (react listener signal))
  (hc : w.connections[key]? = some c)

include hreact hc

theorem yieldsBound_cursorWith {γ : Type} (name : Option String) (connectionOf : γ → Nat)
    (nameOf : γ → Option String) (factory : Option String → Play κ σ (Except Fault γ)) :
    YieldsBound (c.cursorChecks name) factory
      (fun product => connectionOf product = key ∧ nameOf product = name) .foreignCursor
      ((perform react key .admitCursor).run w).2
      ((cursorWith react key name connectionOf nameOf factory).run w) := by
  have hresult := fst_perform react hc .admitCursor
  by_cases hclosed : c.guarded.status = .closed
  · have hrefused : c.Refuses .admitCursor .closed := Connection.refuses_of_closed hclosed nofun
    rw [cursorWith_of_error (hresult.trans hrefused.result)]
    exact .of_error (by rw [Connection.cursorChecks, if_pos hclosed]) _ _ _ _
  cases husable : c.guarded.status.isUsable with
  | false =>
    have hrefused := Connection.atOnce_admitCursor hclosed false husable
    rw [cursorWith_of_error (hresult.trans hrefused.result)]
    exact .of_error (by rw [Connection.cursorChecks, if_neg hclosed, if_pos husable]) _ _ _ _
  | true =>
    have hadmitted := hresult.trans (Connection.atOnce_admitCursor hclosed true husable).result
    have hreached : Reached w ((perform react key .admitCursor).run w).2 :=
      keeps_perform hreact key .admitCursor w
    obtain ⟨c', hc', hsame⟩ := hreached.asynchronous_eq hc
    have ha : ((perform react key .admitCursor).run w).2.connections[key]?.any (·.asynchronous) =
        c.asynchronous := by rw [hc', Option.any_some, hsame]
    have hchecks : c.cursorChecks name =
        if name.isSome ∧ c.asynchronous = true then .error .namedCursorAsynchronous else .ok name := by
      rw [Connection.cursorChecks, if_neg hclosed, if_neg (by simp [husable])]
    by_cases hnamed : name.isSome ∧ c.asynchronous = true
    · rw [cursorWith_of_named hadmitted hnamed.1 (ha.trans hnamed.2)]
      exact .of_error (by rw [hchecks, if_pos hnamed]) _ _ _ _
    · rw [cursorWith_of_ok hadmitted (by rw [ha]; simpa using hnamed)]
      exact .of_ok (by rw [hchecks, if_neg hnamed]) _ _ _

omit [Connector κ σ] hreact in
theorem yieldsBound_largeObjectWith (react : Reactor κ σ) {γ : Type} (demand : LargeObjectDemand)
    (connectionOf : γ → Nat) (factory : LargeObjectRequest → Play κ σ (Except Fault γ)) :
    YieldsBound (c.largeObjectChecks demand) factory (connectionOf · = key) .foreignLargeObject
      ((perform react key .admitLargeObject).run w).2
      ((largeObjectWith react key demand connectionOf factory).run w) := by
  have hresult := fst_perform react hc .admitLargeObject
  by_cases hclosed : c.guarded.status = .closed
  · have hrefused : c.Refuses .admitLargeObject .closed := Connection.refuses_of_closed hclosed nofun
    rw [largeObjectWith_of_error (hresult.trans hrefused.result)]
    exact .of_error (by rw [Connection.largeObjectChecks, if_pos hclosed]) _ _ _ _
  cases ha : c.asynchronous with
  | true =>
    have hrefused : c.Refuses .admitLargeObject (.blockingOnly "lobject") :=
      Connection.refuses_of_asynchronous hclosed ha rfl
    rw [largeObjectWith_of_error (hresult.trans hrefused.result)]
    exact .of_error (by rw [Connection.largeObjectChecks, if_neg hclosed, if_pos ha]) _ _ _ _
  | false =>
    cases husable : c.guarded.status.isUsable with
    | false =>
      have hrefused : c.Refuses .admitLargeObject .setupUnderway :=
        .of_runs (Connection.runs_blocking hclosed ha (Connection.runs_admission false husable))
      rw [largeObjectWith_of_error (hresult.trans hrefused.result)]
      exact .of_error (by simp [Connection.largeObjectChecks, hclosed, ha, husable]) _ _ _ _
    | true =>
      have hadmitted := hresult.trans (Connection.atOnce_admitLargeObject hclosed ha husable).result
      have hchecks : c.largeObjectChecks demand =
          (demand.mode.elim (.ok .read) AccessMode.parse).map fun mode =>
            { oid := demand.oid, mode, newOid := demand.newOid, newFile := demand.newFile } := by
        simp [Connection.largeObjectChecks, hclosed, ha, husable]
      cases hmode : demand.mode.elim (.ok .read) AccessMode.parse with
      | error fault =>
        obtain ⟨text, htext, hunread⟩ :
            ∃ text, demand.mode = some text ∧ AccessMode.parse text = .error fault := by
          cases hdemand : demand.mode with
          | none =>
            rw [hdemand] at hmode
            exact nomatch hmode
          | some text =>
            rw [hdemand] at hmode
            exact ⟨text, rfl, hmode⟩
        rw [largeObjectWith_of_mode hadmitted htext hunread]
        exact .of_error (by rw [hchecks, hmode]; rfl) _ _ _ _
      | ok mode =>
        rw [largeObjectWith_of_ok hadmitted hmode]
        exact .of_ok (by rw [hchecks, hmode]; rfl) _ _ _

/-- Objects that are told by the key of their connection are vetted. -/
theorem vetsObjects {γ : Type} (connectionOf : γ → Nat) :
    VetsObjects react key c w connectionOf (connectionOf · = key) where
  cursor := fun name nameOf => yieldsBound_cursorWith hreact hc name connectionOf nameOf
  largeObject := fun demand => yieldsBound_largeObjectWith hc react demand connectionOf

/-- A plain cursor is made if the checks pass. -/
theorem makeCursor_eq (name : Option String) :
    (makeCursor react key name).run w =
      let w₁ := ((perform react key .admitCursor).run w).2
      match c.cursorChecks name with
      | .error fault => (.error fault, w₁)
      | .ok name =>
        (.ok w₁.cursors.length, { w₁ with cursors := w₁.cursors ++ [{ connection := key, name }] }) := by
  have h := yieldsBound_cursorWith hreact hc name Cursor.connection Cursor.name
    fun name => return .ok { connection := key, name }
  unfold makeCursor
  rw [Play.run_bind]
  cases hchecks : c.cursorChecks name with
  | error fault =>
    rw [h.eq_of_error hchecks]
    rfl
  | ok requested =>
    have hbound : ∀ product : Cursor, Except.ok { connection := key, name := requested } =
        (Except.ok product : Except Fault Cursor) → product.connection = key ∧ product.name = name := by
      rintro product ⟨⟩
      exact ⟨rfl, Connection.eq_of_cursorChecks hchecks⟩
    rw [h.eq_of_ok hchecks hbound]
    rfl

omit [Connector κ σ] hreact in
/-- A plain large object is opened if the checks pass, and nothing more is asked of it. -/
theorem makeLargeObject_eq (demand : LargeObjectDemand) :
    (makeLargeObject react key demand).run w =
      let w₁ := ((perform react key .admitLargeObject).run w).2
      match c.largeObjectChecks demand with
      | .error fault => (.error fault, w₁)
      | .ok request => (openLargeObject react key request).run w₁ := by
  have h := yieldsBound_largeObjectWith hc react demand LargeObject.connection
    (openLargeObject react key)
  unfold makeLargeObject
  rw [Play.run_bind]
  cases hchecks : c.largeObjectChecks demand with
  | error fault =>
    rw [h.eq_of_error hchecks]
    rfl
  | ok request =>
    rw [h.eq_of_ok hchecks fun _ => connection_of_openLargeObject]
    rfl

end Reacting

/-! ## Identifiers of connections -/

variable {connector : κ} {hook : Nat → Nat} {w' : World κ σ} {j k : Nat} {d : Connection σ}

/-- Connections are where their keys say. -/
theorem Reached.key_eq (h : Reached { connector, hook } w) (hc : w.connections[key]? = some c) :
    c.key = key := by
  induction h generalizing c with
  | refl => exact nomatch hc
  | tail _ hmove ih =>
    cases hmove.fate key with
    | kept mailbox connection _ _ =>
      rw [connection] at hc
      obtain ⟨c₁, hc₁, rfl⟩ := Option.map_eq_some_iff.1 hc
      have hkey : c₁.key = key := ih hc₁
      exact hkey
    | performed c₁ op before after _ _ =>
      cases after.symm.trans hc
      have hkey : c₁.key = key := ih before
      exact hkey
    | opened c₁ _ _ _ _ _ _ created after _ _ =>
      cases after.symm.trans hc
      rw [created]
      rfl
    | unopened c₁ _ _ _ _ _ created after _ _ =>
      cases after.symm.trans hc
      rw [created]
      rfl

/-- As long as the counter has not started over, the bearer of an identifier is a connection if and only
if the connection reports it. -/
theorem Reached.bearer_eq_iff (h : Reached { connector, hook } w)
    (hsize : w.connections.length ≤ UInt64.size) (hc : w.connections[key]? = some c) (id : UInt64) :
    bearer id = key ↔ id = c.identifier := by
  have hkey : key < UInt64.size := Nat.lt_of_lt_of_le (List.getElem?_eq_some_iff.1 hc).1 hsize
  rw [SessionLayer.bearer_eq_iff hkey, Connection.identifier, h.key_eq hc]

/-- No two connections report the same identifier. -/
theorem Reached.identifier_eq_iff (h : Reached { connector, hook } w)
    (hsize : w.connections.length ≤ UInt64.size) (hc : w.connections[j]? = some c)
    (h' : Reached { connector, hook } w') (hsize' : w'.connections.length ≤ UInt64.size)
    (hd : w'.connections[k]? = some d) : c.identifier = d.identifier ↔ j = k := by
  have hbearer := (h.bearer_eq_iff hsize hc c.identifier).2 rfl
  rw [← h'.bearer_eq_iff hsize' hd, hbearer]

/-- Objects that are told by the identifier of their connection are vetted. -/
theorem Reached.vetsObjects (h : Reached { connector, hook } w)
    (hsize : w.connections.length ≤ UInt64.size) (hc : w.connections[key]? = some c)
    (hreact : ∀ listener signal, Keeps Reached (react listener signal)) {γ : Type}
    (reported : γ → UInt64) :
    VetsObjects react key c w (bearer ∘ reported) (reported · = c.identifier) :=
  (World.vetsObjects hreact hc (bearer ∘ reported)).congr fun product =>
    (h.bearer_eq_iff hsize hc (reported product)).symm

/-! ## The statement -/

/-- Factories can only yield bound objects. In every state of a connection, whatever its reactor and the
factory do, the factory is called if and only if all checks pass, once and after them, and its own fault
is the result; what it makes is accepted if it reports this connection, and a cursor the name that was
asked for, and rejected because of its type if not. The plain factories make nothing else, so that for
them the checks before decide. Connections report identifiers in the order in which they are made, and
until their counter starts over no two connections report the same one; so what one connection accepts,
as a cursor or as a large object, of whatever factory, is of no other one, and no other one accepts it. -/
theorem factories_yield_bound_objects (connector : κ) (hook : Nat → Nat) :
    (∀ w : World κ σ, Reached { connector, hook } w → ∀ (key : Nat) (c : Connection σ),
      w.connections[key]? = some c → ∀ react : Reactor κ σ,
      (∀ listener signal, Keeps Reached (react listener signal)) →
        (∀ {γ : Type} (connectionOf : γ → Nat),
          VetsObjects react key c w connectionOf (connectionOf · = key)) ∧
        (∀ name, (makeCursor react key name).run w =
          let w₁ := ((perform react key .admitCursor).run w).2
          match c.cursorChecks name with
          | .error fault => (.error fault, w₁)
          | .ok name =>
            (.ok w₁.cursors.length,
              { w₁ with cursors := w₁.cursors ++ [{ connection := key, name }] })) ∧
        (∀ demand, (makeLargeObject react key demand).run w =
          let w₁ := ((perform react key .admitLargeObject).run w).2
          match c.largeObjectChecks demand with
          | .error fault => (.error fault, w₁)
          | .ok request => (openLargeObject react key request).run w₁) ∧
        c.identifier = nthIdentifier key ∧
        (w.connections.length ≤ UInt64.size → ∀ {γ : Type} (reported : γ → UInt64),
          VetsObjects react key c w (bearer ∘ reported) (reported · = c.identifier) ∧
          ∀ w' : World κ σ, Reached { connector, hook } w' → w'.connections.length ≤ UInt64.size →
            ∀ (k : Nat) (d : Connection σ), w'.connections[k]? = some d → k ≠ key →
              ∀ react' : Reactor κ σ, (∀ listener signal, Keeps Reached (react' listener signal)) →
              ∀ product : γ, Accepts react key w (bearer ∘ reported) product →
                reported product = c.identifier ∧ c.identifier ≠ d.identifier ∧
                ¬Accepts react' k w' (bearer ∘ reported) product)) ∧
    Fault.foreignCursor.cls = .type ∧ Fault.foreignLargeObject.cls = .type := by
  refine ⟨fun w hreached key c hc react hreact => ⟨World.vetsObjects hreact hc, makeCursor_eq hreact hc,
    makeLargeObject_eq hc, by rw [Connection.identifier, hreached.key_eq hc],
    fun hsize γ reported => ?_⟩, rfl, rfl⟩
  have hvets := hreached.vetsObjects hsize hc hreact reported
  refine ⟨hvets, fun w' hreached' hsize' k d hd hne react' hreact' product haccepts => ?_⟩
  have hdistinct : c.identifier ≠ d.identifier := fun hsame =>
    hne ((hreached.identifier_eq_iff hsize hc hreached' hsize' hd).1 hsame).symm
  have hown := hvets.of_accepts haccepts
  refine ⟨hown, hdistinct, fun hother => ?_⟩
  have hforeign := (hreached'.vetsObjects hsize' hd hreact' reported).of_accepts hother
  exact hdistinct (hown.symm.trans hforeign)

/-- A factory that closes the second of two connections and then makes a cursor of the first one: the
first connection accepts the cursor, and the second one rejects it. -/
theorem factories_yield_bound_objects_of_first :
    let start : World Script ScriptedSession := { connector := {}, hook := fun _ => 1 }
    let steps : List Step := [.on "first" (.openConnection "" false .standard .plain),
      .on "second" (.openConnection "" false .standard .plain)]
    let w := ((runSteps (fire 0) "" 0 steps).run start).2
    let factory : Option String → Play Script ScriptedSession (Except Fault (UInt64 × Option String)) :=
      fun name => do
        let _ ← perform (fire 0) 1 .close
        return .ok (nthIdentifier 0, name)
    let made := fun key =>
      ((cursorWith (fire 0) key (some "c") (bearer ∘ Prod.fst) Prod.snd factory).run w).1.made
    Reached start w ∧ w.connections.length = 2 ∧
      made 0 = .ok (nthIdentifier 0, some "c") ∧ made 1 = .error .foreignCursor ∧
      ¬Accepts (fire 0) 1 w (bearer ∘ Prod.fst) (nthIdentifier 0, some "c") := by
  intro start steps w factory made
  have hreached : Reached start w :=
    keeps_runSteps (conducts_of_attends (attends_fire (fun _ => conducts_of_attends) 0)) "" 0 steps start
  have hstate : w.connections.map (fun c => (c.guarded.status, c.asynchronous)) =
      [(.ready, false), (.ready, false)] := by decide +kernel
  have hlength : w.connections.length = 2 := by
    rw [← List.length_map, hstate]
    rfl
  have hpasses : ∀ key : Nat, (w.connections.map fun c => (c.guarded.status, c.asynchronous))[key]? =
      some (.ready, false) → ∃ c, w.connections[key]? = some c ∧
        c.cursorChecks (some "c") = .ok (some "c") := by
    intro key hpair
    rw [List.getElem?_map, Option.map_eq_some_iff] at hpair
    obtain ⟨c, hc, hfacts⟩ := hpair
    obtain ⟨hready, ha⟩ := Prod.mk.inj hfacts
    exact ⟨c, hc, by simp [Connection.cursorChecks, hready, ha, Status.isUsable]⟩
  obtain ⟨c, hc, hchecks⟩ := hpasses 0 (by rw [hstate]; rfl)
  obtain ⟨d, hd, hchecks'⟩ := hpasses 1 (by rw [hstate]; rfl)
  have hmade : ∀ w : World Script ScriptedSession,
      ((factory (some "c")).run w).1 = .ok (nthIdentifier 0, some "c") := fun _ => rfl
  have hsize : w.connections.length ≤ UInt64.size := by
    rw [hlength]
    decide
  have hbound := (factories_yield_bound_objects start.connector start.hook).1 w hreached
  obtain ⟨-, -, -, hidentifier, hreported⟩ := hbound 0 c hc (fire 0) (keeps_fire 0)
  obtain ⟨hvets, hothers⟩ := hreported hsize (Prod.fst : UInt64 × Option String → UInt64)
  obtain ⟨hvets', -⟩ := (hbound 1 d hd (fire 0) (keeps_fire 0)).2.2.2.2 hsize
    (Prod.fst : UInt64 × Option String → UInt64)
  have haccepted : made 0 = .ok (nthIdentifier 0, some "c") :=
    (hvets.cursor (some "c") Prod.snd factory).accepted _ _ hchecks (hmade _) ⟨hidentifier.symm, rfl⟩
  obtain ⟨-, hdistinct, hrejected⟩ := hothers w hreached hsize 1 d hd (by decide) (fire 0) (keeps_fire 0)
    _ (.inl ⟨_, _, _, haccepted⟩)
  refine ⟨hreached, hlength, haccepted, ?_, hrejected⟩
  refine (hvets'.cursor (some "c") Prod.snd factory).rejected _ _ hchecks' (hmade _) fun hown => ?_
  exact hdistinct (hidentifier.trans hown.1)

end Scenario.World

end SessionLayer
