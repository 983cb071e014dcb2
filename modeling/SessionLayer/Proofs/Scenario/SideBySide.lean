import SessionLayer.Proofs.Scenario.Footing

/-!
# Two worlds side by side

A `Coupling` is a relation between a grounded world and one of its twins that lasts when the same span is
run in both, when the same connection is opened in both, and when the same is done in both between spans.
A computation is `Coupled` if it answers the same in both worlds and leaves them related. All that a
client can do is so, and therefore so is every scenario, listeners included, however deep they nest.

That the hook makes no difference is a matter of two different worlds; an invariant that depends on the
hook is a coupling of each world with itself.
-/

set_option autoImplicit false

namespace SessionLayer.Scenario

/-- Whether an event tells neither of the wire nor of the hook. -/
def Event.isBystander : Event → Bool
  | .connected .. | .exchanged .. | .hookEntered _ | .hookLeft _ => false
  | _ => true

namespace World

variable {κ σ : Type} [WireSession σ] [Connector κ σ]

/-- A relation between worlds and their twins that spans and all that happens between them respect. -/
class Coupling (S : World κ σ → World κ σ → Prop) : Prop where
  twin : ∀ {w w' : World κ σ}, S w w' → w' = w.twin w'.hook w'.trace
  grounded : ∀ {w w' : World κ σ}, S w w' → w.Grounded
  furnish : ∀ {w w' w₁ : World κ σ}, S w w' → w.Furnishes w₁ → w₁.Grounded →
    S w₁ (w₁.twin w'.hook w'.trace)
  record : ∀ {w w' : World κ σ} {event : Event}, S w w' → event.isBystander →
    S (w.record event) (w'.record event)
  operating : ∀ {w w' : World κ σ} (key : Nat) (op : Operation), S w w' →
    (detached key (w.usesHook key op) (runSpan key (·.span op)) w).1 =
        (detached key (w.usesHook key op) (runSpan key (·.span op)) w').1 ∧
      S (w.operating key (w.usesHook key op) op) (w'.operating key (w.usesHook key op) op)
  opening : ∀ {w w' : World κ σ} (dsn : String) (asynchronous : Bool) (settings : Settings)
    (hooked : Bool), S w w' →
    (w.opening dsn asynchronous settings hooked).1 = (w'.opening dsn asynchronous settings hooked).1 ∧
      S (w.opening dsn asynchronous settings hooked).2 (w'.opening dsn asynchronous settings hooked).2

/-- What is read of a world without its hook and its past is the same of both. -/
theorem Coupling.read_eq {β : Type} {S : World κ σ → World κ σ → Prop} [Coupling S] {w w' : World κ σ}
    (hw : S w w') (read : World κ σ → β)
    (hblind : ∀ (w : World κ σ) hook trace, read (w.twin hook trace) = read w) : read w' = read w := by
  rw [Coupling.twin hw]
  exact hblind w _ _

end World

/-- In two related worlds with at least the given number of connections, a computation answers the same
and leaves related worlds behind, in which no connection is gone. -/
def Coupled {κ σ α : Type} (S : World κ σ → World κ σ → Prop) (n : Nat) (m : Play κ σ α) : Prop :=
  ∀ w w', S w w' → n ≤ w.connections.length →
    (m.run w).1 = (m.run w').1 ∧ S (m.run w).2 (m.run w').2 ∧
      w.connections.length ≤ (m.run w).2.connections.length

namespace Coupled

open World

variable {κ σ α β : Type} {S : World κ σ → World κ σ → Prop} {n n' : Nat}

theorem mono {m : Play κ σ α} (h : Coupled S n m) (hn : n ≤ n') : Coupled S n' m :=
  fun w w' hw hlength => h w w' hw (Nat.le_trans hn hlength)

theorem pure (x : α) : Coupled S n (Pure.pure x : Play κ σ α) :=
  fun _ _ hw _ => ⟨rfl, hw, Nat.le_refl _⟩

/-- What follows a computation may count on what it answers and on the connections that it leaves. -/
theorem bind_run {m : Play κ σ α} {next : α → Play κ σ β} (hm : Coupled S n m)
    (hnext : ∀ w w' : World κ σ, S w w' → n ≤ (m.run w).2.connections.length →
      Coupled S (m.run w).2.connections.length (next (m.run w).1)) : Coupled S n (m >>= next) := by
  intro w w' hw hlength
  obtain ⟨hsame, hafter, hgrows⟩ := hm w w' hw hlength
  obtain ⟨hsame', hafter', hgrows'⟩ :=
    hnext w w' hw (Nat.le_trans hlength hgrows) _ _ hafter (Nat.le_refl _)
  rw [Play.run_bind, Play.run_bind, ← hsame]
  exact ⟨hsame', hafter', Nat.le_trans hgrows hgrows'⟩

theorem bind {m : Play κ σ α} {next : α → Play κ σ β} (hm : Coupled S n m)
    (hnext : ∀ x, Coupled S n (next x)) : Coupled S n (m >>= next) := by
  intro w w' hw hlength
  obtain ⟨hsame, hafter, hgrows⟩ := hm w w' hw hlength
  obtain ⟨hsame', hafter', hgrows'⟩ := hnext _ _ _ hafter (Nat.le_trans hlength hgrows)
  rw [Play.run_bind, Play.run_bind, ← hsame]
  exact ⟨hsame', hafter', Nat.le_trans hgrows hgrows'⟩

variable [WireSession σ] [Connector κ σ] [Coupling S]

/-- What is looked up is the same in both worlds if it is neither the hook nor the past. -/
theorem bind_get {next : World κ σ → Play κ σ β}
    (hblind : ∀ (w : World κ σ) hook trace, next (w.twin hook trace) = next w)
    (hnext : ∀ w : World κ σ, w.Grounded → n ≤ w.connections.length →
      Coupled S w.connections.length (next w)) : Coupled S n (get >>= next) := by
  intro w w' hw hlength
  have hrun := hnext w (Coupling.grounded hw) hlength w w' hw (Nat.le_refl _)
  rw [Play.run_bind, Play.run_bind, Play.run_get, Play.run_get, Coupling.read_eq hw next hblind]
  exact hrun

theorem changeGet {f : World κ σ → α × World κ σ} (hf : Furnishing n fun w => (f w).2)
    (hfst : ∀ (w : World κ σ) hook trace, (f (w.twin hook trace)).1 = (f w).1) :
    Coupled S n (modifyGet f : Play κ σ α) := by
  intro w w' hw hlength
  simp only [Play.run_modifyGet]
  have hlength' := (hf.furnishes w).alike.length_connections
  have hafter := Coupling.furnish hw (hf.furnishes w) (hf.grounded w (Coupling.grounded hw) hlength)
  rw [← hf.twin, ← Coupling.twin hw] at hafter
  exact ⟨(Coupling.read_eq hw (fun w => (f w).1) hfst).symm, hafter, Nat.le_of_eq hlength'.symm⟩

theorem change {f : World κ σ → World κ σ} (hf : Furnishing n f) :
    Coupled S n (modify f : Play κ σ Unit) :=
  changeGet (f := fun w => ((), f w)) hf fun _ _ _ => rfl

theorem record {event : Event} (hevent : event.isBystander) :
    Coupled S n (modify (World.record event) : Play κ σ Unit) :=
  fun _ _ hw _ => ⟨rfl, Coupling.record hw hevent, Nat.le_refl _⟩

omit [WireSession σ] [Connector κ σ] [Coupling S] in
theorem forM {f : α → Play κ σ Unit} (hf : ∀ x, Coupled S n (f x)) (xs : List α) :
    Coupled S n (xs.forM f) := by
  induction xs with
  | nil => exact pure ()
  | cons x xs ih => exact bind (hf x) fun _ => ih

end Coupled

namespace World

variable {κ σ : Type} {S : World κ σ → World κ σ → Prop} {react : Reactor κ σ} {key n : Nat}

section Answers

/-! ## What factories answer -/

variable [WireSession σ]

/-- A cursor that is accepted is one of the connection that asked for it. -/
theorem connection_of_cursorWith {γ : Type} {name : Option String} {connectionOf : γ → Nat}
    {nameOf : γ → Option String} {factory : Option String → Play κ σ (Except Fault γ)}
    {w : World κ σ} {product : γ}
    (h : ((cursorWith react key name connectionOf nameOf factory).run w).1.made = .ok product) :
    connectionOf product = key := by
  unfold cursorWith at h
  rw [Play.run_bind] at h
  split at h
  · exact nomatch h
  · rw [Play.run_bind, Play.run_get] at h
    dsimp only at h
    split at h
    · exact nomatch h
    · rw [Play.run_bind] at h
      split at h
      · exact nomatch h
      · split at h
        · exact nomatch h
        · next hsame =>
          cases h
          exact Decidable.not_not.1 fun hne => hsame (Or.inl hne)

/-- A large object that is accepted is one of the connection that asked for it. -/
theorem connection_of_largeObjectWith {γ : Type} {demand : LargeObjectDemand} {connectionOf : γ → Nat}
    {factory : LargeObjectRequest → Play κ σ (Except Fault γ)} {w : World κ σ} {product : γ}
    (h : ((largeObjectWith react key demand connectionOf factory).run w).1.made = .ok product) :
    connectionOf product = key := by
  unfold largeObjectWith at h
  rw [Play.run_bind] at h
  split at h
  · exact nomatch h
  · split at h
    · exact nomatch h
    · rw [Play.run_bind] at h
      split at h
      · exact nomatch h
      · split at h
        · exact nomatch h
        · next hsame =>
          cases h
          exact Decidable.not_not.1 hsame

end Answers

variable [WireSession σ] [Connector κ σ] [Coupling S]

/-! ## Operations -/

section Operations

variable (hreact : ∀ listener signal, Coupled S 0 (react listener signal))

include hreact

theorem coupled_deliver (key : Nat) (batch : Batch) : Coupled S 0 (deliver react key batch) := by
  unfold deliver
  refine .bind_get (fun _ _ _ => rfl) fun w _ _ => .mono ?_ (Nat.zero_le _)
  split
  · exact .pure ()
  · split
    · refine .bind (.change (.modifyConnection key fun c => ⟨_, rfl⟩)) fun _ => ?_
      exact .bind (.record rfl) fun _ => .forM (fun told => hreact _ _) _
    · exact .pure ()

theorem coupled_settle (completion : Completion) : Coupled S 0 (settle react completion) := by
  have discarded : Coupled S 0
      (modify (World.record (.discarded completion.outcome)) : Play κ σ Unit) := .record rfl
  unfold settle
  refine .bind_get (fun _ _ _ => rfl) fun w _ _ => .mono ?_ (Nat.zero_le _)
  split
  · split
    · exact .bind (.change (.modifyCursor _ fun _ => rfl)) fun _ => .record rfl
    · exact discarded
  · split
    · exact hreact _ _
    · exact discarded
  · exact discarded

theorem coupled_conclude {α : Type} (key : Nat) (a : Aftermath α) :
    Coupled S 0 (conclude react key a) := by
  unfold conclude
  refine .bind (coupled_deliver hreact key a.batch) fun _ => ?_
  split
  · exact .bind (coupled_settle hreact _) fun _ => .pure _
  · exact .pure _

theorem coupled_perform (key : Nat) (op : Operation) : Coupled S 0 (perform react key op) := by
  intro w w' hw _
  have hhooked : w'.usesHook key op = w.usesHook key op :=
    Coupling.read_eq hw (usesHook · key op) fun _ _ _ => rfl
  obtain ⟨hsame, hafter⟩ := Coupling.operating key op hw
  obtain ⟨hsame', hafter', hgrows⟩ := coupled_conclude hreact key
    (detached key (w.usesHook key op) (runSpan key (·.span op)) w).1 _ _ hafter (Nat.zero_le _)
  have hlength := Nat.le_trans (HoldsOn.operating w key (w.usesHook key op) op).length_connections hgrows
  rw [perform_run_usesHook, perform_run_usesHook, hhooked]
  dsimp only
  rw [← hsame]
  split
  · obtain ⟨-, hcleared, hkept⟩ := Coupled.change (S := S)
      (.modifyConnection key fun c => ⟨c.mailbox.clear, rfl⟩) _ _ hafter' (Nat.zero_le _)
    exact ⟨hsame', hcleared, Nat.le_trans hlength hkept⟩
  · exact ⟨hsame', hafter', hlength⟩

theorem coupled_release (key : Nat) : Coupled S 0 (release react key) := by
  unfold release
  refine .bind_get (fun _ _ _ => rfl) fun w _ _ => .mono ?_ (Nat.zero_le _)
  split
  · exact .bind (coupled_perform hreact key .close) fun _ => .pure ()
  · exact .pure ()

/-- Once a session was attempted for a new connection, and what came of it is delivered, the connection
is there. -/
theorem coupled_opening {w w' : World κ σ} (hw : S w w') (dsn : String) (asynchronous : Bool)
    (settings : Settings) (hooked : Bool) :
    let concluded := fun w : World κ σ =>
      (conclude react w.connections.length (w.opening dsn asynchronous settings hooked).1).run
        (w.opening dsn asynchronous settings hooked).2
    (concluded w).1 = (concluded w').1 ∧ S (concluded w).2 (concluded w').2 ∧
      w.connections.length < (concluded w).2.connections.length := by
  obtain ⟨hsame, hafter⟩ := Coupling.opening dsn asynchronous settings hooked hw
  have hlength : w'.connections.length = w.connections.length :=
    Coupling.read_eq hw (·.connections.length) fun _ _ _ => rfl
  obtain ⟨hsame', hafter', hgrows⟩ := coupled_conclude hreact w.connections.length
    (w.opening dsn asynchronous settings hooked).1 _ _ hafter (Nat.zero_le _)
  rw [length_connections_opening] at hgrows
  dsimp only
  rw [hlength, ← hsame]
  exact ⟨hsame', hafter', hgrows⟩

theorem coupled_openConnection (dsn : String) (asynchronous : Bool) (settings : Settings)
    (hooked : Bool) : Coupled S 0 (openConnection react dsn asynchronous settings hooked) := by
  intro w w' hw _
  obtain ⟨hsame, hafter, hgrows⟩ := coupled_opening hreact hw dsn asynchronous settings hooked
  have hlength : w'.connections.length = w.connections.length :=
    Coupling.read_eq hw (·.connections.length) fun _ _ _ => rfl
  rw [openConnection_run, openConnection_run]
  dsimp only at hsame hafter hgrows ⊢
  rw [hlength] at hsame hafter ⊢
  rw [← hsame]
  split
  · exact ⟨rfl, hafter, Nat.le_of_lt hgrows⟩
  · obtain ⟨-, hreleased, hkept⟩ :=
      coupled_release hreact w.connections.length _ _ hafter (Nat.zero_le _)
    exact ⟨rfl, hreleased, Nat.le_trans (Nat.le_of_lt hgrows) hkept⟩

/-- The connection that is handed out exists. -/
theorem lt_of_openConnection {w w' : World κ σ} (hw : S w w') {dsn : String} {asynchronous : Bool}
    {settings : Settings} {hooked : Bool}
    (h : ((openConnection react dsn asynchronous settings hooked).run w).1 = .ok key) :
    key < ((openConnection react dsn asynchronous settings hooked).run w).2.connections.length := by
  obtain ⟨-, -, hgrows⟩ := coupled_opening hreact hw dsn asynchronous settings hooked
  rw [openConnection_run] at h ⊢
  dsimp only at hgrows h ⊢
  split at h
  · cases h
    simp only [*]
  · exact nomatch h

/-! ## Cursors and large objects -/

theorem coupled_number (key : Nat) (statement : String) {α : Type} (read : QueryResult → Option α) :
    Coupled S 0 (number react key statement read) := by
  unfold number
  refine .bind (coupled_perform hreact key _) fun result => ?_
  split
  · exact .pure _
  · split <;> exact .pure _

theorem coupled_cursorWith {γ : Type} (key : Nat) (name : Option String) (connectionOf : γ → Nat)
    (nameOf : γ → Option String) {factory : Option String → Play κ σ (Except Fault γ)}
    (hfactory : ∀ name, Coupled S 0 (factory name)) :
    Coupled S 0 (cursorWith react key name connectionOf nameOf factory) := by
  unfold cursorWith
  refine .bind (coupled_perform hreact key .admitCursor) fun result => ?_
  split
  · exact .pure _
  · refine .bind_get (fun _ _ _ => rfl) fun w _ _ => .mono ?_ (Nat.zero_le _)
    split
    · exact .pure _
    · refine .bind (hfactory name) fun product => ?_
      split
      · exact .pure _
      · split <;> exact .pure _

theorem coupled_makeCursor (hkey : key < n) (name : Option String) :
    Coupled S n (makeCursor react key name) := by
  have hmaking : Coupled S n (cursorWith react key name Cursor.connection Cursor.name fun name =>
      return .ok { connection := key, name }) :=
    (coupled_cursorWith hreact key name _ _ fun _ => .pure _).mono (Nat.zero_le _)
  unfold makeCursor
  refine .bind_run hmaking fun w _ _ hn => ?_
  split
  · exact .pure _
  · next cursor hmade =>
    have hcursor : cursor.connection = key := connection_of_cursorWith hmade
    exact .changeGet (.addCursor cursor (by omega)) fun _ _ _ => rfl

theorem coupled_executeCursor (key : Nat) (sql : String) :
    Coupled S 0 (executeCursor react key sql) := by
  unfold executeCursor
  refine .bind_get (fun _ _ _ => rfl) fun w _ _ => .mono ?_ (Nat.zero_le _)
  split
  · next cursor connection _ _ =>
    split
    · refine .bind (.change (.modifyCursor key fun _ => rfl)) fun _ => ?_
      refine .bind (coupled_perform hreact _ _) fun result => ?_
      split
      · exact .bind (.change (.modifyCursor key fun _ => rfl)) fun _ => .pure _
      · exact .pure _
    · split
      · exact .pure _
      · refine .bind (coupled_perform hreact _ _) fun outcome => ?_
        exact .bind (.change (.modifyCursor key fun _ => rfl)) fun _ => .pure _
  · exact .pure _

theorem coupled_largeObjectWith {γ : Type} (key : Nat) (demand : LargeObjectDemand)
    (connectionOf : γ → Nat) {factory : LargeObjectRequest → Play κ σ (Except Fault γ)}
    (hfactory : ∀ request, Coupled S 0 (factory request)) :
    Coupled S 0 (largeObjectWith react key demand connectionOf factory) := by
  unfold largeObjectWith
  refine .bind (coupled_perform hreact key .admitLargeObject) fun result => ?_
  split
  · exact .pure _
  · split
    · exact .pure _
    · refine .bind (hfactory _) fun product => ?_
      split
      · exact .pure _
      · split <;> exact .pure _

theorem coupled_openLargeObject (key : Nat) (request : LargeObjectRequest) :
    Coupled S 0 (openLargeObject react key request) := by
  have hoid : Coupled S 0 (resolveOid react key request) := by
    unfold resolveOid
    split
    · exact .pure _
    · exact coupled_number hreact key _ _
  have hdescriptor : ∀ oid, Coupled S 0 (resolveDescriptor react key request oid) := by
    intro oid
    unfold resolveDescriptor
    split
    · exact .pure _
    · exact .bind (coupled_number hreact key _ _) fun _ => .pure _
  unfold openLargeObject
  refine .bind_get (fun _ _ _ => rfl) fun w _ _ => .mono ?_ (Nat.zero_le _)
  split
  · exact .pure _
  · refine .bind hoid fun result => ?_
    split
    · exact .pure _
    · refine .bind (hdescriptor _) fun result => ?_
      split <;> exact .pure _

theorem coupled_makeLargeObject (key : Nat) (demand : LargeObjectDemand) :
    Coupled S 0 (makeLargeObject react key demand) :=
  .bind (coupled_largeObjectWith hreact key demand _ fun request =>
    coupled_openLargeObject hreact key request) fun _ => .pure _

/-! ## Holding and slots -/

theorem coupled_holding {α : Type} {holder : Holder} (key : Nat) {body : Play κ σ α}
    (hholder : ∀ k, holder = .connection k → k < n) (hbody : Coupled S n body) :
    Coupled S n (holding react holder key body) := by
  unfold holding
  refine .bind (.change (.hold holder hholder)) fun _ => .bind hbody fun x => ?_
  refine .bind (.change .unhold) fun _ => ?_
  exact .bind ((coupled_release hreact key).mono (Nat.zero_le _)) fun _ => .pure _

theorem coupled_withConnection (slot : String) {body : Nat → Play κ σ Reply}
    (hbody : ∀ key, Coupled S (key + 1) (body key)) : Coupled S 0 (withConnection react slot body) := by
  unfold withConnection
  refine .bind_get (fun _ _ _ => rfl) fun w hw _ => ?_
  split
  · exact .pure _
  · next key hget =>
    have hkey : key < w.connections.length := hw.slot key (Slots.mem_contents_of_get? hget)
    refine coupled_holding hreact key (fun k hk => ?_) ((hbody key).mono hkey)
    cases hk
    exact hkey

theorem coupled_withCursor (slot : String) {body : Nat → Cursor → Play κ σ Reply}
    (hbody : ∀ key cursor, Coupled S 0 (body key cursor)) :
    Coupled S 0 (withCursor react slot body) := by
  unfold withCursor
  refine .bind_get (fun _ _ _ => rfl) fun w _ _ => .mono ?_ (Nat.zero_le _)
  split
  · exact .pure _
  · split
    · exact .pure _
    · exact coupled_holding hreact _ (fun _ hk => nomatch hk) (hbody _ _)

theorem coupled_fillConnectionSlot (slot : String) (hkey : key < n) :
    Coupled S n (fillConnectionSlot react slot key) := by
  unfold fillConnectionSlot
  refine .bind_get (fun _ _ _ => rfl) fun w _ hn => ?_
  refine .bind (.change (.putConnection slot (Nat.lt_of_lt_of_le hkey hn))) fun _ => ?_
  split
  · exact (coupled_release hreact _).mono (Nat.zero_le _)
  · exact .pure _

theorem coupled_openConnection_fill (slot dsn : String) (asynchronous : Bool) (settings : Settings)
    (hooked : Bool) :
    Coupled S 0 (do
      match ← openConnection react dsn asynchronous settings hooked with
      | .error fault => return .fault fault
      | .ok key =>
        fillConnectionSlot react slot key
        return .done : Play κ σ Reply) := by
  refine .bind_run (coupled_openConnection hreact dsn asynchronous settings hooked) fun w w' hw _ => ?_
  split
  · exact .pure _
  · next key hopened =>
    have hkey := lt_of_openConnection hreact hw hopened
    exact .bind (coupled_fillConnectionSlot hreact slot hkey) fun _ => .pure _

theorem coupled_fillCursorSlot (slot : String) (key : Nat) :
    Coupled S 0 (fillCursorSlot react slot key) := by
  unfold fillCursorSlot
  refine .bind_get (fun _ _ _ => rfl) fun w _ _ => .mono ?_ (Nat.zero_le _)
  refine .bind (.change (.setCursorSlots (·.put slot key))) fun _ => ?_
  split
  · exact coupled_release hreact _
  · exact .pure _

theorem coupled_fillLargeObjectSlot (slot : String) {object : LargeObject}
    (hobject : object.connection < n) : Coupled S n (fillLargeObjectSlot react slot object) := by
  unfold fillLargeObjectSlot
  refine .bind_get (fun _ _ _ => rfl) fun w _ hn => ?_
  refine .bind (.change (.putLargeObject slot object (Nat.lt_of_lt_of_le hobject hn))) fun _ => ?_
  split
  · exact (coupled_release hreact _).mono (Nat.zero_le _)
  · exact .pure _

theorem coupled_dropConnection (slot : String) : Coupled S 0 (dropConnection react slot) := by
  unfold dropConnection
  refine .bind_get (fun _ _ _ => rfl) fun w _ _ => .mono ?_ (Nat.zero_le _)
  split
  · exact .pure _
  · refine .bind (.change (.eraseConnection slot)) fun _ => ?_
    exact .bind (coupled_release hreact _) fun _ => .pure _

theorem coupled_dropCursor (slot : String) : Coupled S 0 (dropCursor react slot) := by
  unfold dropCursor
  refine .bind_get (fun _ _ _ => rfl) fun w _ _ => .mono ?_ (Nat.zero_le _)
  split
  · exact .pure _
  · refine .bind (.change (.setCursorSlots (·.erase slot))) fun _ => ?_
    split
    · exact .bind (coupled_release hreact _) fun _ => .pure _
    · exact .pure _

theorem coupled_dropLargeObject (slot : String) : Coupled S 0 (dropLargeObject react slot) := by
  unfold dropLargeObject
  refine .bind_get (fun _ _ _ => rfl) fun w _ _ => .mono ?_ (Nat.zero_le _)
  split
  · exact .pure _
  · refine .bind (.change (.eraseLargeObject slot)) fun _ => ?_
    exact .bind (coupled_release hreact _) fun _ => .pure _

theorem coupled_letGo : Coupled S 0 (letGo react) := by
  unfold letGo
  refine .bind_get (fun _ _ _ => rfl) fun w _ _ => .mono ?_ (Nat.zero_le _)
  refine .bind (.forM (fun name => ?_) _) fun _ => ?_
  · exact .bind (coupled_dropLargeObject hreact name) fun _ => .pure _
  refine .bind_get (fun _ _ _ => rfl) fun w _ _ => .mono ?_ (Nat.zero_le _)
  refine .bind (.forM (fun name => ?_) _) fun _ => ?_
  · exact .bind (coupled_dropCursor hreact name) fun _ => .pure _
  refine .bind_get (fun _ _ _ => rfl) fun w _ _ => .mono ?_ (Nat.zero_le _)
  refine .forM (fun name => ?_) _
  exact .bind (coupled_dropConnection hreact name) fun _ => .pure _

/-! ## Steps and scenarios -/

theorem coupled_drive (key limit : Nat) (answers : List Readiness) :
    Coupled S 0 (drive react key limit answers) := by
  induction limit generalizing answers with
  | zero => exact .pure _
  | succ n ih =>
    unfold drive
    refine .bind (coupled_perform hreact key .poll) fun result => ?_
    split
    · exact .pure _
    · exact .pure _
    · exact ih _

/-- Whatever an action does, it answers the same in both worlds. -/
theorem coupled_act (slot : String) (action : Action) : Coupled S 0 (act react slot action) := by
  have hconnection : ∀ {body : Nat → Play κ σ Reply}, (∀ key, Coupled S 0 (body key)) →
      Coupled S 0 (withConnection react slot body) := fun hbody =>
    coupled_withConnection hreact slot fun key => (hbody key).mono (Nat.zero_le _)
  cases action with
  | openConnection dsn asynchronous settings route =>
    exact coupled_openConnection_fill hreact slot dsn asynchronous _ _
  | dropConnection => exact coupled_dropConnection hreact slot
  | dropCursor name => exact coupled_dropCursor hreact name
  | dropLargeObject name => exact coupled_dropLargeObject hreact name
  | dropOwner id =>
    refine .bind_get (fun _ _ _ => rfl) fun w _ _ => ?_
    split
    · exact .pure _
    · refine .bind (.change (.of_listeners ?_ ?_ fun _ _ _ => rfl)) fun _ => .pure _
      · exact fun _ => .of_eq rfl rfl rfl rfl rfl
      · exact fun _ => ⟨rfl, rfl, rfl, rfl, rfl, Nat.le_refl _⟩
  | perform op => exact hconnection fun key => .bind (coupled_perform hreact key op) fun _ => .pure _
  | drive limit => exact hconnection fun key => coupled_drive hreact key limit []
  | submit sql owner =>
    refine hconnection fun key => .bind_get (fun _ _ _ => rfl) fun w _ _ => .mono ?_ (Nat.zero_le _)
    exact .bind (coupled_perform hreact key _) fun _ => .pure _
  | makeOwner id limit steps =>
    refine .changeGet (.of_listeners ?_ ?_ fun _ _ _ => rfl) fun _ _ _ => rfl
    · exact fun _ => .of_eq rfl rfl rfl rfl rfl
    · exact fun _ => ⟨rfl, rfl, rfl, rfl, rfl, Nat.le_refl _⟩
  | observe id limit steps =>
    refine hconnection fun key => .changeGet (.of_listeners ?_ ?_ fun _ _ _ => rfl) fun _ _ _ => rfl
    · exact fun w => ⟨(Idle.observe w key _).alike, rfl, rfl, rfl⟩
    · exact fun w => ⟨rfl, rfl, rfl, rfl, rfl, Nat.le_of_eq (List.length_modify ..).symm⟩
  | makeCursor name cursorName =>
    refine coupled_withConnection hreact slot fun key => ?_
    refine .bind (coupled_makeCursor hreact (Nat.lt_add_one key) cursorName) fun result => ?_
    split
    · exact .pure _
    · refine .bind ((coupled_fillCursorSlot hreact name _).mono (Nat.zero_le _)) fun _ => .pure _
  | cursorExecute name sql =>
    refine coupled_withCursor hreact name fun key _ => ?_
    exact .bind (coupled_executeCursor hreact key sql) fun _ => .pure _
  | cursorResults name | cursorExecuting name =>
    exact coupled_withCursor hreact name fun _ _ => .pure _
  | cursorInfo name =>
    refine coupled_withCursor hreact name fun _ _ => ?_
    exact .bind_get (fun _ _ _ => rfl) fun _ _ _ => .pure _
  | cursorWith name product =>
    refine hconnection fun key => ?_
    exact .bind (coupled_cursorWith hreact key name _ _ fun _ => .pure _) fun _ => .pure _
  | makeLargeObject name demand =>
    refine coupled_withConnection hreact slot fun key => ?_
    refine .bind_run ((coupled_makeLargeObject hreact key demand).mono (Nat.zero_le _))
      fun w _ _ hn => ?_
    split
    · exact .pure _
    · next object hmade =>
      have hobject : object.connection = key := connection_of_largeObjectWith hmade
      exact .bind (coupled_fillLargeObjectSlot hreact name (by omega)) fun _ => .pure _
  | largeObjectInfo name =>
    refine .bind_get (fun _ _ _ => rfl) fun w _ _ => ?_
    split <;> exact .pure _
  | largeObjectWith demand product =>
    refine hconnection fun key => ?_
    refine .bind (coupled_largeObjectWith hreact key demand _ fun _ => .pure _) fun _ => ?_
    exact .bind_get (fun _ _ _ => rfl) fun _ _ _ => .pure _
  | notices | notifications | sessionInfo =>
    exact hconnection fun _ => .bind_get (fun _ _ _ => rfl) fun _ _ _ => .pure _
  | takeNotifications =>
    refine hconnection fun key => .bind_get (fun _ _ _ => rfl) fun w _ _ => ?_
    split
    · exact .pure _
    · exact .bind (.change (.modifyConnection key fun c => ⟨_, rfl⟩)) fun _ => .pure _
  | accessors =>
    refine hconnection fun key => .bind_get (fun _ _ _ => rfl) fun w _ _ => ?_
    split <;> exact .pure _
  | compareKeys first second =>
    refine .bind_get (fun _ _ _ => rfl) fun w _ _ => ?_
    dsimp only
    split <;> exact .pure _

theorem coupled_runSteps (id : String) (index : Nat) (steps : List Step) :
    Coupled S 0 (runSteps react id index steps) := by
  induction steps generalizing index with
  | nil => exact .pure ()
  | cons s rest ih =>
    refine .bind (coupled_act hreact s.slot s.action) fun reply => ?_
    exact .bind (.record rfl) fun _ => ih _

/-- A report shows some of the past, but what a step does cannot depend on that. -/
theorem coupled_reports {w w' : World κ σ} (hw : S w w') (steps : List Step) :
    S ((steps.mapM (report react)).run w).2 ((steps.mapM (report react)).run w').2 := by
  induction steps generalizing w w' with
  | nil => exact hw
  | cons s rest ih =>
    obtain ⟨-, hafter, -⟩ := coupled_act hreact s.slot s.action w w' hw (Nat.zero_le _)
    rw [List.mapM_cons]
    exact ih hafter

end Operations

omit [WireSession σ] [Connector κ σ] [Coupling S] in
theorem furnishing_fired (key fired : Nat) :
    Furnishing n (modifyListener key ({ · with fired }) : World κ σ → World κ σ) := by
  refine .of_listeners (fun _ => .of_eq rfl rfl rfl rfl rfl) (fun _ => ?_) fun _ _ _ => rfl
  exact ⟨rfl, rfl, rfl, rfl, rfl, Nat.le_refl _⟩

/-- The listeners of a scenario do the same in both worlds, however deep they nest. -/
theorem coupled_fire (depth key : Nat) (signal : Signal) :
    Coupled S 0 (fire depth key signal : Play κ σ Unit) := by
  induction depth generalizing key signal with
  | zero =>
    unfold fire
    refine .bind_get (fun _ _ _ => rfl) fun w _ _ => .mono ?_ (Nat.zero_le _)
    split
    · exact .pure ()
    · exact .bind (.record rfl) fun _ => .bind (.change (furnishing_fired key _)) fun _ => .pure ()
  | succ depth ih =>
    unfold fire
    refine .bind_get (fun _ _ _ => rfl) fun w _ _ => .mono ?_ (Nat.zero_le _)
    split
    · exact .pure ()
    · refine .bind (.record rfl) fun _ => .bind (.change (furnishing_fired key _)) fun _ => ?_
      dsimp only
      split
      · refine .bind (.change (.hold (.listener key) fun _ hk => nomatch hk)) fun _ => ?_
        exact .bind (coupled_runSteps ih _ _ _) fun _ => .change .unhold
      · exact .pure ()

/-- So does every scenario, and so do its steps up to any one of them. -/
theorem coupled_play {w w' : World κ σ} (hw : S w w') (steps : List Step) :
    S ((play steps).run w).2 ((play steps).run w').2 := by
  have hreact := coupled_fire (S := S) (stepFirings steps)
  exact (coupled_letGo hreact _ _ (coupled_reports hreact hw steps) (Nat.zero_le _)).2.1

end World

end SessionLayer.Scenario
