import SessionLayer.Proofs.Scenario.Retains

/-!
# Computations of a scenario

A computation `Keeps` to a relation between worlds if it gets from each world to one that is related to
it. `Passage` is what a relation needs for that, and `Conducts` what a reactor needs, so that every
action of a client keeps to the relation. A reactor `Attends` to a relation if it does so from the
moment at which a listener is told; the listeners of a scenario do, however deep they nest.

There are three sorts of passages: a `Drift` has nothing to do with what is held, a `Passive` relation
nothing with what cursors go through, and a `Course` knows of nothing but connections and sessions.
-/

set_option autoImplicit false

namespace SessionLayer.Scenario

/-- A relation between worlds that computations can keep to. -/
class Passage {κ σ : Type} (R : World κ σ → World κ σ → Prop) : Prop where
  refl : ∀ w, R w w
  trans : ∀ {w w₁ w₂}, R w w₁ → R w₁ w₂ → R w w₂
  yields : ∀ {w w' : World κ σ}, w.Yields none w' → R w w'
  /-- A listener holds itself for as long as its steps run. -/
  listening : ∀ {w w₁ : World κ σ} {key : Nat}, key < w.listeners.length →
    R (w.hold (.listener key)) w₁ → R w w₁.unhold

/-- A relation for which nothing minor matters, nor what is held. -/
class Drift {κ σ : Type} (R : World κ σ → World κ σ → Prop) : Prop where
  refl : ∀ w, R w w
  trans : ∀ {w w₁ w₂}, R w w₁ → R w₁ w₂ → R w w₂
  minor : ∀ {w w' : World κ σ}, w.Minor w' → R w w'

/-- A relation for which neither messages nor outcomes matter. -/
class Passive {κ σ : Type} (R : World κ σ → World κ σ → Prop) : Prop extends Passage R where
  idle : ∀ {w w' : World κ σ}, w.Idle w' → w.Retains none w' → R w w'

/-- A relation for which nothing matters but connections and what is said to their sessions. -/
class Course {κ σ : Type} (R : World κ σ → World κ σ → Prop) : Prop where
  refl : ∀ w, R w w
  trans : ∀ {w w₁ w₂}, R w w₁ → R w₁ w₂ → R w w₂
  quiet : ∀ {w w' : World κ σ}, w.Alike w' → R w w'

section Sorts

variable {κ σ : Type} {R : World κ σ → World κ σ → Prop}

/-- What a listener holds while it runs does not matter. -/
theorem Drift.bracket [Drift R] {w w₁ : World κ σ} {holder : Holder} (hholder : w.Holdable holder)
    (h : R (w.hold holder) w₁) : R w w₁.unhold :=
  Drift.trans (Drift.minor (.hold holder hholder)) (Drift.trans h (Drift.minor (.unhold w₁)))

instance Drift.passage [Drift R] : Passage R where
  refl := Drift.refl
  trans := Drift.trans
  yields := fun h => Drift.minor h.minor
  listening := fun {w _ key} hkey h => Drift.bracket (show w.Holdable (.listener key) from hkey) h

instance Course.drift [Course R] : Drift R where
  refl := Course.refl
  trans := Course.trans
  minor := fun h => Course.quiet h.still.toAlike

instance Course.passive [Course R] : Passive R where
  idle := fun h _ => Course.quiet h.alike

end Sorts

namespace Play

variable {κ σ α β : Type} (w : World κ σ)

/-- What follows a computation starts from the world that it leaves behind. -/
theorem run_bind (m : Play κ σ α) (next : α → Play κ σ β) :
    (m >>= next).run w = (next (m.run w).1).run (m.run w).2 :=
  rfl

theorem run_pure (x : α) : (pure x : Play κ σ α).run w = (x, w) :=
  rfl

theorem run_get : (get : Play κ σ (World κ σ)).run w = (w, w) :=
  rfl

theorem run_modify (f : World κ σ → World κ σ) : (modify f : Play κ σ Unit).run w = ((), f w) :=
  rfl

theorem run_modifyGet (f : World κ σ → α × World κ σ) : (modifyGet f : Play κ σ α).run w = f w :=
  rfl

end Play

/-- A computation that gets from each world to one that is related to it. -/
def Keeps {κ σ α : Type} (R : World κ σ → World κ σ → Prop) (m : Play κ σ α) : Prop :=
  ∀ w, R w (m.run w).2

namespace Keeps

variable {κ σ α β : Type} {R : World κ σ → World κ σ → Prop}

theorem bind_get {next : World κ σ → Play κ σ β} (hnext : ∀ w, Keeps R (next w)) :
    Keeps R (get >>= next) :=
  fun w => hnext w w

theorem change [Course R] {f : World κ σ → World κ σ} (hf : ∀ w : World κ σ, w.Alike (f w)) :
    Keeps R (modify f : Play κ σ Unit) :=
  fun w => Course.quiet (hf w)

theorem idle [Passive R] {f : World κ σ → World κ σ}
    (hf : ∀ w : World κ σ, w.Idle (f w) ∧ w.Retains none (f w)) :
    Keeps R (modify f : Play κ σ Unit) :=
  fun w => Passive.idle (hf w).1 (hf w).2

theorem idleGet [Passive R] {f : World κ σ → α × World κ σ}
    (hf : ∀ w : World κ σ, w.Idle (f w).2 ∧ w.Retains none (f w).2) :
    Keeps R (modifyGet f : Play κ σ α) :=
  fun w => Passive.idle (hf w).1 (hf w).2

variable [Passage R]

theorem pure (x : α) : Keeps R (Pure.pure x : Play κ σ α) :=
  fun w => Passage.refl w

theorem bind {m : Play κ σ α} {next : α → Play κ σ β} (hm : Keeps R m)
    (hnext : ∀ x, Keeps R (next x)) : Keeps R (m >>= next) :=
  fun w => Passage.trans (hm w) (hnext _ _)

theorem yields {f : World κ σ → World κ σ} (hf : ∀ w : World κ σ, w.Yields none (f w)) :
    Keeps R (modify f : Play κ σ Unit) :=
  fun w => Passage.yields (hf w)

theorem yieldsGet {f : World κ σ → α × World κ σ} (hf : ∀ w : World κ σ, w.Yields none (f w).2) :
    Keeps R (modifyGet f : Play κ σ α) :=
  fun w => Passage.yields (hf w)

theorem forM {f : α → Play κ σ Unit} (hf : ∀ x, Keeps R (f x)) (xs : List α) :
    Keeps R (xs.forM f) := by
  induction xs with
  | nil => exact pure ()
  | cons x xs ih => exact bind (hf x) fun _ => ih

theorem mapM {f : α → Play κ σ β} (hf : ∀ x, Keeps R (f x)) (xs : List α) :
    Keeps R (xs.mapM f) := by
  induction xs with
  | nil => exact pure []
  | cons x xs ih =>
    rw [List.mapM_cons]
    exact bind (hf x) fun _ => bind ih fun _ => pure _

end Keeps

namespace World

variable {κ σ : Type} {R : World κ σ → World κ σ → Prop}

/-! ## Cursors and large objects -/

section Factories

variable [Passage R] [WireSession σ] {react : Reactor κ σ} {key : Nat}

theorem keeps_number {statement : String} (hperform : Keeps R (perform react key (.execute statement)))
    {α : Type} (read : QueryResult → Option α) : Keeps R (number react key statement read) := by
  unfold number
  refine .bind hperform fun result => ?_
  split
  · exact .pure _
  · split <;> exact .pure _

theorem keeps_cursorWith (hadmitted : Keeps R (perform react key .admitCursor)) {γ : Type}
    (name : Option String) (connectionOf : γ → Nat) (nameOf : γ → Option String)
    {factory : Option String → Play κ σ (Except Fault γ)} (hfactory : ∀ name, Keeps R (factory name)) :
    Keeps R (cursorWith react key name connectionOf nameOf factory) := by
  unfold cursorWith
  refine .bind hadmitted fun result => ?_
  split
  · exact .pure _
  · refine .bind_get fun w => ?_
    split
    · exact .pure _
    · refine .bind (hfactory name) fun product => ?_
      split
      · exact .pure _
      · split <;> exact .pure _

theorem keeps_largeObjectWith (hadmitted : Keeps R (perform react key .admitLargeObject)) {γ : Type}
    (demand : LargeObjectDemand) (connectionOf : γ → Nat)
    {factory : LargeObjectRequest → Play κ σ (Except Fault γ)}
    (hfactory : ∀ request, Keeps R (factory request)) :
    Keeps R (largeObjectWith react key demand connectionOf factory) := by
  unfold largeObjectWith
  refine .bind hadmitted fun result => ?_
  split
  · exact .pure _
  · split
    · exact .pure _
    · refine .bind (hfactory _) fun product => ?_
      split
      · exact .pure _
      · split <;> exact .pure _

/-- The statements of a request for a large object are all that the plain factory runs. -/
theorem keeps_openLargeObject {request : LargeObjectRequest}
    (hcreation : ∀ statement, request.creation = some statement →
      Keeps R (perform react key (.execute statement)))
    (hopening : ∀ oid statement, request.opening oid = some statement →
      Keeps R (perform react key (.execute statement))) :
    Keeps R (openLargeObject react key request) := by
  have hoid : Keeps R (resolveOid react key request) := by
    unfold resolveOid
    split
    · exact .pure _
    · rename_i statement hstatement
      exact keeps_number (hcreation statement hstatement) _
  have hdescriptor : ∀ oid, Keeps R (resolveDescriptor react key request oid) := by
    intro oid
    unfold resolveDescriptor
    split
    · exact .pure _
    · rename_i statement hstatement
      exact .bind (keeps_number (hopening oid statement hstatement) _) fun _ => .pure _
  unfold openLargeObject
  refine .bind_get fun w => ?_
  split
  · exact .pure _
  · refine .bind hoid fun result => ?_
    split
    · exact .pure _
    · refine .bind (hdescriptor _) fun result => ?_
      split <;> exact .pure _

theorem keeps_makeLargeObject (hadmitted : Keeps R (perform react key .admitLargeObject))
    (hopen : ∀ request, Keeps R (openLargeObject react key request)) (demand : LargeObjectDemand) :
    Keeps R (makeLargeObject react key demand) :=
  .bind (keeps_largeObjectWith hadmitted demand _ hopen) fun _ => .pure _

end Factories

/-! ## Delivery -/

/-- A batch is put into the mailbox of a connection. -/
def absorbing (key : Nat) (batch : Batch) (w : World κ σ) : World κ σ :=
  match w.connections[key]? with
  | none => w
  | some c =>
    if batch.isEmpty then w
    else (w.modifyConnection key ({ · with mailbox := (c.mailbox.absorb batch).2 })).record
      (.absorbed key batch (c.mailbox.absorb batch).1)

/-- Who is to be told of which notice, once a batch is in the mailbox. -/
def showings (w : World κ σ) (key : Nat) (batch : Batch) : List (Nat × String) :=
  match w.connections[key]? with
  | none => []
  | some c => Mailbox.showings (c.mailbox.absorb batch).1 batch

theorem Still.absorbing (w : World κ σ) (key : Nat) (batch : Batch) :
    w.Still (w.absorbing key batch) := by
  unfold World.absorbing
  split
  · exact .refl w
  · split
    · exact .refl w
    · exact (Still.modifyConnection w key fun c => ⟨_, rfl⟩).trans (.record _ rfl rfl)

theorem Retains.absorbing (w : World κ σ) (key : Nat) (batch : Batch) :
    w.Retains none (w.absorbing key batch) := by
  unfold World.absorbing
  split
  · exact .refl w
  · split
    · exact .refl w
    · exact .of_eq rfl rfl rfl rfl rfl

/-- Messages are put into the mailbox first, and then observers are told of the notices. -/
theorem deliver_run (react : Reactor κ σ) (key : Nat) (batch : Batch) (w : World κ σ) :
    (deliver react key batch).run w =
      ((w.showings key batch).forM fun told => react told.1 (.notice told.2)).run
        (w.absorbing key batch) := by
  unfold deliver showings absorbing
  rw [Play.run_bind, Play.run_get]
  cases hc : w.connections[key]? with
  | none => rfl
  | some c =>
    by_cases hempty : batch.isEmpty
    · have hnone : Mailbox.showings (c.mailbox.absorb batch).1 batch = [] := by
        simp only [Batch.isEmpty, Bool.and_eq_true, List.isEmpty_iff] at hempty
        simp [Mailbox.showings, hempty]
      simp only [hempty, Bool.not_true, Bool.false_eq_true, if_false, if_true, hnone]
      rfl
    · simp only [hempty, Bool.not_false, if_true, Bool.false_eq_true, if_false]
      rfl

theorem keeps_deliver [Passage R] {react : Reactor κ σ} {key : Nat} {batch : Batch}
    (habsorbing : ∀ w : World κ σ, R w (w.absorbing key batch))
    (hnotice : ∀ listener notice, Keeps R (react listener (.notice notice))) :
    Keeps R (deliver react key batch) := by
  intro w
  rw [deliver_run]
  have htold := Keeps.forM (fun told : Nat × String => hnotice told.1 told.2) (w.showings key batch)
  exact Passage.trans (habsorbing w) (htold _)

/-! ## What a reactor needs -/

/-- A listener is told something. -/
def announce (listener : Nat) (signal : Signal) (w : World κ σ) : World κ σ :=
  match w.listeners[listener]? with
  | none => w
  | some l =>
    (w.record (.signalled listener l.id signal)).modifyListener listener
      ({ · with fired := l.fired + 1 })

theorem Alike.announce (w : World κ σ) (listener : Nat) (signal : Signal) :
    w.Alike (w.announce listener signal) := by
  unfold World.announce
  split
  · exact .refl w
  · rename_i l _
    exact (Alike.record w rfl).trans (.of_eq rfl rfl rfl)

theorem length_listeners_announce (w : World κ σ) (listener : Nat) (signal : Signal) :
    (w.announce listener signal).listeners.length = w.listeners.length := by
  unfold announce
  split
  · rfl
  · exact List.length_modify ..

/-- A notice is no outcome. -/
theorem Still.announce_notice (w : World κ σ) (listener : Nat) (notice : String) :
    w.Still (w.announce listener (.notice notice)) where
  toAlike := .announce w listener _
  toCalm := by
    have hlength := w.length_listeners_announce listener (.notice notice)
    cases hlistener : w.listeners[listener]? with
    | none =>
      rw [World.announce, hlistener]
      exact .refl w
    | some l =>
      rw [World.announce, hlistener] at hlength ⊢
      have hrecorded : w.Calm (w.record (.signalled listener l.id (.notice notice))) := .record w rfl
      exact
        { hrecorded with
          length_listeners := Nat.le_of_eq hlength.symm
          listenerHeld := fun _ => Or.inl }

/-- From the moment at which a listener is told something, the relation is kept to. -/
def Attends (R : World κ σ → World κ σ → Prop) (react : Reactor κ σ) : Prop :=
  ∀ listener signal w, R (w.announce listener signal) ((react listener signal).run w).2

variable [WireSession σ]

/-- Whatever a reactor does when a connection is released, the relation is kept to from before the
connection was let go. -/
def Releases (R : World κ σ → World κ σ → Prop) (react : Reactor κ σ) : Prop :=
  ∀ {w w' : World κ σ} (key : Nat), w.Yields (some key) w' → R w ((release react key).run w').2

/-- To release a connection is to close it at most. -/
theorem keeps_release [Passage R] {react : Reactor κ σ} {key : Nat}
    (h : Keeps R (perform react key .close)) : Keeps R (release react key) := by
  unfold release
  refine .bind_get fun w => ?_
  split
  · exact .bind h fun _ => .pure ()
  · exact .pure ()

/-- What a client can do to connections and cursors keeps to the relation. -/
structure Conducts [Connector κ σ] (R : World κ σ → World κ σ → Prop) (react : Reactor κ σ) : Prop where
  perform : ∀ key op, Keeps R (perform react key op)
  openConnection : ∀ slot dsn asynchronous settings route,
    Keeps R (act react slot (.openConnection dsn asynchronous settings route))
  executeCursor : ∀ key sql, Keeps R (executeCursor react key sql)
  releases : Releases R react
  /-- A step holds what it works on, and releases it in the end. -/
  holding : ∀ {w w₁ : World κ σ} {holder : Holder} (key : Nat), w.Holdable holder →
    w.Binds (some key) holder → R (w.hold holder) w₁ → R w ((release react key).run w₁.unhold).2

variable {react : Reactor κ σ}

/-! ## Filling and emptying slots -/

section Slots

variable [Passage R]

theorem keeps_fillConnectionSlot (h : Releases R react) (slot : String) (key : Nat) :
    Keeps R (fillConnectionSlot react slot key) := by
  intro w
  have hput := Yields.putConnection w slot key
  unfold fillConnectionSlot
  simp only [Play.run_bind, Play.run_get, Play.run_modify]
  cases hprevious : w.connectionSlots.get? slot with
  | none =>
    rw [hprevious] at hput
    exact Passage.yields hput
  | some old =>
    rw [hprevious] at hput
    exact h _ hput

theorem keeps_fillLargeObjectSlot (h : Releases R react) (slot : String) (object : LargeObject) :
    Keeps R (fillLargeObjectSlot react slot object) := by
  intro w
  have hput := Yields.putLargeObject w slot object
  unfold fillLargeObjectSlot
  simp only [Play.run_bind, Play.run_get, Play.run_modify]
  cases hprevious : w.largeObjectSlots.get? slot with
  | none =>
    rw [hprevious] at hput
    exact Passage.yields hput
  | some old =>
    rw [hprevious] at hput
    exact h _ hput

/-- A cursor that has just been made goes into its slot at once. -/
theorem fillCursorSlot_of_made (h : Releases R react) (w : World κ σ) (cursor : Cursor)
    (hcursor : cursor.state = {}) (slot : String) :
    R w ((fillCursorSlot react slot w.cursors.length).run
      { w with cursors := w.cursors ++ [cursor] }).2 := by
  have hmade := Yields.makeCursor w cursor hcursor slot
  unfold fillCursorSlot
  simp only [Play.run_bind, Play.run_get, Play.run_modify]
  cases hprevious : (w.cursorSlots.get? slot).bind ((w.cursors ++ [cursor])[·]?) with
  | none =>
    rw [hprevious] at hmade
    exact Passage.yields hmade
  | some old =>
    rw [hprevious] at hmade
    exact h old.connection hmade

theorem keeps_dropConnection (h : Releases R react) (slot : String) :
    Keeps R (dropConnection react slot) := by
  intro w
  have herased := Yields.eraseConnection w slot
  unfold dropConnection
  rw [Play.run_bind, Play.run_get]
  cases hget : w.connectionSlots.get? slot with
  | none => exact Passage.refl w
  | some key =>
    rw [hget] at herased
    exact h key herased

theorem keeps_dropCursor (h : Releases R react) (slot : String) : Keeps R (dropCursor react slot) := by
  intro w
  have herased := Yields.eraseCursor w slot
  unfold dropCursor
  rw [Play.run_bind, Play.run_get]
  cases hget : w.cursorSlots.get? slot with
  | none => exact Passage.refl w
  | some key =>
    rw [hget, Option.bind_some] at herased
    simp only [Play.run_bind, Play.run_modify]
    cases hcursor : w.cursors[key]? with
    | none =>
      rw [hcursor] at herased
      exact Passage.yields herased
    | some cursor =>
      rw [hcursor] at herased
      exact h cursor.connection herased

theorem keeps_dropLargeObject (h : Releases R react) (slot : String) :
    Keeps R (dropLargeObject react slot) := by
  intro w
  have herased := Yields.eraseLargeObject w slot
  unfold dropLargeObject
  rw [Play.run_bind, Play.run_get]
  cases hget : w.largeObjectSlots.get? slot with
  | none => exact Passage.refl w
  | some object =>
    rw [hget] at herased
    exact h object.connection herased

theorem keeps_letGo (h : Releases R react) : Keeps R (letGo react) := by
  unfold letGo
  refine .bind_get fun w => .bind (.forM (fun name => ?_) _) fun _ => ?_
  · exact .bind (keeps_dropLargeObject h name) fun _ => .pure _
  refine .bind_get fun w => .bind (.forM (fun name => ?_) _) fun _ => ?_
  · exact .bind (keeps_dropCursor h name) fun _ => .pure _
  refine .bind_get fun w => .forM (fun name => ?_) _
  exact .bind (keeps_dropConnection h name) fun _ => .pure _

end Slots

section Conducting

variable [Connector κ σ] [Passage R]

/-- A drift is kept to if operations keep to it, in whatever way things are held and let go. -/
theorem Conducts.of_drift [Drift R] (hperform : ∀ key op, Keeps R (World.perform react key op))
    (hopen : ∀ dsn asynchronous settings hooked,
      Keeps R (World.openConnection react dsn asynchronous settings hooked))
    (hexecute : ∀ key sql, Keeps R (World.executeCursor react key sql)) : Conducts R react := by
  have hrelease := fun key => keeps_release (hperform key .close)
  have hreleases : Releases R react := fun key hyields =>
    Drift.trans (Drift.minor hyields.minor) (hrelease key _)
  exact
    { perform := hperform
      openConnection := by
        intro slot dsn asynchronous settings route
        refine .bind (hopen dsn asynchronous _ _) fun result => ?_
        split
        · exact .pure _
        · exact .bind (keeps_fillConnectionSlot hreleases slot _) fun _ => .pure _
      executeCursor := hexecute
      releases := hreleases
      holding := fun key hholder _ h => Drift.trans (Drift.bracket hholder h) (hrelease key _) }

/-! ## Holding -/

omit [Passage R] in
theorem keeps_holding (h : Conducts R react) {α : Type} {holder : Holder} {key : Nat}
    {body : Play κ σ α} (hbody : Keeps R body) {w : World κ σ} (hholder : w.Holdable holder)
    (hbinds : w.Binds (some key) holder) : R w ((holding react holder key body).run w).2 :=
  h.holding key hholder hbinds (hbody (w.hold holder))

theorem keeps_withConnection (h : Conducts R react) (slot : String) {body : Nat → Play κ σ Reply}
    (hbody : ∀ key, Keeps R (body key)) : Keeps R (withConnection react slot body) := by
  unfold withConnection
  refine .bind_get fun w => ?_
  split
  · exact .pure _
  · exact fun w => keeps_holding h (hbody _) trivial rfl

theorem keeps_withCursor (h : Conducts R react) (slot : String)
    {body : Nat → Cursor → Play κ σ Reply} (hbody : ∀ key cursor, Keeps R (body key cursor)) :
    Keeps R (withCursor react slot body) := by
  intro w
  unfold withCursor
  simp only [StateT.run_bind, StateT.run_get, pure_bind]
  split
  · exact Passage.refl w
  · rename_i key hkey
    split
    · exact Passage.refl w
    · rename_i cursor hcursor
      exact keeps_holding h (hbody _ _) (.of_cursorSlots hkey) ⟨cursor, hcursor, rfl⟩

omit [Connector κ σ] [Passage R] in
/-- A plain cursor is made of what was asked for; nothing happens before that but the check. -/
theorem makeCursor_run (react : Reactor κ σ) (key : Nat) (name : Option String) (w : World κ σ) :
    ∃ r : Except Fault Unit, (makeCursor react key name).run w =
      let admitted := ((perform react key .admitCursor).run w).2
      match r with
      | .error fault => (.error fault, admitted)
      | .ok () => (.ok admitted.cursors.length,
          { admitted with cursors := admitted.cursors ++ [{ connection := key, name }] }) := by
  unfold makeCursor cursorWith
  rw [Play.run_bind, Play.run_bind]
  rcases (perform react key .admitCursor).run w with ⟨fault | _, admitted⟩
  · exact ⟨.error fault, rfl⟩
  · simp only [Play.run_bind, Play.run_get]
    by_cases hnamed : (name.isSome && admitted.connections[key]?.any (·.asynchronous)) = true
    · simp only [hnamed, if_true, Play.run_pure]
      exact ⟨.error .namedCursorAsynchronous, rfl⟩
    · refine ⟨.ok (), ?_⟩
      simp only [hnamed, Bool.false_eq_true, if_false, pure_bind, ne_eq, not_true_eq_false, or_self,
        Play.run_pure, Play.run_modifyGet]

theorem keeps_makeCursor_fill (h : Conducts R react) (key : Nat) (slot : String) (name : Option String) :
    Keeps R (do
      match ← makeCursor react key name with
      | .error fault => return .fault fault
      | .ok cursor =>
        fillCursorSlot react slot cursor
        return .done : Play κ σ Reply) := by
  intro w
  obtain ⟨r, hrun⟩ := makeCursor_run react key name w
  have hadmitted := h.perform key .admitCursor w
  rw [Play.run_bind, hrun]
  generalize ((perform react key .admitCursor).run w).2 = admitted at hadmitted
  cases r with
  | error fault => exact hadmitted
  | ok _ => exact Passage.trans hadmitted (fillCursorSlot_of_made h.releases admitted _ rfl slot)

omit [WireSession σ] [Connector κ σ] in
theorem keeps_dropOwner (id : String) : Keeps R (dropOwner id : Play κ σ Reply) := by
  unfold dropOwner
  refine .bind_get fun w => ?_
  split
  · exact .pure _
  · exact .bind (.yields fun w => .dropOwner w id) fun _ => .pure _

/-! ## Steps and scenarios -/

theorem keeps_drive (h : Conducts R react) (key limit : Nat) (answers : List Readiness) :
    Keeps R (drive react key limit answers) := by
  induction limit generalizing answers with
  | zero => exact .pure _
  | succ n ih =>
    unfold drive
    refine .bind (h.perform key .poll) fun result => ?_
    split
    · exact .pure _
    · exact .pure _
    · exact ih _

/-- Whatever an action does, it keeps to the relation if operations do. -/
theorem keeps_act (h : Conducts R react) (slot : String) (action : Action) :
    Keeps R (act react slot action) := by
  have hconnection : ∀ {body : Nat → Play κ σ Reply}, (∀ key, Keeps R (body key)) →
      Keeps R (withConnection react slot body) := keeps_withConnection h slot
  cases action with
  | openConnection dsn asynchronous settings route =>
    exact h.openConnection slot dsn asynchronous settings route
  | dropConnection => exact keeps_dropConnection h.releases slot
  | dropCursor name => exact keeps_dropCursor h.releases name
  | dropLargeObject name => exact keeps_dropLargeObject h.releases name
  | dropOwner id => exact keeps_dropOwner id
  | perform op => exact hconnection fun key => .bind (h.perform key op) fun _ => .pure _
  | drive limit => exact hconnection fun key => keeps_drive h key limit []
  | submit sql owner =>
    refine hconnection fun key => .bind_get fun w => ?_
    exact .bind (h.perform key _) fun _ => .pure _
  | makeOwner id limit steps => exact .yieldsGet fun w => .makeOwner w _ id
  | observe id limit steps => exact hconnection fun key => .yieldsGet fun w => .observe w key _
  | makeCursor name cursorName =>
    exact hconnection fun key => keeps_makeCursor_fill h key name cursorName
  | cursorExecute name sql =>
    refine keeps_withCursor h name fun key _ => ?_
    exact .bind (h.executeCursor key sql) fun _ => .pure _
  | cursorResults name | cursorExecuting name =>
    exact keeps_withCursor h name fun _ _ => .pure _
  | cursorInfo name =>
    exact keeps_withCursor h name fun _ _ => .bind_get fun _ => .pure _
  | cursorWith name product =>
    refine hconnection fun key => ?_
    exact .bind (keeps_cursorWith (h.perform key _) name _ _ fun _ => .pure _) fun _ => .pure _
  | makeLargeObject name demand =>
    have hopen : ∀ key request, Keeps R (openLargeObject react key request) := fun key _ =>
      keeps_openLargeObject (fun _ _ => h.perform key _) fun _ _ _ => h.perform key _
    refine hconnection fun key => ?_
    refine .bind (keeps_makeLargeObject (h.perform key _) (hopen key) demand) fun result => ?_
    split
    · exact .pure _
    · exact .bind (keeps_fillLargeObjectSlot h.releases name _) fun _ => .pure _
  | largeObjectInfo name =>
    refine .bind_get fun w => ?_
    split <;> exact .pure _
  | largeObjectWith demand product =>
    refine hconnection fun key => ?_
    refine .bind (keeps_largeObjectWith (h.perform key _) demand _ fun _ => .pure _) fun _ => ?_
    exact .bind_get fun _ => .pure _
  | notices | notifications | sessionInfo => exact hconnection fun _ => .bind_get fun _ => .pure _
  | takeNotifications =>
    refine hconnection fun key w => ?_
    simp only [Play.run_bind, Play.run_get]
    split
    · exact Passage.refl w
    · rename_i c hc
      exact Passage.yields (.takeNotifications w key hc)
  | accessors =>
    refine hconnection fun key => .bind_get fun w => ?_
    split <;> exact .pure _
  | compareKeys first second =>
    refine .bind_get fun w => ?_
    simp only
    split <;> exact .pure _

theorem keeps_runSteps (h : Conducts R react) (id : String) (index : Nat) (steps : List Step) :
    Keeps R (runSteps react id index steps) := by
  induction steps generalizing index with
  | nil => exact .pure ()
  | cons s rest ih =>
    refine .bind (keeps_act h s.slot s.action) fun reply => ?_
    exact .bind (.yields fun w => .stepped w id index reply) fun _ => ih _

/-- The listeners of a scenario attend to a relation, however deep they nest, if it is enough for
operations to keep to it that the listeners attend. -/
theorem attends_fire (hconducts : ∀ react : Reactor κ σ, Attends R react → Conducts R react)
    (depth : Nat) : Attends R (fire depth : Reactor κ σ) := by
  induction depth with
  | zero =>
    intro key signal w
    unfold fire announce
    rw [Play.run_bind, Play.run_get]
    cases hlistener : w.listeners[key]? with
    | none => exact Passage.refl w
    | some listener => exact Passage.refl _
  | succ depth ih =>
    intro key signal w
    unfold fire announce
    rw [Play.run_bind, Play.run_get]
    cases hlistener : w.listeners[key]? with
    | none => exact Passage.refl w
    | some listener =>
      simp only [Play.run_bind, Play.run_modify]
      have hexists : key < ((w.record (.signalled key listener.id signal)).modifyListener key
          ({ · with fired := listener.fired + 1 })).listeners.length := by
        rw [modifyListener, List.length_modify]
        exact (List.getElem?_eq_some_iff.1 hlistener).1
      split
      · exact Passage.listening hexists (keeps_runSteps (hconducts _ ih) _ _ _ _)
      · exact Passage.refl _

/-- So does every scenario. -/
theorem keeps_play_of (hconducts : ∀ react : Reactor κ σ, Attends R react → Conducts R react)
    (steps : List Step) : Keeps R (play steps : Play κ σ (List Report × List Event)) := by
  have h := hconducts _ (attends_fire hconducts (stepFirings steps))
  unfold play
  refine .bind (.mapM (fun s => ?_) steps) fun reports => ?_
  · refine .bind_get fun w => .bind (keeps_act h s.slot s.action) fun reply => ?_
    exact .bind_get fun _ => .pure _
  · refine .bind_get fun w => .bind (keeps_letGo h.releases) fun _ => ?_
    exact .bind_get fun _ => .pure _

end Conducting

end World

end SessionLayer.Scenario
