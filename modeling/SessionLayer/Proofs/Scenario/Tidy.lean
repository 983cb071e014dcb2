import SessionLayer.Proofs.Connection.Hollow
import SessionLayer.Proofs.Scenario.Fate

/-!
# Nothing is left loose

A connection is loose if it is neither closed nor held. `World.Tidies` says that no connection has come
loose from one world to another, except perhaps for one. Each time a holder goes, at most one connection
comes loose, and it is released right away; so every action of a client `Tidies`, and in a world that is
tidy every connection that nothing holds is closed.
-/

set_option autoImplicit false

namespace SessionLayer.Scenario.World

section Tidies

variable {κ σ : Type} {w w₁ w₂ : World κ σ} {but : Option Nat} {key : Nat}

/-- The connection exists and is closed. -/
def Shut (w : World κ σ) (key : Nat) : Prop :=
  ∃ c, w.connections[key]? = some c ∧ c.guarded.status = .closed

/-- The connection is neither closed nor held. -/
def Loose (w : World κ σ) (key : Nat) : Prop :=
  key < w.connections.length ∧ ¬w.Shut key ∧ ¬w.connectionHeld key

/-- Nothing came loose, except perhaps for one connection, and what is closed stays closed. -/
structure Tidies (but : Option Nat) (w w' : World κ σ) : Prop where
  running : w'.running = w.running
  cursor : ∀ (key : Nat) (c : Cursor), w.cursors[key]? = some c → ∃ c',
    w'.cursors[key]? = some c' ∧ c'.connection = c.connection
  ordered : w.Ordered → w'.Ordered
  shut : ∀ key, w.Shut key → w'.Shut key
  loose : w.Ordered → ∀ key, but ≠ some key → w'.Loose key → w.Loose key

/-- Every connection that nothing holds is closed. -/
structure Tidy (w : World κ σ) : Prop where
  ordered : w.Ordered
  shut : ∀ key < w.connections.length, w.connectionHeld key ∨ w.Shut key

theorem tidy_start (connector : κ) (hook : Nat → Nat) : ({ connector, hook } : World κ σ).Tidy where
  ordered := ⟨.nil, .nil, .nil⟩
  shut := by simp

namespace Tidies

theorem tidy (h : w.Tidies none w₁) (hw : w.Tidy) : w₁.Tidy where
  ordered := h.ordered hw.ordered
  shut := by
    intro key hkey
    refine Decidable.or_iff_not_imp_left.2 fun hheld => Classical.byContradiction fun hshut => ?_
    obtain ⟨hlt, hopen, hfree⟩ := h.loose hw.ordered key (by simp) ⟨hkey, hshut, hheld⟩
    exact (hw.shut key hlt).elim hfree hopen

/-- What is held stays held, and what is closed stays closed. -/
theorem of_retains (h : w.Retains but w₁)
    (hlength : w₁.connections.length = w.connections.length)
    (hshut : ∀ key, w.Shut key → w₁.Shut key) : w.Tidies but w₁ where
  running := h.running
  cursor := h.cursor
  ordered := h.ordered
  shut := hshut
  loose := by
    intro ho key hbut ⟨hlt, hopen, hfree⟩
    refine ⟨hlength ▸ hlt, fun hclosed => hopen (hshut key hclosed), fun hheld => hfree ?_⟩
    exact h.held ho key hbut hheld

theorem of_alike (h : w.Alike w₁) (hretains : w.Retains but w₁) : w.Tidies but w₁ := by
  refine .of_retains hretains h.length_connections ?_
  rintro key ⟨c, hc, hclosed⟩
  obtain ⟨mailbox, hc'⟩ := h.connection key c hc
  exact ⟨_, hc', hclosed⟩

theorem of_yields (h : w.Yields but w₁) : w.Tidies but w₁ :=
  .of_alike h.minor.idle.alike h.retains

theorem refl (w : World κ σ) : w.Tidies but w :=
  .of_alike (.refl w) (.refl w)

theorem trans (h : w.Tidies but w₁) (h' : w₁.Tidies but w₂) : w.Tidies but w₂ where
  running := h'.running.trans h.running
  cursor := by
    intro key c hc
    obtain ⟨c₁, hc₁, hsame⟩ := h.cursor key c hc
    obtain ⟨c₂, hc₂, hsame'⟩ := h'.cursor key c₁ hc₁
    exact ⟨c₂, hc₂, hsame'.trans hsame⟩
  ordered := fun ho => h'.ordered (h.ordered ho)
  shut := fun key hshut => h'.shut key (h.shut key hshut)
  loose := fun ho key hbut hloose => h.loose ho key hbut (h'.loose (h.ordered ho) key hbut hloose)

/-- An exception may be made. -/
theorem allow (h : w.Tidies none w₁) : w.Tidies but w₁ :=
  { h with loose := fun ho key _ => h.loose ho key (by simp) }

/-- When a step ends, nothing comes loose but what it held. -/
theorem unhold {holder : Holder} (hbinds : w.Binds but holder) (h : (w.hold holder).Tidies none w₁) :
    w.Tidies but w₁.unhold := by
  have hrunning : w₁.running = holder :: w.running := h.running
  have hkept : ∀ key, but ≠ some key → w₁.connectionHeld key → w₁.unhold.connectionHeld key := by
    intro key hbut hkey
    rw [connectionHeld_iff, hrunning] at hkey
    rw [connectionHeld_iff, World.unhold, hrunning]
    rcases hkey with hslot | hstep | ⟨k, c, hk, hc, hkey⟩ | hobject
    · exact Or.inl hslot
    · rcases List.mem_cons.1 hstep with rfl | hstep
      · exact absurd hbinds hbut
      · exact Or.inr (Or.inl hstep)
    · refine Or.inr (Or.inr (Or.inl ⟨k, c, ?_, hc, hkey⟩))
      rw [cursorHeld_iff, hrunning] at hk
      rw [cursorHeld_iff]
      rcases hk with hslot | hstep
      · exact Or.inl hslot
      · rcases List.mem_cons.1 hstep with rfl | hstep
        · -- a cursor belongs to the same connection for as long as it exists
          obtain ⟨d, hd, hbut'⟩ := hbinds
          obtain ⟨c', hc', hsame⟩ := h.cursor k d hd
          cases hc'.symm.trans hc
          exact absurd (by rw [hbut', ← hsame, hkey]) hbut
        · exact Or.inr hstep
    · exact Or.inr (Or.inr (Or.inr hobject))
  have hbefore : ∀ key, w.connectionHeld key → (w.hold holder).connectionHeld key := by
    intro key hkey
    rw [connectionHeld_iff] at hkey ⊢
    rcases hkey with hslot | hstep | ⟨k, c, hk, hc, hkey⟩ | hobject
    · exact Or.inl hslot
    · exact Or.inr (Or.inl (List.mem_cons_of_mem _ hstep))
    · refine Or.inr (Or.inr (Or.inl ⟨k, c, ?_, hc, hkey⟩))
      exact cursorHeld_iff.2 ((cursorHeld_iff.1 hk).imp_right (List.mem_cons_of_mem _))
    · exact Or.inr (Or.inr (Or.inr hobject))
  exact
    { running := by rw [World.unhold, hrunning, List.tail_cons]
      cursor := h.cursor
      ordered := fun ho => have ho₁ := h.ordered ⟨ho.connections, ho.cursors, ho.largeObjects⟩
        ⟨ho₁.connections, ho₁.cursors, ho₁.largeObjects⟩
      shut := h.shut
      loose := by
        intro ho key hbut ⟨hlt, hopen, hfree⟩
        have ho' : (w.hold holder).Ordered := ⟨ho.connections, ho.cursors, ho.largeObjects⟩
        obtain ⟨hlt', hopen', hfree'⟩ := h.loose ho' key (by simp)
          ⟨hlt, hopen, fun hheld => hfree (hkept key hbut hheld)⟩
        exact ⟨hlt', hopen', fun hheld => hfree' (hbefore key hheld)⟩ }

/-- The listener that was told something holds itself and no connection. -/
theorem listening (h : (w.hold (.listener key)).Tidies none w₁) : w.Tidies none w₁.unhold :=
  unhold (show w.Binds none (.listener key) from True.intro) h

end Tidies

instance Tidies.passive : Passive (Tidies none : World κ σ → World κ σ → Prop) where
  refl := .refl
  trans := .trans
  yields := .of_yields
  listening := fun _ => .listening
  idle := fun h hretains => .of_alike h.alike hretains

/-! ## Spans -/

namespace Retains

theorem detached {α : Type} {hooked : Bool} {call : World κ σ → α × World κ σ}
    (hcall : ∀ w : World κ σ, w.Retains but (call w).2) (w : World κ σ) :
    w.Retains but (World.detached key hooked call w).2 :=
  detached_of_trans (R := Retains but) trans (fun _ => .of_eq rfl rfl rfl rfl rfl)
    (fun _ => .of_eq rfl rfl rfl rfl rfl) hcall w

variable [WireSession σ]

theorem runSpan {α : Type} (w : World κ σ) (key : Nat) (span : Connection σ → Span σ α) :
    w.Retains but (w.runSpan key span).2 := by
  cases hc : w.connections[key]? with
  | none =>
    rw [runSpan_of_none hc]
    exact .refl w
  | some c =>
    rw [runSpan_of_some hc]
    exact .of_eq rfl rfl rfl rfl rfl

theorem establish [Connector κ σ] (w : World κ σ) (key : Nat) (blocking : Bool) (dsn : String) :
    w.Retains but (w.establish key blocking dsn).2 :=
  establish_of_trans (R := Retains but) trans (fun _ _ _ => .of_eq rfl rfl rfl rfl rfl)
    (fun w span => runSpan w key span) w

theorem opening [Connector κ σ] (w : World κ σ) (dsn : String) (asynchronous : Bool)
    (settings : Settings) (hooked : Bool) :
    w.Retains but (w.opening dsn asynchronous settings hooked).2 := by
  have hcreated : w.Retains but (w.creating dsn asynchronous settings hooked) :=
    .of_eq rfl rfl rfl rfl rfl
  exact hcreated.trans (detached (fun w => establish w _ _ _) _)

end Retains

variable [WireSession σ]

theorem shut_operating (h : w.Shut key) (other : Nat) (hooked : Bool) (op : Operation) :
    (w.operating other hooked op).Shut key := by
  obtain ⟨c, hc, hclosed⟩ := h
  rcases (Fate.operating w key other hooked op).of_some hc with ⟨mailbox, hc', -⟩ | ⟨op, hc', -⟩
  · exact ⟨_, hc', hclosed⟩
  · exact ⟨_, hc', Connection.closed_perform hclosed op⟩

/-- The span of an operation lets nothing go, and it opens nothing that is closed. -/
theorem Tidies.operating (w : World κ σ) (key : Nat) (hooked : Bool) (op : Operation) :
    w.Tidies but (w.operating key hooked op) :=
  .of_retains (.detached (fun w => .runSpan w key _) w) (length_connections_operating w key hooked op)
    fun _ hshut => shut_operating hshut key hooked op

theorem shut_close (w : World κ σ) (hkey : key < w.connections.length) (hooked : Bool) :
    (w.operating key hooked .close).Shut key := by
  obtain ⟨w₁, hspan, hafter, -⟩ := detached_runSpan (List.getElem?_eq_getElem hkey) hooked
    (·.span .close)
  rw [World.operating, hspan]
  exact ⟨_, hafter, Connection.closed_close _⟩

/-! ## Operations -/

variable {react : Reactor κ σ}

omit [WireSession σ] in
theorem tidies_conclude (hreact : Attends (Tidies none) react) (key : Nat) {α : Type} (a : Aftermath α) :
    Keeps (Tidies none) (conclude react key a) := by
  refine keeps_conclude_of_absorbing (fun w => ?_) fun listener signal w => ?_
  · exact .of_alike (Still.absorbing w key a.batch).toAlike (.absorbing w key a.batch)
  · refine Tidies.trans (.of_alike (.announce w listener signal) ?_) (hreact listener signal w)
    unfold announce
    split
    · exact .refl w
    · exact .of_eq rfl rfl rfl rfl rfl

/-- After the span of an operation nothing comes loose. -/
theorem tidies_after_span (hreact : Attends (Tidies none) react) (key : Nat) (op : Operation)
    (w : World κ σ) :
    ∃ hooked, (w.operating key hooked op).Tidies none ((perform react key op).run w).2 := by
  obtain ⟨hooked, hrun⟩ := perform_run react key op w
  refine ⟨hooked, ?_⟩
  have hconcluded := tidies_conclude hreact key (detached key hooked (runSpan key (·.span op)) w).1
    (w.operating key hooked op)
  rw [hrun]
  dsimp only
  split
  · refine hconcluded.trans (.of_alike ?_ (.of_eq rfl rfl rfl rfl rfl))
    exact .modifyConnection _ key fun c => ⟨_, rfl⟩
  · exact hconcluded

theorem tidies_perform (hreact : Attends (Tidies none) react) (key : Nat) (op : Operation) :
    Keeps (Tidies none) (perform react key op) := by
  intro w
  obtain ⟨hooked, hafter⟩ := tidies_after_span hreact key op w
  exact (Tidies.operating w key hooked op).trans hafter

theorem shut_perform_close (hreact : Attends (Tidies none) react) (w : World κ σ)
    (hkey : key < w.connections.length) : ((perform react key .close).run w).2.Shut key := by
  obtain ⟨hooked, hafter⟩ := tidies_after_span hreact key .close w
  exact hafter.shut key (shut_close w hkey hooked)

/-! ## Releasing -/

theorem release_run (react : Reactor κ σ) (key : Nat) (w : World κ σ) :
    ((release react key).run w).2 =
      if w.connectionHeld key then w else ((perform react key .close).run w).2 := by
  unfold release
  rw [Play.run_bind, Play.run_get]
  cases w.connectionHeld key <;> rfl

theorem tidies_release (hreact : Attends (Tidies none) react) (key : Nat) :
    Keeps (Tidies none) (release react key) := by
  intro w
  rw [release_run]
  split
  · exact .refl w
  · exact tidies_perform hreact key .close w

/-- What is released is closed, or something else holds it. -/
theorem not_loose_release (hreact : Attends (Tidies none) react) (key : Nat) {w : World κ σ}
    (ho : w.Ordered) : ¬((release react key).run w).2.Loose key := by
  intro hloose
  have hbefore := (tidies_release hreact key w).loose ho key (by simp) hloose
  obtain ⟨-, hopen, -⟩ := hloose
  rw [release_run, if_neg hbefore.2.2] at hopen
  exact hopen (shut_perform_close hreact w hbefore.1)

/-- The one connection that may have come loose is released. -/
theorem Tidies.release (hreact : Attends (Tidies none) react) (h : w.Tidies (some key) w₁) :
    w.Tidies none ((World.release react key).run w₁).2 := by
  have hreleased := tidies_release hreact key w₁
  have hall := h.trans hreleased.allow
  refine { hall with loose := fun ho k _ hloose => hall.loose ho k (fun heq => ?_) hloose }
  cases heq
  exact not_loose_release hreact key (h.ordered ho) hloose

theorem releases_tidies (hreact : Attends (Tidies none) react) : Releases (Tidies none) react :=
  fun _ hyields => (Tidies.of_yields hyields).release hreact

/-! ## Opening a connection -/

section Opening

variable [Connector κ σ]

/-- To open a connection lets nothing go, but nothing holds the new connection yet. -/
theorem Tidies.opening (w : World κ σ) (dsn : String) (asynchronous : Bool) (settings : Settings)
    (hooked : Bool) :
    w.Tidies (some w.connections.length) (w.opening dsn asynchronous settings hooked).2 := by
  have hretains : w.Retains none (w.opening dsn asynchronous settings hooked).2 :=
    .opening w dsn asynchronous settings hooked
  refine
    { running := hretains.running
      cursor := hretains.cursor
      ordered := hretains.ordered
      shut := ?_
      loose := ?_ }
  · rintro key ⟨c, hc, hclosed⟩
    have hkey : key ≠ w.connections.length := Nat.ne_of_lt (List.getElem?_eq_some_iff.1 hc).1
    obtain ⟨mailbox, hc'⟩ := (alikeAt_opening hkey dsn asynchronous settings hooked).1.connection c hc
    exact ⟨_, hc', hclosed⟩
  · intro ho key hbut ⟨hlt, hopen, hfree⟩
    have hkey : key ≠ w.connections.length := fun heq => hbut (by rw [heq])
    rw [length_connections_opening] at hlt
    have hlt : key < w.connections.length := by omega
    obtain ⟨mailbox, hc⟩ := (alikeAt_opening hkey dsn asynchronous settings hooked).1.connection _
      (List.getElem?_eq_getElem hlt)
    refine ⟨hlt, ?_, fun hheld => hfree (hretains.held ho key (by simp) hheld)⟩
    rintro ⟨c, hbefore, hclosed⟩
    rw [List.getElem?_eq_getElem hlt, Option.some.injEq] at hbefore
    exact hopen ⟨_, hc, hbefore ▸ hclosed⟩

omit [Connector κ σ] in
/-- A connection that is put into a slot is held. -/
theorem Tidies.fill (hreact : Attends (Tidies none) react) (h : w.Tidies (some key) w₁)
    (slot : String) : w.Tidies none ((fillConnectionSlot react slot key).run w₁).2 := by
  have hfilled := keeps_fillConnectionSlot (releases_tidies hreact) slot key w₁
  have hall := h.trans hfilled.allow
  refine { hall with loose := fun ho k _ hloose => hall.loose ho k (fun heq => ?_) hloose }
  cases heq
  have hput : ({ w₁ with connectionSlots := w₁.connectionSlots.put slot key } :
      World κ σ).connectionHeld key :=
    connectionHeld_iff.2 (Or.inl (Slots.mem_contents_put_self _ slot key))
  have ho₁ : ({ w₁ with connectionSlots := w₁.connectionSlots.put slot key } : World κ σ).Ordered :=
    (Retains.putConnection w₁ slot key).ordered (h.ordered ho)
  unfold fillConnectionSlot at hloose
  simp only [Play.run_bind, Play.run_get, Play.run_modify] at hloose
  split at hloose
  · exact ((tidies_release hreact _ _).loose ho₁ key (by simp) hloose).2.2 hput
  · exact hloose.2.2 hput

/-- What is opened is held by its slot in the end, or it is closed. -/
theorem tidies_openConnection (hreact : Attends (Tidies none) react) (slot dsn : String)
    (asynchronous : Bool) (settings : Settings) (route : Route) :
    Keeps (Tidies none) (act react slot (.openConnection dsn asynchronous settings route)) := by
  intro w
  unfold act
  simp only [Play.run_bind, openConnection_run]
  have hconcluded : ∀ settings hooked, w.Tidies (some w.connections.length)
      ((conclude react w.connections.length (w.opening dsn asynchronous settings hooked).1).run
        (w.opening dsn asynchronous settings hooked).2).2 := fun settings hooked =>
    (Tidies.opening w dsn asynchronous settings hooked).trans (tidies_conclude hreact _ _ _).allow
  split
  · rename_i fault hopened
    split at hopened
    · exact nomatch hopened
    · simp only [Play.run_pure]
      exact (hconcluded _ _).release hreact
  · rename_i key hopened
    split at hopened
    · cases hopened
      simp only [Play.run_bind, Play.run_pure]
      exact (hconcluded _ _).fill hreact slot
    · exact nomatch hopened

end Opening

/-! ## Scenarios -/

variable [Connector κ σ]

theorem conducts_tidies (hreact : Attends (Tidies none) react) : Conducts (Tidies none) react where
  perform := tidies_perform hreact
  openConnection := tidies_openConnection hreact
  executeCursor := keeps_executeCursor (tidies_perform hreact)
  releases := releases_tidies hreact
  holding := fun _ _ hbinds h => (h.unhold hbinds).release hreact

theorem attends_tidies (depth : Nat) : Attends (Tidies none) (fire depth : Reactor κ σ) :=
  attends_fire (fun _ => conducts_tidies) depth

/-- No step lets go of a connection that is not closed. -/
theorem tidies_step (depth : Nat) (s : Step) : Keeps (Tidies none) (step (fire depth) s : Play κ σ Reply) :=
  keeps_act (conducts_tidies (attends_tidies depth)) s.slot s.action

theorem tidies_play (steps : List Step) :
    Keeps (Tidies none) (play steps : Play κ σ (List Report × List Event)) :=
  keeps_play_of (fun _ => conducts_tidies) steps

end Tidies

end SessionLayer.Scenario.World
