import SessionLayer.Proofs.Scenario.HookBracket
import SessionLayer.Proofs.Scenario.Post

/-!
# Who invokes the hook

`World.Aside` says that from one world to another the hook was left alone, except by callbacks. So it is
after the span of every operation; and an operation that may not block leaves the hook alone altogether.
What a callback does with the hook is its own affair, and where callbacks do nothing with it, the hook
has been invoked exactly as often as the operations themselves account for.
-/

set_option autoImplicit false

namespace SessionLayer.Scenario

/-- What an action asks for is known to the client's side already. -/
def Action.isAccessor : Action → Bool
  | .cursorResults _ | .cursorExecuting _ | .cursorInfo _ | .largeObjectInfo _ | .notices
  | .notifications | .takeNotifications | .sessionInfo | .accessors | .compareKeys _ _ => true
  | _ => false

namespace World

variable {κ σ : Type} {w w₁ w₂ : World κ σ} {key : Nat} {react : Reactor κ σ}

/-- Something happens that neither a span nor the hook has to do with. -/
structure Hushed (w w₁ : World κ σ) : Prop where
  alike : w.Alike w₁
  hookCalls : w₁.hookCalls = w.hookCalls
  trace : ∃ events, w₁.trace = w.trace ++ events ∧ ∀ event ∈ events, event.isHook = false

namespace Hushed

theorem of_furnishes (h : w.Furnishes w₁) : w.Hushed w₁ where
  alike := h.alike
  hookCalls := h.hookCalls
  trace := ⟨[], by rw [h.trace, List.append_nil], by simp⟩

theorem record (w : World κ σ) {event : Event} (h : event.isBystander) : w.Hushed (w.record event) where
  alike := by
    refine .record w ?_
    cases event with
    | connected | exchanged => exact nomatch h
    | _ => rfl
  hookCalls := rfl
  trace := ⟨[event], rfl, by simpa using Event.isHook_of_isBystander h⟩

theorem absorbing (w : World κ σ) (key : Nat) (batch : Batch) : w.Hushed (w.absorbing key batch) where
  alike := (Still.absorbing w key batch).toAlike
  hookCalls := by
    unfold World.absorbing
    split
    · rfl
    · split <;> rfl
  trace := by
    unfold World.absorbing
    split
    · exact ⟨[], by simp⟩
    · split
      · exact ⟨[], by simp⟩
      · exact ⟨_, rfl, by simp [Event.isHook]⟩

theorem clearMailbox (w : World κ σ) (key : Nat) : w.Hushed (w.clearMailbox key) :=
  .of_furnishes ⟨(Idle.clearMailbox w key).alike, rfl, rfl, rfl⟩

end Hushed

theorem usesHook_of_not_mayBlock {op : Operation} (hop : ∀ c : Connection σ, c.mayBlock op = false) :
    w.usesHook key op = false := by
  unfold usesHook
  cases w.connections[key]? with
  | none => rfl
  | some c => simp [hop]

/-- Which operations may block. -/
theorem mayBlock_iff (c : Connection σ) (op : Operation) :
    c.mayBlock op ↔ op = .poll ∧ c.guarded.status = .handshake ∨ op = .close ∨ op = .reset ∨
      op = .commit ∨ op = .rollback ∨ (∃ level, op = .setIsolation level) ∨
      (∃ name, op = .setClientEncoding name) ∨ ∃ sql, op = .execute sql := by
  cases op <;> simp [Connection.mayBlock]

variable [WireSession σ]

/-- From one world to another the hook was left alone, except by callbacks: there were spans that do not
go through it, changes that neither spans nor the hook have to do with, and listeners were told. -/
inductive Aside (react : Reactor κ σ) (w : World κ σ) : World κ σ → Prop
  | here : Aside react w w
  | hushed {w₁ w₂ : World κ σ} : Aside react w w₁ → w₁.Hushed w₂ → Aside react w w₂
  | span {w₁ : World κ σ} (key : Nat) (op : Operation) : Aside react w w₁ →
      w₁.usesHook key op = false → Aside react w (w₁.operating key false op)
  | callback {w₁ : World κ σ} (listener : Nat) (signal : Signal) : Aside react w w₁ →
      Aside react w ((react listener signal).run w₁).2

namespace Aside

theorem trans (h : Aside react w w₁) (h' : Aside react w₁ w₂) : Aside react w w₂ := by
  induction h' with
  | here => exact h
  | hushed _ hhushed ih => exact .hushed ih hhushed
  | span key op _ hunhooked ih => exact .span key op ih hunhooked
  | callback listener signal _ ih => exact .callback listener signal ih

theorem forM {α : Type} (told : α → Nat × Signal) (xs : List α) (w : World κ σ) :
    Aside react w ((xs.forM fun x => react (told x).1 (told x).2).run w).2 := by
  induction xs generalizing w with
  | nil => exact .here
  | cons x xs ih => exact (Aside.callback (told x).1 (told x).2 .here).trans (ih _)

end Aside

/-! ## Counting -/

omit [WireSession σ] in
/-- A call through the hook is one invocation of the hook, whatever the hook does. -/
theorem hookCalls_detached {α : Type} {call : World κ σ → α × World κ σ}
    (hcall : ∀ w : World κ σ, (call w).2.hookCalls = w.hookCalls) (key : Nat) (hooked : Bool)
    (w : World κ σ) : (detached key hooked call w).2.hookCalls = w.hookCalls + hooked.toNat := by
  unfold detached
  cases hooked with
  | false => exact hcall w
  | true =>
    rw [if_pos rfl, Detach.through_eq]
    split
    · exact hcall _
    · exact hcall (w.enterHook key)

theorem hookCalls_runSpan {α : Type} (key : Nat) (span : Connection σ → Span σ α) (w : World κ σ) :
    (w.runSpan key span).2.hookCalls = w.hookCalls := by
  cases hc : w.connections[key]? with
  | none => rw [runSpan_of_none hc]
  | some c => exact (Calls.runSpan hc span).hookCalls

theorem hookCalls_operating (w : World κ σ) (key : Nat) (hooked : Bool) (op : Operation) :
    (w.operating key hooked op).hookCalls = w.hookCalls + hooked.toNat :=
  hookCalls_detached (hookCalls_runSpan key _) key hooked w

/-- The hook stands around everything that an operation says to the session. -/
theorem trace_operating_of_once (hhook : w.hook w.hookCalls = 1) {c : Connection σ}
    (hc : w.connections[key]? = some c) (op : Operation) :
    (w.operating key true op).trace = w.trace ++
      .hookEntered key :: ((c.perform op).exchanges.map (.exchanged key) ++ [.hookLeft key]) := by
  have hc' : (w.enterHook key).connections[key]? = some c := hc
  rw [operating, detached_of_once hhook, if_pos rfl, runSpan_of_some hc']
  simp only [leaveHook, record, enterHook, modifyConnection, List.append_assoc, List.cons_append,
    List.nil_append]
  rfl

/-- Where callbacks do nothing with the hook, nothing is done with it at all. -/
theorem Aside.hookCalls_eq (h : Aside react w w₁)
    (hreact : ∀ listener signal (w : World κ σ),
      ((react listener signal).run w).2.hookCalls = w.hookCalls) : w₁.hookCalls = w.hookCalls := by
  induction h with
  | here => rfl
  | hushed _ hhushed ih => exact hhushed.hookCalls.trans ih
  | span key op _ _ ih => exact (hookCalls_operating _ key false op).trans ih
  | callback listener signal _ ih => exact (hreact listener signal _).trans ih

/-! ## Operations -/

theorem aside_settle (react : Reactor κ σ) (completion : Completion) (w : World κ σ) :
    Aside react w ((settle react completion).run w).2 := by
  have discarded : Aside react w (w.record (.discarded completion.outcome)) :=
    .hushed .here (.record w rfl)
  unfold settle
  rw [Play.run_bind, Play.run_get]
  split
  · next k _ =>
    split
    · have completed : w.Furnishes (w.modifyCursor k (·.completed completion.outcome)) :=
        .of_eq rfl rfl rfl rfl rfl
      exact .hushed (.hushed .here (.of_furnishes completed)) (.record _ rfl)
    · exact discarded
  · split
    · exact .callback _ _ .here
    · exact discarded
  · exact discarded

/-- After a span, the hook is invoked by callbacks at most. -/
theorem aside_conclude (react : Reactor κ σ) (key : Nat) {α : Type} (a : Aftermath α) (w : World κ σ) :
    Aside react w ((conclude react key a).run w).2 := by
  have hdelivered : Aside react w ((deliver react key a.batch).run w).2 := by
    rw [deliver_run]
    exact (Aside.hushed .here (.absorbing w key a.batch)).trans
      (.forM (fun told : Nat × String => (told.1, .notice told.2)) _ _)
  unfold conclude
  rw [Play.run_bind]
  cases a.completion with
  | none => exact hdelivered
  | some completion => exact hdelivered.trans (aside_settle react completion _)

/-- An operation goes through the hook with its span or not at all. -/
theorem aside_perform (react : Reactor κ σ) (key : Nat) (op : Operation) (w : World κ σ) :
    Aside react (w.operating key (w.usesHook key op) op) ((perform react key op).run w).2 := by
  have hconcluded := aside_conclude react key
    (detached key (w.usesHook key op) (runSpan key (·.span op)) w).1
    (w.operating key (w.usesHook key op) op)
  rw [perform_run_usesHook]
  dsimp only
  split
  · exact .hushed hconcluded (.clearMailbox _ key)
  · exact hconcluded

theorem aside_perform_of_not_usesHook (react : Reactor κ σ) {op : Operation}
    (hop : w.usesHook key op = false) : Aside react w ((perform react key op).run w).2 := by
  have hperformed := aside_perform react key op w
  rw [hop] at hperformed
  exact (Aside.span key op .here hop).trans hperformed

/-! ## Factories -/

/-- Before a cursor factory is asked, and after that, nothing is done with the hook. -/
theorem aside_cursorWith {γ : Type} (react : Reactor κ σ) (key : Nat) (name : Option String)
    (connectionOf : γ → Nat) (nameOf : γ → Option String)
    (factory : Option String → Play κ σ (Except Fault γ)) (w : World κ σ) :
    ∃ w₁, Aside react w w₁ ∧
      (((cursorWith react key name connectionOf nameOf factory).run w).2 = w₁ ∨
        ((cursorWith react key name connectionOf nameOf factory).run w).2 =
          ((factory name).run w₁).2) := by
  have hadmitted : Aside react w ((perform react key .admitCursor).run w).2 :=
    aside_perform_of_not_usesHook react (usesHook_of_not_mayBlock fun _ => rfl)
  refine ⟨_, hadmitted, ?_⟩
  unfold cursorWith
  rw [Play.run_bind]
  split
  · exact Or.inl rfl
  · rw [Play.run_bind, Play.run_get]
    dsimp only
    split
    · exact Or.inl rfl
    · refine Or.inr ?_
      rw [Play.run_bind]
      split
      · rfl
      · split <;> rfl

/-- So it is with a factory of large objects. -/
theorem aside_largeObjectWith {γ : Type} (react : Reactor κ σ) (key : Nat) (demand : LargeObjectDemand)
    (connectionOf : γ → Nat) (factory : LargeObjectRequest → Play κ σ (Except Fault γ))
    (w : World κ σ) :
    ∃ w₁, Aside react w w₁ ∧
      (((largeObjectWith react key demand connectionOf factory).run w).2 = w₁ ∨
        ∃ request, ((largeObjectWith react key demand connectionOf factory).run w).2 =
          ((factory request).run w₁).2) := by
  have hadmitted : Aside react w ((perform react key .admitLargeObject).run w).2 :=
    aside_perform_of_not_usesHook react (usesHook_of_not_mayBlock fun _ => rfl)
  refine ⟨_, hadmitted, ?_⟩
  unfold largeObjectWith
  rw [Play.run_bind]
  split
  · exact Or.inl rfl
  · split
    · exact Or.inl rfl
    · next mode _ =>
      refine Or.inr
        ⟨{ oid := demand.oid, mode, newOid := demand.newOid, newFile := demand.newFile }, ?_⟩
      rw [Play.run_bind]
      split
      · rfl
      · split <;> rfl

/-! ## Opening a connection -/

section Opening

variable {c : Connection σ}

omit [WireSession σ] in
/-- On a connection that nobody observes, nobody is told of what a span brought unless it completed a
statement. -/
theorem conclude_run_of_unobserved {α : Type} (react : Reactor κ σ) (hc : w.connections[key]? = some c)
    (hobservers : c.mailbox.observers = []) {a : Aftermath α} (ha : a.completion = none) :
    (conclude react key a).run w = (a.result, w.absorbing key a.batch) := by
  have hshowings : w.showings key a.batch = [] := by
    rw [List.eq_nil_iff_forall_not_mem]
    intro told htold
    rw [showings, hc] at htold
    have haudience : told.1 ∈ c.mailbox.audience a.batch := (Mailbox.mem_showings.1 htold).1
    simp [Mailbox.audience, hobservers] at haudience
  unfold conclude
  rw [Play.run_bind, deliver_run, hshowings, ha]
  rfl

/-- To close a connection that nobody observes invokes the hook once, if the connection has it. -/
theorem hookCalls_close_of_unobserved (react : Reactor κ σ) (hc : w.connections[key]? = some c)
    (hobservers : c.mailbox.observers = []) :
    ((perform react key .close).run w).2.hookCalls = w.hookCalls + c.hooked.toNat := by
  have huses : w.usesHook key .close = c.hooked := by simp [usesHook, hc, Connection.mayBlock]
  obtain ⟨w₁, hspan, hc₁, -⟩ := detached_runSpan hc c.hooked (·.span .close)
  have hcalls := hookCalls_operating w key c.hooked .close
  rw [operating, hspan] at hcalls
  rw [perform_run_usesHook, huses, hspan]
  dsimp only
  rw [conclude_run_of_unobserved react hc₁ hobservers (Connection.completion_close c), if_pos rfl]
  exact (Hushed.absorbing w₁ key _).hookCalls.trans hcalls

variable [Connector κ σ]

/-- A new connection has no observers, and the hook if that was asked for. -/
theorem connection_opening (w : World κ σ) (dsn : String) (asynchronous : Bool) (settings : Settings)
    (hooked : Bool) :
    ∃ c, (w.opening dsn asynchronous settings hooked).2.connections[w.connections.length]? = some c ∧
      c.hooked = hooked ∧ c.mailbox.observers = [] := by
  rcases h : Connector.connect (!asynchronous) dsn w.connector with ⟨text | session, connector⟩
  · obtain ⟨w₁, hopening, hc, -⟩ := opening_of_error h settings hooked
    rw [hopening]
    exact ⟨_, hc, rfl, rfl⟩
  · obtain ⟨w₁, hopening, hc, -⟩ := opening_of_ok h settings hooked rfl
    rw [hopening]
    exact ⟨_, hc, rfl, rfl⟩

theorem hookCalls_opening (w : World κ σ) (dsn : String) (asynchronous : Bool) (settings : Settings)
    (hooked : Bool) :
    (w.opening dsn asynchronous settings hooked).2.hookCalls =
      w.hookCalls + (hooked && !asynchronous).toNat := by
  refine hookCalls_detached (fun w => ?_) _ _ (w.creating dsn asynchronous settings hooked)
  exact establish_of_trans (R := fun w w' => w'.hookCalls = w.hookCalls) (fun h h' => h'.trans h)
    (fun _ _ _ => rfl) (fun w span => hookCalls_runSpan _ span w) w

/-- To open a connection tells nobody anything. The hook is invoked once if the session is made in one go,
and once more for closing what is left if the connection cannot be opened. -/
theorem hookCalls_openConnection (hw : w.Grounded) (react : Reactor κ σ) (dsn : String)
    (asynchronous : Bool) (settings : Settings) (hooked : Bool) :
    let opened := (openConnection react dsn asynchronous settings hooked).run w
    (∀ key, opened.1 = .ok key →
      opened.2.hookCalls = w.hookCalls + (hooked && !asynchronous).toNat) ∧
    ∀ fault, opened.1 = .error fault →
      opened.2.hookCalls = w.hookCalls + (hooked && !asynchronous).toNat + hooked.toNat := by
  obtain ⟨c, hc, hhooked, hobservers⟩ := connection_opening w dsn asynchronous settings hooked
  have hcalls := hookCalls_opening w dsn asynchronous settings hooked
  have hcompletion := completion_opening dsn asynchronous settings hooked w
  have hholds := HoldsOn.opening w dsn asynchronous settings hooked
  rw [openConnection_run]
  generalize w.opening dsn asynchronous settings hooked = attempt at hc hcalls hcompletion hholds
  dsimp only
  rw [conclude_run_of_unobserved react hc hobservers hcompletion]
  have habsorbed := Hushed.absorbing attempt.2 w.connections.length attempt.1.batch
  dsimp only
  split
  · exact ⟨fun _ _ => habsorbed.hookCalls.trans hcalls, fun fault h => nomatch h⟩
  · refine ⟨fun key h => (nomatch h), fun _ _ => ?_⟩
    -- nothing holds the new connection, so that it is closed
    have hfree : ¬(attempt.2.absorbing w.connections.length attempt.1.batch).connectionHeld
        w.connections.length := by
      rw [(HoldsOn.absorbing _ _ _).connectionHeld_iff, hholds.connectionHeld_iff]
      exact fun hheld => absurd (hw.lt_of_held hheld) (Nat.lt_irrefl _)
    obtain ⟨mailbox, hc₁⟩ := habsorbed.alike.connection _ _ hc
    obtain ⟨d, hd, -, hsame⟩ := connection_absorbing hc₁
    cases hc.symm.trans hd
    rw [release_run, if_neg hfree, hookCalls_close_of_unobserved react hc₁ (hsame.trans hobservers),
      habsorbed.hookCalls, hcalls, ← hhooked]

end Opening

/-! ## Accessors -/

section Accessors

/-- The client looks at something, or takes it out of a mailbox, and nothing happens. -/
structure Looks (w w₁ : World κ σ) : Prop extends HoldsOn w w₁ where
  trace : w₁.trace = w.trace
  hookCalls : w₁.hookCalls = w.hookCalls

omit [WireSession σ] in
theorem Looks.refl (w : World κ σ) : Looks w w :=
  { HoldsOn.refl w with trace := rfl, hookCalls := rfl }

/-- What a step holds while it looks is held by something else as well, and thus not closed. -/
theorem looks_holding {α : Type} {holder : Holder} {body : Play κ σ α} (hheld : w.connectionHeld key)
    (hbody : ∀ w, Looks w (body.run w).2) : Looks w ((holding react holder key body).run w).2 := by
  have hlooked := hbody (w.hold holder)
  have hrunning : (body.run (w.hold holder)).2.running.tail = w.running := by
    rw [hlooked.running]
    rfl
  have hended : Looks w (body.run (w.hold holder)).2.unhold :=
    { hlooked with running := hrunning }
  have hrun : ((holding react holder key body).run w).2 =
      ((release react key).run (body.run (w.hold holder)).2.unhold).2 := rfl
  rw [hrun, release_run, if_pos (hended.connectionHeld_iff.2 hheld)]
  exact hended

theorem looks_withConnection (react : Reactor κ σ) (slot : String) {body : Nat → Play κ σ Reply}
    (hbody : ∀ key w, Looks w ((body key).run w).2) (w : World κ σ) :
    Looks w ((withConnection react slot body).run w).2 := by
  unfold withConnection
  rw [Play.run_bind, Play.run_get]
  split
  · exact .refl w
  · next key hget =>
    exact looks_holding (connectionHeld_iff.2 (Or.inl (Slots.mem_contents_of_get? hget))) (hbody key)

theorem looks_withCursor (react : Reactor κ σ) (slot : String)
    {body : Nat → Cursor → Play κ σ Reply} (hbody : ∀ key cursor w, Looks w ((body key cursor).run w).2)
    (w : World κ σ) : Looks w ((withCursor react slot body).run w).2 := by
  unfold withCursor
  rw [Play.run_bind, Play.run_get]
  split
  · exact .refl w
  · next key hget =>
    split
    · exact .refl w
    · next cursor hcursor =>
      have hheld := cursorHeld_iff.2 (Or.inl (Slots.mem_contents_of_get? hget))
      exact looks_holding
        (connectionHeld_iff.2 (Or.inr (Or.inr (Or.inl ⟨key, cursor, hheld, hcursor, rfl⟩))))
        (hbody key cursor)

/-- An accessor does not even release a connection. -/
theorem looks_act [Connector κ σ] (react : Reactor κ σ) (slot : String) {action : Action}
    (haction : action.isAccessor) (w : World κ σ) : Looks w ((act react slot action).run w).2 := by
  cases action with
  | cursorResults name | cursorExecuting name | cursorInfo name =>
    refine looks_withCursor react name (fun _ _ w => ?_) w
    exact .refl w
  | largeObjectInfo name =>
    unfold act
    rw [Play.run_bind, Play.run_get]
    split <;> exact .refl w
  | notices | notifications | sessionInfo =>
    refine looks_withConnection react slot (fun _ w => ?_) w
    exact .refl w
  | takeNotifications =>
    refine looks_withConnection react slot (fun key w => ?_) w
    rw [Play.run_bind, Play.run_get]
    split
    · exact .refl w
    · exact ⟨.modifyConnection w key _, rfl, rfl⟩
  | accessors =>
    refine looks_withConnection react slot (fun key w => ?_) w
    rw [Play.run_bind, Play.run_get]
    split <;> exact .refl w
  | compareKeys first second =>
    unfold act
    rw [Play.run_bind, Play.run_get]
    dsimp only
    split <;> exact .refl w
  | _ => exact nomatch haction

end Accessors

/-! ## Throughout a scenario -/

variable [Connector κ σ]

/-- Steps shelter what blocks, the listeners of a scenario included. -/
theorem Sheltered.step (hw : w.Sheltered) (depth : Nat) (s : Step) :
    ((step (fire depth) s).run w).2.Sheltered :=
  have hcoupled := coupled_act (S := fun w w' : World κ σ => w' = w ∧ w.Sheltered) (coupled_fire depth)
    s.slot s.action
  (hcoupled w w ⟨rfl, hw⟩ (Nat.zero_le _)).2.1.2

theorem Sheltered.play (hw : w.Sheltered) (steps : List Step) :
    ((play steps).run w).2.Sheltered :=
  (coupled_play (S := fun w w' : World κ σ => w' = w ∧ w.Sheltered) ⟨rfl, hw⟩ steps).2

/-- With a hook that invokes every call once, all calls that may wait for the server are made within the
hook of their connection, if it has one: throughout every scenario, each of them has the hook entered
before it and left after it, with nothing but calls of that connection on the wire in between. An
operation that may block invokes the hook once, and after that only callbacks do; every other operation,
and the checks before a factory is asked, leave the hook to callbacks, and accessors do nothing at all.
To open a connection invokes the hook once if the session is made in one go, and once more, for closing
it again, if it cannot be opened; callbacks there are none. -/
theorem blocking_calls_are_sheltered :
    (∀ (connector : κ) (steps : List Step),
      ((play steps).run ({ connector, hook := fun _ => 1 } : World κ σ)).2.Sheltered) ∧
    (∀ w : World κ σ, w.Sheltered →
      (∀ depth s, ((step (fire depth) s).run w).2.Sheltered) ∧
      ∀ before event after key, w.trace = before ++ event :: after → event.blocksOn key →
        ¬w.Exempt key →
          ∃ earlier inside rest later, before = earlier ++ .hookEntered key :: inside ∧
            after = rest ++ .hookLeft key :: later ∧
            ∀ e ∈ inside ++ event :: rest, e.isWireOf key) ∧
    (∀ (c : Connection σ) (op : Operation),
      c.mayBlock op ↔ op = .poll ∧ c.guarded.status = .handshake ∨ op = .close ∨ op = .reset ∨
        op = .commit ∨ op = .rollback ∨ (∃ level, op = .setIsolation level) ∨
        (∃ name, op = .setClientEncoding name) ∨ ∃ sql, op = .execute sql) ∧
    (∀ (react : Reactor κ σ) (w : World κ σ) (key : Nat) (c : Connection σ) (op : Operation),
      w.connections[key]? = some c →
        if c.hooked && c.mayBlock op then
          (w.operating key true op).hookCalls = w.hookCalls + 1 ∧
            (w.hook w.hookCalls = 1 → (w.operating key true op).trace = w.trace ++ .hookEntered key ::
              ((c.perform op).exchanges.map (.exchanged key) ++ [.hookLeft key])) ∧
            Aside react (w.operating key true op) ((perform react key op).run w).2
        else Aside react w ((perform react key op).run w).2) ∧
    (∀ (react : Reactor κ σ) (w : World κ σ) (dsn : String) (asynchronous : Bool)
      (settings : Settings) (hooked : Bool), w.Grounded →
      let opened := (openConnection react dsn asynchronous settings hooked).run w
      (∀ key, opened.1 = .ok key →
        opened.2.hookCalls = w.hookCalls + (hooked && !asynchronous).toNat) ∧
      ∀ fault, opened.1 = .error fault →
        opened.2.hookCalls = w.hookCalls + (hooked && !asynchronous).toNat + hooked.toNat) ∧
    (∀ (react : Reactor κ σ) (w : World κ σ) (key : Nat),
      (∀ (γ : Type) name (connectionOf : γ → Nat) nameOf factory, ∃ w₁, Aside react w w₁ ∧
        let final := ((cursorWith react key name connectionOf nameOf factory).run w).2
        (final = w₁ ∨ final = ((factory name).run w₁).2)) ∧
      ∀ (γ : Type) demand (connectionOf : γ → Nat) factory, ∃ w₁, Aside react w w₁ ∧
        let final := ((largeObjectWith react key demand connectionOf factory).run w).2
        (final = w₁ ∨ ∃ request, final = ((factory request).run w₁).2)) ∧
    (∀ (react : Reactor κ σ) (w : World κ σ) slot action, action.isAccessor →
      ((act react slot action).run w).2.hookCalls = w.hookCalls ∧
        ((act react slot action).run w).2.trace = w.trace) ∧
    ∀ (react : Reactor κ σ) (w w₁ : World κ σ), Aside react w w₁ →
      (∀ listener signal (w : World κ σ),
        ((react listener signal).run w).2.hookCalls = w.hookCalls) → w₁.hookCalls = w.hookCalls := by
  refine ⟨fun connector steps => (sheltered_start connector).play steps, fun w hw => ⟨hw.step, ?_⟩,
    mayBlock_iff, fun react w key c op hc => ?_, ?_, fun react w key => ⟨?_, ?_⟩, ?_, ?_⟩
  · exact fun before event after key htrace hblocks hexempt => hw.bracketed.around htrace hblocks hexempt
  · have huses : w.usesHook key op = (c.hooked && c.mayBlock op) := by rw [usesHook, hc]; rfl
    have hperformed := aside_perform react key op w
    split
    · next h =>
      rw [huses, h] at hperformed
      exact ⟨hookCalls_operating w key true op, fun hhook => trace_operating_of_once hhook hc op,
        hperformed⟩
    · next h =>
      exact aside_perform_of_not_usesHook react (huses.trans (Bool.eq_false_iff.2 h))
  · exact fun react w dsn asynchronous settings hooked hw =>
      hookCalls_openConnection hw react dsn asynchronous settings hooked
  · exact fun γ name connectionOf nameOf factory =>
      aside_cursorWith react key name connectionOf nameOf factory w
  · exact fun γ demand connectionOf factory =>
      aside_largeObjectWith react key demand connectionOf factory w
  · intro react w slot action haction
    have hlooked := looks_act react slot haction w
    exact ⟨hlooked.hookCalls, hlooked.trace⟩
  · exact fun react w w₁ h hreact => h.hookCalls_eq hreact

/-- A connection that is opened in one go and then reset, and a server that cannot be reached. -/
theorem blocking_calls_are_sheltered_reset :
    let start : World Script ScriptedSession := { connector := {}, hook := fun _ => 1 }
    let absent : World Script ScriptedSession :=
      { connector := { connectFailure := some "no route" }, hook := fun _ => 1 }
    let idle : Reactor Script ScriptedSession := fun _ _ => pure ()
    let w := ((step (fire 0) (.on "db" (.openConnection "" false .standard .full))).run start).2
    w.Sheltered ∧ w.hookCalls = 1 ∧
      (∃ before event after earlier inside rest later, w.trace = before ++ event :: after ∧
        event.blocksOn 0 ∧ before = earlier ++ .hookEntered 0 :: inside ∧
        after = rest ++ .hookLeft 0 :: later ∧ ∀ e ∈ inside ++ event :: rest, e.isWireOf 0) ∧
      ((perform idle 0 .reset).run w).2.hookCalls = 2 ∧
      ((perform idle 0 .backendPid).run w).2.hookCalls = 1 ∧
      ((act idle "db" .accessors).run w).2.hookCalls = 1 ∧
      ((openConnection idle "" false .standard true).run start).2.hookCalls = 1 ∧
      ((openConnection idle "" false .standard true).run absent).2.hookCalls = 2 := by
  intro start absent idle w
  obtain ⟨-, hsheltered, -, hoperations, hopenings, -, haccessors, hidle⟩ :=
    @blocking_calls_are_sheltered Script ScriptedSession _ _
  have hw : w.Sheltered := (hsheltered start (sheltered_start _)).1 0 _
  have hcalls : w.hookCalls = 1 := by decide +kernel
  have hstate : w.connections.map (fun c => (c.hooked, c.mayBlock .reset, c.mayBlock .backendPid)) =
      [(true, true, false)] := by decide +kernel
  obtain ⟨c, hconnections, htriple⟩ := List.map_eq_singleton_iff.1 hstate
  obtain ⟨hhooked, hpair⟩ := Prod.mk.inj htriple
  obtain ⟨hreset, hpid⟩ := Prod.mk.inj hpair
  have hc : w.connections[0]? = some c := by rw [hconnections]; rfl
  have hexempt : ¬w.Exempt 0 := by
    rintro ⟨d, hd, hunhooked⟩
    cases hc.symm.trans hd
    exact absurd (hhooked.symm.trans hunhooked) nofun
  have hsilent : ∀ listener signal (w : World Script ScriptedSession),
      ((idle listener signal).run w).2.hookCalls = w.hookCalls := fun _ _ _ => rfl
  have hblocked : w.trace.any (Event.blocksOn 0) = true := by decide +kernel
  obtain ⟨event, hmem, hblocks⟩ := List.any_eq_true.1 hblocked
  obtain ⟨before, after, htrace⟩ := List.append_of_mem hmem
  obtain ⟨earlier, inside, rest, later, hbefore, hafter, hwire⟩ :=
    (hsheltered w hw).2 before event after 0 htrace hblocks hexempt
  have hresetting := hoperations idle w 0 c .reset hc
  have hasking := hoperations idle w 0 c .backendPid hc
  rw [hhooked, hreset, Bool.and_self, if_pos rfl] at hresetting
  rw [hpid, Bool.and_false, if_neg Bool.false_ne_true] at hasking
  have hopened : ∃ key, ((openConnection idle "" false .standard true).run start).1 = .ok key := by
    have hok : ((openConnection idle "" false .standard true).run start).1.isOk = true := by
      decide +kernel
    rcases hresult : ((openConnection idle "" false .standard true).run start).1 with fault | key
    · rw [hresult] at hok
      exact nomatch hok
    · exact ⟨key, rfl⟩
  obtain ⟨key, hkey⟩ := hopened
  have hopening := (hopenings idle start "" false .standard true (sheltered_start _).grounded).1 key hkey
  have hfailing := (hopenings idle absent "" false .standard true (sheltered_start _).grounded).2 _
    (openConnection_of_error idle false rfl .standard true)
  refine ⟨hw, hcalls, ?_, ?_, ?_, ?_, hopening, hfailing⟩
  · exact ⟨before, event, after, earlier, inside, rest, later, htrace, hblocks, hbefore, hafter, hwire⟩
  · rw [hidle idle _ _ hresetting.2.2 hsilent, hresetting.1, hcalls]
  · rw [hidle idle _ _ hasking hsilent, hcalls]
  · rw [(haccessors idle w "db" .accessors rfl).1, hcalls]

end World

end SessionLayer.Scenario
