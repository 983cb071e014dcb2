import SessionLayer.Proofs.Mailbox.Newest
import SessionLayer.Proofs.Scenario.Post
import SessionLayer.Wire.Script

/-!
# Every message is delivered once

Every computation of a scenario is a run of turns of a post that makes the calls it brings about and
leaves alone those that were there before (`Posts`), provided that the listeners' code is made of such
computations. So the books of every scenario are balanced, and at its end nobody is left to be told.
-/

set_option autoImplicit false

namespace SessionLayer.Scenario.World

open Post

variable {κ σ : Type} [WireSession σ] [Connector κ σ] {w w₁ w₂ : World κ σ} {react : Reactor κ σ}

/-- A post gets from one world to the other, and in the end the same calls are to be made. -/
def Posts (w w' : World κ σ) : Prop :=
  ∀ calls, Post.Reached { world := w, calls } { world := w', calls }

namespace Posts

theorem of_idle (h : w.Idle w₁) : Posts w w₁ :=
  fun _ => .single (.resting w₁ h)

theorem trans (h : Posts w w₁) (h' : Posts w₁ w₂) : Posts w w₂ :=
  fun calls => (h calls).trans (h' calls)

end Posts

instance Posts.drift : Drift (Posts : World κ σ → World κ σ → Prop) where
  refl := fun _ _ => .refl
  trans := .trans
  minor := fun h => .of_idle h.idle

instance Posts.passive : Passive (Posts : World κ σ → World κ σ → Prop) where
  idle := fun h _ => .of_idle h

/-! ## What follows a span -/

/-- The calls that are to be made next are made, one after the other. -/
theorem posts_calls (hreact : Attends Posts react) (next : List (Nat × String)) (w : World κ σ)
    (calls : List (Nat × String)) :
    Post.Reached { world := w, calls := next ++ calls }
      { world := ((next.forM fun told => react told.1 (.notice told.2)).run w).2, calls } := by
  induction next generalizing w with
  | nil => exact .refl
  | cons told rest ih =>
    obtain ⟨listener, notice⟩ := told
    have hcall : Turn { world := w, calls := (listener, notice) :: rest ++ calls }
        { world := w.announce listener (.notice notice), calls := rest ++ calls } :=
      .calling listener notice _ rfl
    have hreacted := hreact listener (.notice notice) w (rest ++ calls)
    exact (Relation.ReflTransGen.single hcall).trans (hreacted.trans (ih _))

/-- Once a batch is in the mailbox, its observers are told, and nobody else. -/
theorem posts_deliver (hreact : Attends Posts react) (key : Nat) (batch : Batch) (w : World κ σ)
    (calls : List (Nat × String)) :
    Post.Reached { world := w.absorbing key batch, calls := w.showings key batch ++ calls }
      { world := ((deliver react key batch).run w).2, calls } := by
  rw [deliver_run]
  exact posts_calls hreact _ _ calls

omit [WireSession σ] [Connector κ σ] in
/-- An owner that is told an outcome is not told a message. -/
theorem idle_announce_complete (w : World κ σ) (listener : Nat)
    (outcome : Except Fault (List QueryResult)) : w.Idle (w.announce listener (.complete outcome)) := by
  unfold announce
  split
  · exact .refl w
  · rename_i l _
    refine (Idle.record w rfl).trans (.of_eq rfl rfl ?_ rfl)
    simp [modifyListener]

theorem posts_conclude (hreact : Attends Posts react) (key : Nat) {α : Type} (a : Aftermath α)
    (w : World κ σ) (calls : List (Nat × String)) :
    Post.Reached { world := w.absorbing key a.batch, calls := w.showings key a.batch ++ calls }
      { world := ((conclude react key a).run w).2, calls } := by
  have hsettled : ∀ completion, Keeps Posts (settle react completion) :=
    keeps_settle fun listener outcome w =>
      Posts.trans (.of_idle (idle_announce_complete w listener outcome)) (hreact listener _ w)
  have hdelivered := posts_deliver hreact key a.batch w calls
  unfold conclude
  simp only [Play.run_bind]
  split
  · exact hdelivered.trans (hsettled _ _ calls)
  · exact hdelivered

/-! ## Operations -/

theorem posts_perform (hreact : Attends Posts react) (key : Nat) (op : Operation) :
    Keeps Posts (perform react key op) := by
  refine keeps_perform_of (fun hooked w calls => ?_) fun w => .of_idle (.clearMailbox w key)
  have hspan := Turn.performing (P := { world := w, calls }) key hooked op
  exact (Relation.ReflTransGen.single hspan).trans (posts_conclude hreact key _ _ calls)

theorem posts_openConnection (hreact : Attends Posts react) (dsn : String) (asynchronous : Bool)
    (settings : Settings) (hooked : Bool) :
    Keeps Posts (openConnection react dsn asynchronous settings hooked) := by
  refine keeps_openConnection_of (fun w calls => ?_) fun key => posts_perform hreact key .close
  have hspan := Turn.opening (P := { world := w, calls }) dsn asynchronous settings hooked
  exact (Relation.ReflTransGen.single hspan).trans (posts_conclude hreact _ _ _ calls)

/-! ## Scenarios -/

theorem conducts_posts (hreact : Attends Posts react) : Conducts Posts react :=
  .of_drift (posts_perform hreact) (posts_openConnection hreact)
    (keeps_executeCursor (posts_perform hreact))

theorem attends_posts (depth : Nat) : Attends Posts (fire depth : Reactor κ σ) :=
  attends_fire (fun _ => conducts_posts) depth

theorem posts_step (depth : Nat) (s : Step) : Keeps Posts (step (fire depth) s : Play κ σ Reply) :=
  keeps_act (conducts_posts (attends_posts depth)) s.slot s.action

theorem posts_fire (depth listener : Nat) (signal : Signal) (w : World κ σ) :
    Posts (w.announce listener signal) ((fire depth listener signal).run w).2 :=
  attends_posts depth listener signal w

theorem posts_play (steps : List Step) :
    Keeps Posts (play steps : Play κ σ (List Report × List Event)) :=
  keeps_play_of (fun _ => conducts_posts) steps

/-- The trace tells that a session was ended only right after its messages had been taken over. -/
theorem Reached.taken_over {connector : κ} {hook : Nat → Nat}
    (h : World.Reached ({ connector, hook } : World κ σ) w) {key : Nat} {c : Connection σ}
    (hc : w.connections[key]? = some c) (hopened : w.Opened key) (hended : c.guarded.session = none) :
    ∃ (xs : List Exchange) (notices : List String) (notifications : List Notification),
      w.exchanges key = xs ++ [{ call := .takeNotices, answer := notices },
        { call := .takeNotifications, answer := notifications }, { call := .finish, answer := () }] ∧
      Span.finishes xs = 0 := by
  cases h.lifetimes.lifetime key c hc with
  | present _ session _ => simp [hended] at session
  | ended xs last _ _ before exchanges =>
    exact ⟨xs, _, _, exchanges, before⟩
  | absent unopened _ _ => exact absurd hopened unopened

/-- No message of a server is lost, doubled or put out of order on its way in, whatever the sessions
answer and whatever listeners do. At every moment, the messages that went into the mailbox of a
connection are, in order, all that its session has handed over; those that are pending when it is ended
are taken over right before. No span keeps anything back. A batch goes into the mailbox as a whole before
anybody is told of it, and each buffer keeps the newest of its messages; then each of its notices is told
once to each observer that was registered by then, whether it is still in the mailbox or not. Nobody else
is told of it, and what the observers do meanwhile makes its own calls and no others. -/
theorem messages_are_delivered_once (connector : κ) (hook : Nat → Nat) :
    (∀ P : Post κ σ, Post.Reached { world := { connector, hook } } P →
      World.Reached { connector, hook } P.world ∧
      (P.world.told ++ P.calls).Perm P.world.shown ∧
      ∀ key,
        (P.world.absorbed key).flatMap Batch.notices =
          (P.world.exchanges key).flatMap Exchange.notices ∧
        (P.world.absorbed key).flatMap Batch.notifications =
          (P.world.exchanges key).flatMap Exchange.notifications ∧
        ∀ c : Connection σ, P.world.connections[key]? = some c →
          c.guarded.stash = .empty ∧ (∀ op, (c.perform op).guarded.stash = .empty) ∧
          c.mailbox.observers.Nodup ∧
          (∀ listener ∈ c.mailbox.observers, listener < P.world.listeners.length) ∧
          (P.world.Opened key → c.guarded.session = none →
            ∃ (xs : List Exchange) (notices : List String) (notifications : List Notification),
              P.world.exchanges key = xs ++ [{ call := .takeNotices, answer := notices },
                { call := .takeNotifications, answer := notifications },
                { call := .finish, answer := () }] ∧
              Span.finishes xs = 0)) ∧
    (∀ (depth key : Nat) (batch : Batch) (w : World κ σ) (c : Connection σ),
      w.connections[key]? = some c → batch ≠ .empty →
        (w.absorbing key batch).connections[key]? =
          some { c with mailbox := c.mailbox.store batch } ∧
        c.mailbox.TakesIn batch (c.mailbox.store batch) ∧
        (w.absorbing key batch).trace =
          w.trace ++ [.absorbed key batch (c.mailbox.audience batch)] ∧
        ∀ calls, Post.Reached
          { world := w.absorbing key batch
            calls := (batch.notices.flatMap fun notice =>
              c.mailbox.observers.map fun listener => (listener, notice)) ++ calls }
          { world := ((deliver (fire depth) key batch).run w).2, calls }) ∧
    (∀ (depth listener : Nat) (signal : Signal) (w : World κ σ),
      Posts (w.announce listener signal) ((fire depth listener signal).run w).2) ∧
    ∀ (steps : List Step) (w : World κ σ),
      Posts w ((play steps : Play κ σ (List Report × List Event)).run w).2 := by
  refine ⟨fun P hP => ?_, fun depth key batch w c hc hbatch => ?_, posts_fire, posts_play⟩
  · have hbalanced := hP.balanced
    refine ⟨hP.reached, hbalanced.told, fun key => ?_⟩
    have hconserved := hbalanced.conserved key
    refine ⟨congrArg Batch.notices hconserved, congrArg Batch.notifications hconserved,
      fun c hc => ?_⟩
    obtain ⟨hnodup, hbound⟩ := hbalanced.observers key c hc
    exact ⟨hbalanced.unstashed key c hc, fun op => (c.accounted_perform op).stash, hnodup, hbound,
      hP.reached.taken_over hc⟩
  · obtain ⟨hafter, hshowings⟩ := absorbing_of_some hc hbatch
    refine ⟨?_, c.mailbox.takesIn_store batch, ?_, fun calls => ?_⟩
    · simp [hafter, record, modifyConnection, hc]
    · rw [hafter]
      rfl
    · have hdelivered := posts_deliver (attends_posts depth) key batch w calls
      have haudience : Mailbox.showings (c.mailbox.audience batch) batch =
          batch.notices.flatMap fun notice =>
            c.mailbox.observers.map fun listener => (listener, notice) := by
        unfold Mailbox.showings Mailbox.audience
        by_cases hnone : batch.notices = []
        · simp [hnone]
        · simp [hnone]
      rw [hshowings, haudience] at hdelivered
      exact hdelivered

/-- Two notices of one statement reach an observer. -/
theorem messages_are_delivered_once_observed :
    let script : Script := { notices := [("SELECT 1", ["first", "second"])] }
    let start : World Script ScriptedSession := { connector := script, hook := fun _ => 1 }
    let steps : List Step := [.on "db" (.openConnection "" false .standard .withSettings),
      .on "db" (.observe "watcher" 0 []), .on "db" (.perform (.execute "SELECT 1"))]
    let ended := ((play steps).run start).2
    Post.Reached { world := start } { world := ended } ∧
      ended.told = [(0, "first"), (0, "second")] ∧ ended.told.Perm ended.shown ∧
      (ended.exchanges 0).flatMap Exchange.notices = ["first", "second"] ∧
      (ended.absorbed 0).flatMap Batch.notices = ["first", "second"] := by
  intro script start steps ended
  obtain ⟨halways, -, -, hplayed⟩ :=
    messages_are_delivered_once (κ := Script) (σ := ScriptedSession) script start.hook
  have hreached : Post.Reached { world := start } { world := ended } := hplayed steps start []
  have htold : ended.told = [(0, "first"), (0, "second")] := by decide +kernel
  have hhanded : (ended.exchanges 0).flatMap Exchange.notices = ["first", "second"] := by decide +kernel
  -- what the scenario comes to has been computed; from here on it is any world
  clear_value ended
  obtain ⟨-, hshown, hconserved⟩ := halways { world := ended } hreached
  rw [List.append_nil] at hshown
  exact ⟨hreached, htold, hshown, hhanded, (hconserved 0).1.trans hhanded⟩

end SessionLayer.Scenario.World
