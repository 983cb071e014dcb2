import SessionLayer.Proofs.Scenario.Delivery
import SessionLayer.Proofs.Scenario.Diagram
import SessionLayer.Proofs.Scenario.Tidy

/-!
# Closing a connection

A connection that has been closed by its owner has ceased: it has no session, no statement is in flight
and its mailbox is empty. It stays so, whatever is asked of it. Together with the lifetimes of sessions
and with the tidiness of scenarios this says how every session ends.
-/

set_option autoImplicit false

namespace SessionLayer

variable {σ : Type}

namespace Connection

/-- Nothing is left of the connection, neither a session nor a message. -/
structure Ceased (c : Connection σ) : Prop where
  status : c.guarded.status = .closed
  session : c.guarded.session = none
  inFlight : c.guarded.inFlight = none
  stash : c.guarded.stash = .empty
  notices : c.mailbox.notices.items = []
  notifications : c.mailbox.notifications.items = []

variable [WireSession σ] {c : Connection σ}

omit [WireSession σ] in
/-- An orderly connection that is closed has no session, and no statement is in flight. -/
theorem Orderly.of_closed (h : c.Orderly) (hclosed : c.guarded.status = .closed) :
    c.guarded.session = none ∧ c.guarded.inFlight = none := by
  rcases h with ⟨hconsistent, -⟩ | hunopened
  · constructor
    · cases hsession : c.guarded.session with
      | none => rfl
      | some session => exact absurd hclosed (hconsistent.session_iff.1 (by simp [hsession]))
    · cases hflight : c.guarded.inFlight with
      | none => rfl
      | some flight =>
        have hready := (hconsistent.inFlight (by simp [hflight])).2
        simp [hclosed] at hready
  · exact ⟨hunopened.session, hunopened.inFlight⟩

/-- Whatever is asked of a connection that has ceased, nothing is said and nothing has to be
delivered. -/
theorem Ceased.perform (h : c.Ceased) (op : Operation) :
    { c with guarded := (c.perform op).guarded }.Ceased ∧ (c.perform op).exchanges = [] ∧
      (c.perform op).batch = .empty := by
  have haccounted := c.accounted_perform op
  obtain ⟨hsilent, hsession⟩ := haccounted.silent h.session
  obtain ⟨-, hflight, -⟩ := hollow_perform h.session h.inFlight op
  refine ⟨?_, hsilent, ?_⟩
  · exact
      { status := closed_perform h.status op
        session := hsession
        inFlight := hflight
        stash := haccounted.stash
        notices := h.notices
        notifications := h.notifications }
  · rw [haccounted.batch, hsilent, h.stash]
    rfl

end Connection

namespace Scenario

namespace World

variable {κ : Type} {w w₁ : World κ σ} {key : Nat} {xs : List Exchange}

/-- The connection has ceased, and the given exchanges are all that was ever said to its session. -/
def Ceased (w : World κ σ) (key : Nat) (xs : List Exchange) : Prop :=
  ∃ c, w.connections[key]? = some c ∧ c.Ceased ∧ w.exchanges key = xs

namespace Ceased

/-- The connection and its mailbox are left alone. -/
theorem of_alike (h : w.Ceased key xs) (halike : AlikeAt key w w₁) (hspoken : w.Spoken w₁) :
    w₁.Ceased key xs := by
  obtain ⟨c, hc, hceased, hxs⟩ := h
  obtain ⟨mailbox, hafter⟩ := halike.connection c hc
  obtain ⟨c', hc', hmailbox⟩ := hspoken.kept key c hc
  cases hafter.symm.trans hc'
  have hmailbox : mailbox = c.mailbox := hmailbox
  refine ⟨_, hafter, ?_, halike.exchanges.trans hxs⟩
  rw [hmailbox]
  exact hceased

theorem idle (h : w.Ceased key xs) (hidle : w.Idle w₁) : w₁.Ceased key xs := by
  obtain ⟨c, hc, hceased, hxs⟩ := h
  obtain ⟨mailbox, hafter, hlightens⟩ := hidle.connection key c hc
  have hnotices := hlightens.notices
  have hnotifications := hlightens.notifications
  rw [hceased.notices] at hnotices
  rw [hceased.notifications] at hnotifications
  refine ⟨_, hafter, ?_, (hidle.alike.exchanges_eq key).trans hxs⟩
  exact
    { hceased with
      notices := List.eq_nil_of_sublist_nil hnotices
      notifications := List.eq_nil_of_sublist_nil hnotifications }

theorem announce (h : w.Ceased key xs) (listener : Nat) (signal : Signal) :
    (w.announce listener signal).Ceased key xs := by
  obtain ⟨c, hc, hceased, hxs⟩ := h
  refine ⟨c, ?_, hceased, ((Alike.announce w listener signal).exchanges_eq key).trans hxs⟩
  unfold World.announce
  split <;> exact hc

/-- Nothing is put into its mailbox any more. -/
theorem absorbing (h : w.Ceased key xs) {other : Nat} {batch : Batch}
    (hbatch : other = key → batch = .empty) : (w.absorbing other batch).Ceased key xs := by
  by_cases hother : other = key
  · rw [(absorbing_of_empty (Or.inr (hbatch hother))).1]
    exact h
  · obtain ⟨c, hc, hceased, hxs⟩ := h
    refine ⟨c, ?_, hceased, ((Still.absorbing w other batch).toAlike.exchanges_eq key).trans hxs⟩
    unfold World.absorbing
    split
    · exact hc
    · split
      · exact hc
      · simp [record, modifyConnection, hother, hc]

variable [WireSession σ]

theorem operating (h : w.Ceased key xs) (other : Nat) (hooked : Bool) (op : Operation) :
    (w.operating other hooked op).Ceased key xs ∧
      (other = key → (detached other hooked (runSpan other (·.span op)) w).1.batch = .empty) := by
  by_cases hother : other = key
  · subst hother
    obtain ⟨c, hc, hceased, hxs⟩ := h
    obtain ⟨hafter, hsilent, hbatch⟩ := hceased.perform op
    obtain ⟨w₁, hspan, hc₁, hsaid⟩ := detached_runSpan hc hooked (·.span op)
    rw [World.operating, hspan]
    refine ⟨⟨_, hc₁, hafter, ?_⟩, fun _ => hbatch⟩
    have hsaid : w₁.exchanges other = w.exchanges other ++ (c.perform op).exchanges := hsaid
    rw [hsaid, hsilent, List.append_nil, hxs]
  · exact ⟨h.of_alike (alikeAt_operating hother w hooked op) (.operating w other hooked op),
      fun heq => absurd heq hother⟩

theorem opening [Connector κ σ] (h : w.Ceased key xs) (dsn : String) (asynchronous : Bool)
    (settings : Settings) (hooked : Bool) :
    (w.opening dsn asynchronous settings hooked).2.Ceased key xs ∧ w.connections.length ≠ key := by
  have ⟨c, hc, _⟩ := h
  have hkey : key ≠ w.connections.length := Nat.ne_of_lt (List.getElem?_eq_some_iff.1 hc).1
  exact ⟨h.of_alike (alikeAt_opening hkey dsn asynchronous settings hooked).1
    (.opening w dsn asynchronous settings hooked), hkey.symm⟩

end Ceased

end World

namespace Post

open World

variable {κ : Type} [WireSession σ] [Connector κ σ] {P P' : Post κ σ} {key : Nat} {xs : List Exchange}

/-- Whatever happens, a connection that has ceased stays as it is. -/
theorem Turn.ceased (hP : P.world.Ceased key xs) (h : Turn P P') : P'.world.Ceased key xs := by
  cases h with
  | resting w idle => exact hP.idle idle
  | opening dsn asynchronous settings hooked =>
    obtain ⟨hafter, hkey⟩ := hP.opening dsn asynchronous settings hooked
    exact hafter.absorbing fun heq => absurd heq hkey
  | performing other hooked op =>
    obtain ⟨hafter, hbatch⟩ := hP.operating other hooked op
    exact hafter.absorbing hbatch
  | calling listener notice calls next => exact hP.announce listener _

theorem Reached.ceased (hP : P.world.Ceased key xs) (h : Reached P P') : P'.world.Ceased key xs :=
  h.preserves (fun _ _ => Turn.ceased) hP

end Post

namespace World

variable {κ : Type} [WireSession σ] [Connector κ σ] {w w' : World κ σ} {key : Nat}

/-! ## Closed connections -/

/-- Nothing is ever said again to the session of a connection that is closed, and it stays closed. -/
theorem Reached.of_closed (hw : w.Orderly) (h : Reached w w') {c : Connection σ}
    (hc : w.connections[key]? = some c) (hclosed : c.guarded.status = .closed) :
    w'.exchanges key = w.exchanges key ∧
      ∃ c', w'.connections[key]? = some c' ∧ c'.guarded.status = .closed := by
  have hstays : ∀ {w'}, Reached w w' → ∃ c', w'.connections[key]? = some c' ∧
      c'.guarded.status = .closed := by
    intro w' h
    obtain ⟨c', hc', hpath⟩ := h.advances hw hc
    exact ⟨c', hc', Status.eq_closed_of_path hpath hclosed⟩
  refine ⟨?_, hstays h⟩
  induction h with
  | refl => rfl
  | @tail w₁ w₂ hreached hmove ih =>
    obtain ⟨c₁, hc₁, hclosed₁⟩ := hstays hreached
    have horderly := Reached.preserves (fun _ _ => Move.orderly) hreached hw
    rcases (hmove.fate key).of_some hc₁ with ⟨mailbox, -, hsaid⟩ | ⟨op, -, hsaid⟩
    · rw [hsaid, ih]
    · have hsession := ((horderly key c₁ hc₁).of_closed hclosed₁).1
      rw [hsaid, ((c₁.accounted_perform op).silent hsession).1, List.append_nil, ih]

theorem Reached.unstashed {connector : κ} {hook : Nat → Nat}
    (h : Reached ({ connector, hook } : World κ σ) w) : w.Unstashed :=
  h.preserves (fun _ _ hw hmove key _ hc => (hmove.fate key).unstashed hw hc) fun _ _ hc => nomatch hc

/-- Once a close has returned, the connection has ceased. -/
theorem ceased_close {connector : κ} {hook : Nat → Nat}
    (h : Reached ({ connector, hook } : World κ σ) w) (depth : Nat) (hkey : key < w.connections.length) :
    ∃ xs, ((perform (fire depth) key .close).run w).2.Ceased key xs := by
  obtain ⟨hooked, hrun⟩ := perform_run (fire depth) key .close w
  have hspan := h.tail (.operating key hooked .close)
  have hconcluded : Reached (w.operating key hooked .close)
      ((conclude (fire depth) key (detached key hooked (runSpan key (·.span .close)) w).1).run
        (w.operating key hooked .close)).2 := keeps_conclude (keeps_fire depth) key _ _
  have hall := hspan.trans hconcluded
  obtain ⟨c₁, hc₁, hclosed₁⟩ := shut_close w hkey hooked
  obtain ⟨-, c, hc, hclosed⟩ := hconcluded.of_closed (Reached.orderly hspan) hc₁ hclosed₁
  obtain ⟨hsession, hflight⟩ := (Reached.orderly hall key c hc).of_closed hclosed
  have hstash := Reached.unstashed hall key c hc
  rw [hrun]
  refine ⟨_, { c with mailbox := c.mailbox.clear }, ?_, ?_, rfl⟩
  · simp only [if_true, clearMailbox, modifyConnection, List.getElem?_modify]
    exact congrArg (Option.map _) hc
  · exact
      { status := hclosed
        session := hsession
        inFlight := hflight
        stash := hstash
        notices := rfl
        notifications := rfl }

/-! ## Throughout a scenario -/

omit [Connector κ σ] in
/-- What the trace tells of the session of a connection: as long as the session is there it has not been
ended, and once it is gone to be ended was the last that it was called for. -/
theorem Lifetimes.finishes (hw : w.Lifetimes) (hsound : w.Sound) {c : Connection σ}
    (hc : w.connections[key]? = some c) :
    (c.guarded.session.isSome ↔ w.Opened key ∧ c.guarded.status ≠ .closed) ∧
      (c.guarded.session.isSome → Span.finishes (w.exchanges key) = 0) ∧
      (w.Opened key → c.guarded.status = .closed → ∃ xs, Span.finishes xs = 0 ∧
        w.exchanges key = xs ++ [{ call := .finish, answer := () }]) := by
  have hsettled := hsound.settled key c hc
  cases hw.lifetime key c hc with
  | present opened session exchanges =>
    have hopen := (hsettled opened).1.session_iff.1 session
    exact ⟨⟨fun _ => ⟨opened, hopen⟩, fun _ => session⟩, fun _ => exchanges,
      fun _ hclosed => absurd hclosed hopen⟩
  | ended xs last opened session before exchanges =>
    have hnone : ¬c.guarded.session.isSome := by simp [session]
    refine ⟨⟨fun hsome => absurd hsome hnone, fun hopen => ?_⟩, fun hsome => absurd hsome hnone,
      fun _ _ => ⟨xs ++ Span.messageExchanges last, ?_, ?_⟩⟩
    · exact (hsettled opened).1.session_iff.2 hopen.2
    · rw [Span.finishes_append, before, Span.finishes_messageExchanges]
    · rw [exchanges, Span.Runs.farewell, List.append_assoc]
  | absent unopened session _ =>
    have hnone : ¬c.guarded.session.isSome := by simp [session]
    exact ⟨⟨fun hsome => absurd hsome hnone, fun hopen => absurd hopen.1 unopened⟩,
      fun hsome => absurd hsome hnone, fun opened => absurd opened unopened⟩

/-- Every session that was made is ended once, and that is the last call on it; where no session could be
made, none is called. A session is there as long as its connection is open, and nothing is said to it
once the connection is closed. Every step of a scenario leaves every connection closed that nothing holds
any more, so a session is ended at the latest when its connection is let go. A close leaves neither a
session nor a statement in flight nor a message, from whatever state and whatever the listeners do
meanwhile; to close again says nothing to the session, and nothing that happens later does or puts
anything back. -/
theorem sessions_end_once (connector : κ) (hook : Nat → Nat) :
    (∀ w : World κ σ, Reached { connector, hook } w → ∀ key,
      (¬w.Opened key → w.exchanges key = []) ∧
      ∀ c : Connection σ, w.connections[key]? = some c →
        (c.guarded.session.isSome ↔ w.Opened key ∧ c.guarded.status ≠ .closed) ∧
        (c.guarded.session.isSome → Span.finishes (w.exchanges key) = 0) ∧
        (w.Opened key → c.guarded.status = .closed → ∃ xs, Span.finishes xs = 0 ∧
          w.exchanges key = xs ++ [{ call := .finish, answer := () }]) ∧
        (c.guarded.status = .closed → ∀ w', Reached w w' →
          w'.exchanges key = w.exchanges key ∧
          ∃ c', w'.connections[key]? = some c' ∧ c'.guarded.status = .closed)) ∧
    ({ connector, hook } : World κ σ).Tidy ∧
    (∀ w : World κ σ, w.Tidy →
      (∀ (depth : Nat) (s : Step), ((step (fire depth) s).run w).2.Tidy) ∧
      ∀ steps : List Step, ((play steps).run w).2.Tidy) ∧
    (∀ w : World κ σ, Reached { connector, hook } w → ∀ depth, ∀ key < w.connections.length,
      ∃ xs, ((perform (fire depth) key .close).run w).2.Ceased key xs) ∧
    (∀ (key : Nat) (xs : List Exchange) (P P' : Post κ σ), Post.Reached P P' →
      P.world.Ceased key xs → P'.world.Ceased key xs) ∧
    ∀ depth : Nat,
      (∀ (key : Nat) (op : Operation) (w : World κ σ), Posts w ((perform (fire depth) key op).run w).2) ∧
      (∀ (s : Step) (w : World κ σ), Posts w ((step (fire depth) s).run w).2) ∧
      ∀ (steps : List Step) (w : World κ σ), Posts w ((play steps).run w).2 := by
  refine ⟨fun w hreached key => ?_, tidy_start connector hook, fun w hw => ?_,
    fun w hreached depth key hkey => ceased_close hreached depth hkey,
    fun key xs P P' h hP => h.ceased hP, fun depth => ?_⟩
  · have hlifetimes := hreached.lifetimes
    have hsound := hreached.preserves (fun _ _ => Move.sound) (sound_start connector hook)
    refine ⟨hlifetimes.exchanges_of_not_opened, fun c hc => ?_⟩
    obtain ⟨hsession, hopen, hended⟩ := hlifetimes.finishes hsound hc
    exact ⟨hsession, hopen, hended, fun hclosed w' h => h.of_closed hreached.orderly hc hclosed⟩
  · exact ⟨fun depth s => (tidies_step depth s w).tidy hw, fun steps => (tidies_play steps w).tidy hw⟩
  · exact ⟨posts_perform (attends_posts depth), posts_step depth, posts_play⟩

/-- A connection is let go while a statement is in flight. -/
theorem sessions_end_once_dropped :
    let start : World Script ScriptedSession := { connector := {}, hook := fun _ => 1 }
    let steps : List Step := [.on "db" (.openConnection "" true .standard .withSettings),
      .on "db" (.drive 7), .on "db" (.perform (.submit "SELECT 1" .departed))]
    let ended := ((play steps).run start).2
    Reached start ended ∧ ended.Opened 0 ∧ ended.Tidy ∧
      ∃ c xs, ended.connections[0]? = some c ∧ c.guarded.status = .closed ∧
        c.guarded.session = none ∧ Span.finishes xs = 0 ∧
        ended.exchanges 0 = xs ++ [{ call := .finish, answer := () }] := by
  intro start steps ended
  have hreached : Reached start ended := keeps_play steps start
  have hopened : ended.Opened 0 := by decide +kernel
  have hstate : ended.connections.map (·.guarded.status) = [.closed] := by decide +kernel
  obtain ⟨c, hconnections, hclosed⟩ := List.map_eq_singleton_iff.1 hstate
  have hc : ended.connections[0]? = some c := by rw [hconnections]; rfl
  obtain ⟨halways, hempty, hkept, -⟩ := sessions_end_once start.connector start.hook
  obtain ⟨hsession, -, hlast, -⟩ := (halways ended hreached 0).2 c hc
  obtain ⟨xs, hbefore, hexchanges⟩ := hlast hopened hclosed
  have hgone : c.guarded.session = none :=
    Option.not_isSome_iff_eq_none.1 fun hsome => (hsession.1 hsome).2 hclosed
  exact ⟨hreached, hopened, (hkept start hempty).2 steps, c, xs, hc, hclosed, hgone, hbefore,
    hexchanges⟩

end World

end Scenario

end SessionLayer
