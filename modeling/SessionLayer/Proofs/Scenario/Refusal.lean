import SessionLayer.Proofs.Connection.Refusal
import SessionLayer.Proofs.Scenario.Bookkeeping
import SessionLayer.Proofs.Scenario.Closing

/-!
# Refusals have no effect

In a scenario, an operation that is refused changes nothing: its span leaves the connection as it was but
that the messages of the session are taken over, and nothing follows but that these are delivered. No
factory is called for a cursor or a large object that may not be made.
-/

set_option autoImplicit false

namespace SessionLayer

variable {σ : Type} [WireSession σ]

/-- The checks before the operations of a connection, in the order in which they are made, and what each
of them fails with. -/
structure Connection.RefusesInOrder (c : Connection σ) : Prop where
  closed : c.guarded.status = .closed → ∀ op, op ≠ .close → c.Refuses op .closed
  asynchronous : c.guarded.status ≠ .closed → c.asynchronous = true → ∀ op name,
    op.blockingName? = some name → c.Refuses op (.blockingOnly name)
  level : c.guarded.status ≠ .closed → c.asynchronous = false → ∀ level : Int,
    level < 0 ∨ 2 < level → c.Refuses (.setIsolation level) .levelOutOfBounds
  blocking : c.guarded.status ≠ .closed → c.asynchronous = false → ∀ sql owner,
    c.Refuses (.submit sql owner) .asynchronousOnly
  connecting : c.guarded.status.isConnecting → c.Refuses .admitCursor .setupUnderway ∧
    ∀ sql owner, c.Refuses (.submit sql owner) .setupUnderway
  inFlight : c.guarded.inFlight.isSome → ∀ sql owner,
    c.Refuses (.submit sql owner) .queryInProgress

theorem Status.isUsable_iff {s : Status} (h : s ≠ .closed) : s.isUsable = !s.isConnecting := by
  cases s <;> simp_all [isUsable, isConnecting]

/-- The checks of a connection whose session was made. -/
theorem Connection.refusesInOrder {c : Connection σ} (h : c.guarded.Consistent c.asynchronous) :
    c.RefusesInOrder where
  closed := fun hclosed _ => refuses_of_closed hclosed
  asynchronous := fun hopen ha _ _ => refuses_of_asynchronous hopen ha
  level := fun hopen ha _ => refuses_level hopen ha
  blocking := fun hopen ha => refuses_submit_of_blocking hopen ha
  connecting := by
    intro hconnecting
    have hopen : c.guarded.status ≠ .closed := by
      intro hclosed
      simp [hclosed, Status.isConnecting] at hconnecting
    have husable : c.guarded.status.isUsable = false := by
      rw [Status.isUsable_iff hopen, hconnecting]
      rfl
    have ha := h.asynchronous_of_isConnecting hconnecting
    exact ⟨atOnce_admitCursor hopen false husable, refuses_submit_of_connecting hopen ha husable⟩
  inFlight := by
    intro hflight
    obtain ⟨ha, hready⟩ := h.inFlight hflight
    have hopen : c.guarded.status ≠ .closed := by simp [hready]
    exact refuses_submit_of_inFlight hopen ha (by simp [hready, Status.isUsable]) hflight

/-- The state of a closed connection does not change when it is relieved. -/
theorem Connection.relieved_of_closed {c : Connection σ} (horderly : c.Orderly)
    (hstash : c.guarded.stash = .empty) (hclosed : c.guarded.status = .closed) :
    c.guarded.relieved = c.guarded ∧ c.guarded.relief = [] := by
  obtain ⟨hsession, -⟩ := horderly.of_closed hclosed
  constructor
  · rw [Guarded.relieved, hsession, ← hstash, Option.map_none, ← hsession]
  · rw [Guarded.relief, hsession, Option.elim_none]

theorem AccessMode.parse_eq_error {text : String} (h : ∀ mode, AccessMode.parse text ≠ .ok mode) :
    AccessMode.parse text = .error .unknownAccessMode := by
  unfold AccessMode.parse at h ⊢
  split <;> simp_all

namespace Scenario.World

variable {κ : Type} {w w' : World κ σ} {key : Nat} {c : Connection σ} {react : Reactor κ σ}

/-! ## Operations -/

/-- The span of an operation that answers at once: nothing is different but that the messages of the
session were taken over. -/
structure Relieved (key : Nat) (c : Connection σ) (w w' : World κ σ) : Prop where
  connections : w'.connections = w.connections.modify key ({ · with guarded := c.guarded.relieved })
  exchanges : ∀ k, w'.exchanges k = w.exchanges k ++ if k = key then c.guarded.relief else []
  calm : w.Calm w'
  retains : w.Retains none w'

theorem relieved_operating {op : Operation} {r : Except Fault op.Answer} (h : c.AtOnce op r)
    (hc : w.connections[key]? = some c) (hooked : Bool) :
    Relieved key c w (w.operating key hooked op) where
  connections := by
    obtain ⟨w₁, -, hconnections, -, -, hkept⟩ := detached_eq key hooked (runSpan key (·.span op)) w
    have hc₁ : w₁.connections[key]? = some c := by rw [hconnections, hc]
    have hguarded : ((c.span op).run c.guarded).guarded = c.guarded.relieved := h.guarded
    rw [operating, hkept, runSpan_of_some hc₁, hguarded, ← hconnections]
    rfl
  exchanges := by
    intro k
    by_cases hk : k = key
    · subst hk
      obtain ⟨w₁, hspan, -, hsaid⟩ := detached_runSpan hc hooked (·.span op)
      rw [operating, hspan, hsaid, if_pos rfl]
      exact congrArg _ h.exchanges
    · rw [(alikeAt_operating (Ne.symm hk) w hooked op).exchanges, if_neg hk, List.append_nil]
  calm := calm_operating w key hooked op
  retains := .detached (fun w => .runSpan w key _) w

/-- An operation that answers at once has no effect but that the messages of the session are
delivered. -/
theorem perform_of_atOnce {op : Operation} {r : Except Fault op.Answer} (h : c.AtOnce op r)
    (hop : op ≠ .close) (hc : w.connections[key]? = some c) (hstash : c.guarded.stash = .empty)
    (react : Reactor κ σ) :
    ∃ w₁, Relieved key c w w₁ ∧ (perform react key op).run w =
      (r, ((deliver react key (handedOver c.guarded.relief)).run w₁).2) := by
  obtain ⟨hooked, hrun⟩ := perform_run react key op w
  refine ⟨_, relieved_operating h hc hooked, ?_⟩
  obtain ⟨w₁, hspan, -⟩ := detached_runSpan hc hooked (·.span op)
  have hresult : ((c.span op).run c.guarded).result = r := h.result
  have hbatch : ((c.span op).run c.guarded).batch = handedOver c.guarded.relief := by
    have hbatch := h.batch
    rwa [hstash, Batch.empty_append] at hbatch
  have hcompletion : ((c.span op).run c.guarded).completion = none := h.completion
  rw [hresult, hbatch, hcompletion] at hspan
  rw [hrun, operating, hspan]
  dsimp only
  rw [if_neg hop]
  rfl

/-! ## Cursors and large objects -/

section Factories

variable {γ : Type} {fault : Fault}

/-- No factory is called for a cursor that may not be made. -/
theorem cursorWith_of_error {name : Option String}
    (h : ((perform react key .admitCursor).run w).1 = .error fault) (connectionOf : γ → Nat)
    (nameOf : γ → Option String) (factory : Option String → Play κ σ (Except Fault γ)) :
    (cursorWith react key name connectionOf nameOf factory).run w =
      ({ handed := none, made := .error fault }, ((perform react key .admitCursor).run w).2) := by
  unfold cursorWith
  rw [Play.run_bind, h]
  rfl

/-- Nor for a cursor with a name on an asynchronous connection. -/
theorem cursorWith_of_named {name : Option String}
    (h : ((perform react key .admitCursor).run w).1 = .ok ()) (hname : name.isSome)
    (ha : ((perform react key .admitCursor).run w).2.connections[key]?.any (·.asynchronous) = true)
    (connectionOf : γ → Nat) (nameOf : γ → Option String)
    (factory : Option String → Play κ σ (Except Fault γ)) :
    (cursorWith react key name connectionOf nameOf factory).run w =
      ({ handed := none, made := .error .namedCursorAsynchronous },
        ((perform react key .admitCursor).run w).2) := by
  unfold cursorWith
  rw [Play.run_bind, h]
  simp only [Play.run_bind, Play.run_get, hname, ha, Bool.and_self, if_true, Play.run_pure]

theorem largeObjectWith_of_error {demand : LargeObjectDemand}
    (h : ((perform react key .admitLargeObject).run w).1 = .error fault) (connectionOf : γ → Nat)
    (factory : LargeObjectRequest → Play κ σ (Except Fault γ)) :
    (largeObjectWith react key demand connectionOf factory).run w =
      ({ handed := none, made := .error fault }, ((perform react key .admitLargeObject).run w).2) := by
  unfold largeObjectWith
  rw [Play.run_bind, h]
  rfl

/-- Nor for a large object with a mode that cannot be read. -/
theorem largeObjectWith_of_mode {demand : LargeObjectDemand} {text : String}
    (h : ((perform react key .admitLargeObject).run w).1 = .ok ()) (hmode : demand.mode = some text)
    (htext : AccessMode.parse text = .error fault) (connectionOf : γ → Nat)
    (factory : LargeObjectRequest → Play κ σ (Except Fault γ)) :
    (largeObjectWith react key demand connectionOf factory).run w =
      ({ handed := none, made := .error fault }, ((perform react key .admitLargeObject).run w).2) := by
  unfold largeObjectWith
  rw [Play.run_bind, h]
  simp only [hmode, Option.elim_some, htext, Play.run_pure]

end Factories

variable [Connector κ σ]

/-- A connection is of the same mode for as long as it exists. -/
theorem Reached.asynchronous_eq (h : Reached w w') (hc : w.connections[key]? = some c) :
    ∃ c', w'.connections[key]? = some c' ∧ c'.asynchronous = c.asynchronous := by
  induction h with
  | refl => exact ⟨c, hc, rfl⟩
  | tail _ hmove ih =>
    obtain ⟨c₁, hc₁, hsame⟩ := ih
    rcases (hmove.fate key).of_some hc₁ with ⟨mailbox, hc₂, -⟩ | ⟨op, hc₂, -⟩
    · exact ⟨_, hc₂, hsame⟩
    · exact ⟨_, hc₂, hsame⟩

/-- In every state of a connection whose session was made, whatever the arguments are: one that is closed
refuses all but to be closed again; one that is asynchronous refuses the operations of blocking ones by
their name; otherwise a number that names no isolation level, a statement that is submitted on a blocking
connection, during the setup or while another one is in flight, and a cursor during the setup are refused,
and so are a name for a cursor on an asynchronous connection and a mode of large objects that cannot be
read. An operation that is refused does nothing but to deliver the messages of the session: the
connection, its status, level, encoding and statement in flight are what they were, nothing else is said
to the session, there is no outcome for anybody, and no factory is called. -/
theorem refusals_have_no_effect (connector : κ) (hook : Nat → Nat) :
    (∀ w : World κ σ, Reached { connector, hook } w → ∀ (key : Nat) (c : Connection σ),
      w.connections[key]? = some c → w.Opened key →
        c.RefusesInOrder ∧
        (c.guarded.status = .closed → c.guarded.relieved = c.guarded ∧ c.guarded.relief = []) ∧
        ∀ depth,
          (∀ (op : Operation) (r : Except Fault op.Answer), op ≠ .close → c.AtOnce op r →
            ∃ w₁, Relieved key c w w₁ ∧ (perform (fire depth) key op).run w =
              (r, ((deliver (fire depth) key (handedOver c.guarded.relief)).run w₁).2)) ∧
          (∀ {γ : Type} (name : Option String) (connectionOf : γ → Nat) (nameOf : γ → Option String)
            (factory : Option String → Play κ σ (Except Fault γ)),
            (∀ fault, c.Refuses .admitCursor fault →
              (cursorWith (fire depth) key name connectionOf nameOf factory).run w =
                ({ handed := none, made := .error fault },
                  ((perform (fire depth) key .admitCursor).run w).2)) ∧
            (c.guarded.status.isUsable → c.asynchronous = true → name.isSome →
              c.AtOnce .admitCursor (.ok ()) ∧
              (cursorWith (fire depth) key name connectionOf nameOf factory).run w =
                ({ handed := none, made := .error .namedCursorAsynchronous },
                  ((perform (fire depth) key .admitCursor).run w).2))) ∧
          ∀ {γ : Type} (demand : LargeObjectDemand) (connectionOf : γ → Nat)
            (factory : LargeObjectRequest → Play κ σ (Except Fault γ)),
            (∀ fault, c.Refuses .admitLargeObject fault →
              (largeObjectWith (fire depth) key demand connectionOf factory).run w =
                ({ handed := none, made := .error fault },
                  ((perform (fire depth) key .admitLargeObject).run w).2)) ∧
            ∀ text, demand.mode = some text → (∀ mode, AccessMode.parse text ≠ .ok mode) →
              c.guarded.status ≠ .closed → c.asynchronous = false →
                c.AtOnce .admitLargeObject (.ok ()) ∧
                (largeObjectWith (fire depth) key demand connectionOf factory).run w =
                  ({ handed := none, made := .error .unknownAccessMode },
                    ((perform (fire depth) key .admitLargeObject).run w).2)) ∧
    (Fault.closed.cls = .interface ∧ Fault.closed.message = "connection already closed") ∧
    (∀ name, (Fault.blockingOnly name).cls = .programming ∧
      (Fault.blockingOnly name).message = name ++ " cannot be used in asynchronous mode") ∧
    Fault.levelOutOfBounds.cls = .value ∧ Fault.unknownAccessMode.cls = .type ∧
    Fault.setupUnderway.cls = .operational ∧
    ∀ fault ∈ [Fault.asynchronousOnly, .queryInProgress, .namedCursorAsynchronous],
      fault.cls = .programming := by
  refine ⟨fun w hreached key c hc hopened => ?_, ⟨rfl, rfl⟩, fun _ => ⟨rfl, rfl⟩, rfl, rfl, rfl,
    by decide⟩
  have hsound := hreached.preserves (fun _ _ => Move.sound) (sound_start connector hook)
  obtain ⟨hconsistent, hstash⟩ := hsound.settled key c hc hopened
  refine ⟨Connection.refusesInOrder hconsistent,
    Connection.relieved_of_closed (Or.inl ⟨hconsistent, hstash⟩) hstash, fun depth => ⟨?_, ?_, ?_⟩⟩
  · exact fun op r hop hanswered => perform_of_atOnce hanswered hop hc hstash (fire depth)
  · intro γ name connectionOf nameOf factory
    have hresult := fst_perform (fire depth) hc .admitCursor
    refine ⟨fun fault hrefused => ?_, fun husable ha hname => ?_⟩
    · exact cursorWith_of_error (hresult.trans hrefused.result) connectionOf nameOf factory
    · have hopen : c.guarded.status ≠ .closed := by
        intro hclosed
        simp [hclosed, Status.isUsable] at husable
      have hadmitted : c.AtOnce .admitCursor (.ok ()) := c.atOnce_admitCursor hopen true husable
      have hafter : Reached w ((perform (fire depth) key .admitCursor).run w).2 :=
        keeps_perform (keeps_fire depth) key .admitCursor w
      obtain ⟨c', hc', hsame⟩ := hafter.asynchronous_eq hc
      refine ⟨hadmitted, cursorWith_of_named (hresult.trans hadmitted.result) hname ?_ connectionOf
        nameOf factory⟩
      simp [hc', hsame, ha]
  · intro γ demand connectionOf factory
    have hresult := fst_perform (fire depth) hc .admitLargeObject
    refine ⟨fun fault hrefused => ?_, fun text hmode htext hopen ha => ?_⟩
    · exact largeObjectWith_of_error (hresult.trans hrefused.result) connectionOf factory
    · have husable : c.guarded.status.isUsable = true := by
        rcases hconsistent.blocking_status ha with hs | hs | hs
        · simp [hs, Status.isUsable]
        · simp [hs, Status.isUsable]
        · exact absurd hs hopen
      have hadmitted := Connection.atOnce_admitLargeObject hopen ha husable
      exact ⟨hadmitted, largeObjectWith_of_mode (hresult.trans hadmitted.result) hmode
        (AccessMode.parse_eq_error htext) connectionOf factory⟩

/-- During the setup, a level that does not exist is refused because of the mode. -/
theorem refusals_have_no_effect_during_setup :
    let start : World Script ScriptedSession := { connector := {}, hook := fun _ => 1 }
    let opened := (start.opening "" true .standard false).2
    Reached start opened ∧ opened.Opened 0 ∧
      ∃ c w, opened.connections[0]? = some c ∧ c.guarded.status = .setup ∧
        c.Refuses (.setIsolation 7) (.blockingOnly "set_isolation_level") ∧
        Relieved 0 c opened w ∧
        (perform (fire 0) 0 (.setIsolation 7)).run opened =
          (.error (.blockingOnly "set_isolation_level"),
            ((deliver (fire 0) 0 (handedOver c.guarded.relief)).run w).2) := by
  intro start opened
  have hreached : Reached start opened := .of_move (.opening "" true .standard false)
  have hopened : opened.Opened 0 := by decide +kernel
  have hstate : opened.connections.map (fun c => (c.guarded.status, c.asynchronous)) =
      [(.setup, true)] := by decide +kernel
  obtain ⟨c, hconnections, hpair⟩ := List.map_eq_singleton_iff.1 hstate
  obtain ⟨hsetup, ha⟩ := Prod.mk.inj hpair
  have hc : opened.connections[0]? = some c := by rw [hconnections]; rfl
  obtain ⟨hordered, -, heffects⟩ :=
    (refusals_have_no_effect start.connector start.hook).1 opened hreached 0 c hc hopened
  have hrefused : c.Refuses (.setIsolation 7) (.blockingOnly "set_isolation_level") :=
    hordered.asynchronous (by simp [hsetup]) ha (.setIsolation 7) _ rfl
  obtain ⟨w, hrelieved, hrun⟩ :=
    (heffects 0).1 (.setIsolation 7) (.error (.blockingOnly "set_isolation_level")) nofun hrefused
  exact ⟨hreached, hopened, c, w, hc, hsetup, hrefused, hrelieved, hrun⟩

end Scenario.World

end SessionLayer
