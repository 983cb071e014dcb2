import SessionLayer.Proofs.Scenario.Lifetime
import SessionLayer.Proofs.Scenario.Mail

/-!
# Delivery of messages

A `Post` is a world together with the calls of observers that are still to be made. Each of its turns
runs a span and puts what the span brings into the mailbox, makes the next call, or does something that
no message has to do with. The books of a post are always balanced: what went into a mailbox is what the
session has handed over, and whoever was to be told of a notice was told or still will be, once.
-/

set_option autoImplicit false

namespace SessionLayer.Scenario

/-- A world, and the calls of observers that are still to be made, the next one first. -/
structure Post (κ σ : Type) where
  world : World κ σ
  calls : List (Nat × String) := []

namespace World

variable {κ σ : Type} {w w₁ : World κ σ} {key : Nat} {batch : Batch} {c : Connection σ}

/-! ## Absorbing a batch -/

theorem absorbing_of_empty (h : w.connections[key]? = none ∨ batch = .empty) :
    w.absorbing key batch = w ∧ w.showings key batch = [] := by
  unfold absorbing showings
  cases hc : w.connections[key]? with
  | none => exact ⟨rfl, rfl⟩
  | some c =>
    have hempty : batch = .empty := h.resolve_left (by simp [hc])
    subst hempty
    exact ⟨rfl, rfl⟩

theorem absorbing_of_some (hc : w.connections[key]? = some c) (hbatch : batch ≠ .empty) :
    w.absorbing key batch =
      (w.modifyConnection key ({ · with mailbox := c.mailbox.store batch })).record
        (.absorbed key batch (c.mailbox.audience batch)) ∧
      w.showings key batch = Mailbox.showings (c.mailbox.audience batch) batch := by
  have hempty : batch.isEmpty = false := by
    rw [← Bool.not_eq_true, Batch.isEmpty_iff]
    exact hbatch
  unfold absorbing showings
  simp [hc, hempty, Mailbox.absorb]

/-- The connections after a batch was absorbed. -/
theorem connection_absorbing {k : Nat} {c' : Connection σ}
    (hc' : (w.absorbing key batch).connections[k]? = some c') :
    ∃ c, w.connections[k]? = some c ∧ c'.guarded = c.guarded ∧
      c'.mailbox.observers = c.mailbox.observers := by
  unfold absorbing at hc'
  split at hc'
  · exact ⟨c', hc', rfl, rfl⟩
  · rename_i c hc
    split at hc'
    · exact ⟨c', hc', rfl, rfl⟩
    · simp only [record, modifyConnection, List.getElem?_modify] at hc'
      split at hc'
      · rename_i hk
        subst hk
        rw [hc] at hc'
        cases hc'
        exact ⟨c, hc, rfl, rfl⟩
      · simp only [Option.map_eq_map, Option.map_id'] at hc'
        exact ⟨c', hc', rfl, rfl⟩

theorem listeners_absorbing (w : World κ σ) (key : Nat) (batch : Batch) :
    (w.absorbing key batch).listeners = w.listeners := by
  unfold absorbing
  split
  · rfl
  · split
    · rfl
    · rfl

/-- What the trace tells once a batch was absorbed. -/
theorem trace_absorbing (hmissing : w.connections[key]? = none → batch = .empty) :
    (∀ k, Batch.join ((w.absorbing key batch).absorbed k) =
        Batch.join (w.absorbed k) ++ if k = key then batch else .empty) ∧
      (w.absorbing key batch).told = w.told ∧
      (w.absorbing key batch).shown = w.shown ++ w.showings key batch := by
  by_cases hempty : batch = .empty
  · have ⟨hsame, hnone⟩ : w.absorbing key batch = w ∧ w.showings key batch = [] :=
      absorbing_of_empty (Or.inr hempty)
    rw [hsame, hnone, hempty]
    simp [Batch.append_empty]
  · cases hc : w.connections[key]? with
    | none => exact absurd (hmissing hc) hempty
    | some c =>
      obtain ⟨hafter, hshowings⟩ := absorbing_of_some hc hempty
      have htrace : (w.absorbing key batch).trace =
          w.trace ++ [.absorbed key batch (c.mailbox.audience batch)] := by rw [hafter]; rfl
      refine ⟨fun k => ?_, ?_, ?_⟩
      · rw [absorbed_append htrace, Batch.join_append]
        by_cases hk : k = key
        · simp [hk, Event.absorbedBy?, Batch.join_singleton]
        · simp [hk, Ne.symm hk, Event.absorbedBy?, Batch.join, Batch.empty]
      · simp [told_append htrace, Event.told?]
      · simp [shown_append htrace, Event.shown, hshowings]

/-! ## What a span brings -/

/-- Nothing is kept back in any connection. -/
def Unstashed (w : World κ σ) : Prop :=
  ∀ (key : Nat) (c : Connection σ), w.connections[key]? = some c → c.guarded.stash = .empty

/-- A span of the connection was run: what it has to deliver is what the session has handed over in it,
and nothing is kept back. -/
structure Handed {α : Type} (key : Nat) (a : Aftermath α) (w w' : World κ σ) : Prop where
  spoken : w.Spoken w'
  exchanges : ∀ k, handedOver (w'.exchanges k) =
    handedOver (w.exchanges k) ++ if k = key then a.batch else .empty
  unstashed : w'.Unstashed
  missing : w'.connections[key]? = none → a.batch = .empty

variable [WireSession σ]

/-- No span keeps anything back. -/
theorem Fate.unstashed (h : Fate key w w₁) (hw : w.Unstashed) {c : Connection σ}
    (hc : w₁.connections[key]? = some c) : c.guarded.stash = .empty := by
  cases h with
  | kept mailbox connection _ _ =>
    rw [connection, Option.map_eq_some_iff] at hc
    obtain ⟨c, hbefore, rfl⟩ := hc
    exact hw key c hbefore
  | performed c op before after _ _ =>
    cases after.symm.trans hc
    exact (c.accounted_perform op).stash
  | opened c dsn asynchronous hooked settings session _ _ after _ _ =>
    cases after.symm.trans hc
    exact (c.accounted_opened session).stash
  | unopened c dsn asynchronous hooked settings _ created after _ _ =>
    cases after.symm.trans hc
    subst created
    rfl

theorem handed_operating (hw : w.Unstashed) (key : Nat) (hooked : Bool) (op : Operation) :
    Handed key (detached key hooked (runSpan key (·.span op)) w).1 w (w.operating key hooked op) where
  spoken := .operating w key hooked op
  unstashed := fun k _ hc => (Fate.operating w k key hooked op).unstashed hw hc
  exchanges := by
    intro k
    by_cases hk : k = key
    · subst hk
      cases hc : w.connections[k]? with
      | none =>
        obtain ⟨w₁, hbefore, hconnections, hresult, hafter, -⟩ :=
          detached_eq k hooked (runSpan k (·.span op)) w
        have hc₁ : w₁.connections[k]? = none := by rw [hconnections, hc]
        rw [runSpan_of_none hc₁] at hresult hafter
        rw [hresult, operating, hafter.exchanges_eq, hbefore.exchanges_eq]
        simp [Batch.append_empty]
      | some c =>
        obtain ⟨w₁, hspan, -, hsaid⟩ := detached_runSpan hc hooked (·.span op)
        have hbatch := (c.accounted_perform op).batch
        rw [hw k c hc, Batch.empty_append] at hbatch
        rw [operating, hspan, hsaid, handedOver_append, if_pos rfl]
        exact congrArg _ hbatch.symm
    · rw [(alikeAt_operating (Ne.symm hk) w hooked op).exchanges, if_neg hk, Batch.append_empty]
  missing := by
    intro hnone
    have hc : w.connections[key]? = none := by
      rw [List.getElem?_eq_none_iff] at hnone ⊢
      rwa [length_connections_operating] at hnone
    obtain ⟨w₁, -, hconnections, hresult, -⟩ := detached_eq key hooked (runSpan key (·.span op)) w
    have hc₁ : w₁.connections[key]? = none := by rw [hconnections, hc]
    rw [hresult, runSpan_of_none hc₁]

theorem handed_opening [Connector κ σ] (hw : w.Unstashed) (dsn : String) (asynchronous : Bool)
    (settings : Settings) (hooked : Bool) :
    Handed w.connections.length (w.opening dsn asynchronous settings hooked).1 w
      (w.opening dsn asynchronous settings hooked).2 where
  spoken := .opening w dsn asynchronous settings hooked
  unstashed := fun k _ hc => (Fate.opening w k dsn asynchronous settings hooked).unstashed hw hc
  exchanges := by
    intro k
    by_cases hk : k = w.connections.length
    · subst hk
      rcases hconnect : Connector.connect (!asynchronous) dsn w.connector with
        ⟨text | session, connector⟩
      · obtain ⟨w₁, hspan, -, hsaid, -⟩ := opening_of_error hconnect settings hooked
        rw [hspan, hsaid]
        simp [Batch.append_empty]
      · obtain ⟨w₁, hspan, -, hsaid⟩ := opening_of_ok hconnect settings hooked rfl
        have hbatch := (Connection.accounted_opened (Connection.create w.connections.length dsn
          asynchronous hooked settings) session).batch
        rw [hspan, hsaid, handedOver_append, if_pos rfl]
        exact congrArg _ hbatch.symm
    · rw [(alikeAt_opening hk dsn asynchronous settings hooked).1.exchanges, if_neg hk,
        Batch.append_empty]
  missing := by
    intro hnone
    rw [List.getElem?_eq_none_iff, length_connections_opening] at hnone
    omega

end World

namespace Post

open World

variable {κ σ : Type}

/-- What a span has brought is put into the mailbox of its connection, and the observers are to be told
of it before anybody else. -/
def receiving {α : Type} (P : Post κ σ) (key : Nat) (attempt : Aftermath α × World κ σ) : Post κ σ :=
  { world := attempt.2.absorbing key attempt.1.batch
    calls := attempt.2.showings key attempt.1.batch ++ P.calls }

/-- What the trace tells of messages, and what is still to be done. -/
structure Balanced (P : Post κ σ) : Prop where
  /-- What went into the mailboxes is what the sessions have handed over, in order. -/
  conserved : ∀ key, Batch.join (P.world.absorbed key) = handedOver (P.world.exchanges key)
  unstashed : P.world.Unstashed
  /-- Whoever was to be told of a notice was told, or will be. -/
  told : (P.world.told ++ P.calls).Perm P.world.shown
  calls : ∀ call ∈ P.calls, call.1 < P.world.listeners.length
  /-- No observer is registered twice. -/
  observers : ∀ (key : Nat) (c : Connection σ), P.world.connections[key]? = some c →
    c.mailbox.observers.Nodup ∧ ∀ listener ∈ c.mailbox.observers, listener < P.world.listeners.length

variable {P P' : Post κ σ}

theorem Balanced.resting (hP : P.Balanced) {w : World κ σ} (h : P.world.Idle w) :
    Balanced { P with world := w } where
  conserved := by
    intro key
    rw [(Mailless.of_idle h).absorbed, h.alike.exchanges_eq]
    exact hP.conserved key
  unstashed := by
    intro key c' hc'
    obtain ⟨c, hc, hguarded, -⟩ := h.connection_before hc'
    rw [hguarded]
    exact hP.unstashed key c hc
  told := by
    rw [(Mailless.of_idle h).told, (Mailless.of_idle h).shown]
    exact hP.told
  calls := fun call hmem => Nat.lt_of_lt_of_le (hP.calls call hmem) h.length_listeners
  observers := by
    intro key c' hc'
    obtain ⟨c, hc, -, hlightens⟩ := h.connection_before hc'
    obtain ⟨hnodup, hbound⟩ := hP.observers key c hc
    obtain ⟨joined, hjoined, hfresh, hrange⟩ := hlightens.observers
    have hlisteners := h.length_listeners
    rw [hjoined]
    refine ⟨List.nodup_append.2 ⟨hnodup, hfresh, ?_⟩, ?_⟩
    · intro a ha b hb
      have hlow := hbound a ha
      have hhigh := (hrange b hb).1
      omega
    · intro listener hmem
      rcases List.mem_append.1 hmem with hmem | hmem
      · exact Nat.lt_of_lt_of_le (hbound listener hmem) hlisteners
      · exact (hrange listener hmem).2

theorem Balanced.receiving {α : Type} (hP : P.Balanced) {key : Nat} {attempt : Aftermath α × World κ σ}
    (h : Handed key attempt.1 P.world attempt.2) : (P.receiving key attempt).Balanced := by
  obtain ⟨habsorbed, htold, hshown⟩ := trace_absorbing h.missing
  have hlisteners : (attempt.2.absorbing key attempt.1.batch).listeners.length =
      P.world.listeners.length := by
    rw [listeners_absorbing, h.spoken.length_listeners]
  have hobservers : ∀ (k : Nat) (c : Connection σ), attempt.2.connections[k]? = some c →
      c.mailbox.observers.Nodup ∧
        ∀ listener ∈ c.mailbox.observers, listener < P.world.listeners.length := by
    intro k c hc
    cases hbefore : P.world.connections[k]? with
    | none => simp [h.spoken.new k c hbefore hc]
    | some before =>
      obtain ⟨after, hafter, hsame⟩ := h.spoken.kept k before hbefore
      cases hafter.symm.trans hc
      rw [hsame]
      exact hP.observers k before hbefore
  refine
    { conserved := fun k => ?_
      unstashed := fun k c' hc' => ?_
      told := ?_
      calls := fun call hmem => ?_
      observers := fun k c' hc' => ?_ }
  · show Batch.join ((attempt.2.absorbing key attempt.1.batch).absorbed k) =
      handedOver ((attempt.2.absorbing key attempt.1.batch).exchanges k)
    rw [habsorbed, h.spoken.mailless.absorbed, hP.conserved,
      (Still.absorbing attempt.2 key _).toAlike.exchanges_eq, h.exchanges]
  · obtain ⟨c, hc, hguarded, -⟩ := connection_absorbing hc'
    rw [hguarded]
    exact h.unstashed k c hc
  · show ((attempt.2.absorbing key attempt.1.batch).told ++
      (attempt.2.showings key attempt.1.batch ++ P.calls)).Perm
        (attempt.2.absorbing key attempt.1.batch).shown
    rw [htold, hshown, h.spoken.mailless.told, h.spoken.mailless.shown]
    -- the new calls go before those that were there, but they were shown after them
    have hswap : (P.world.told ++ (attempt.2.showings key attempt.1.batch ++ P.calls)).Perm
        ((P.world.told ++ P.calls) ++ attempt.2.showings key attempt.1.batch) := by
      rw [List.append_assoc]
      exact List.Perm.append_left _ List.perm_append_comm
    exact hswap.trans (hP.told.append_right _)
  · show call.1 < (attempt.2.absorbing key attempt.1.batch).listeners.length
    rw [hlisteners]
    rcases List.mem_append.1 hmem with hmem | hmem
    · obtain ⟨listener, notice⟩ := call
      unfold showings at hmem
      split at hmem
      · exact absurd hmem List.not_mem_nil
      · rename_i c hc
        obtain ⟨haudience, -⟩ := Mailbox.mem_showings.1 hmem
        refine (hobservers key c hc).2 listener ?_
        simp only [Mailbox.absorb, Mailbox.audience] at haudience
        split at haudience
        · exact absurd haudience List.not_mem_nil
        · exact haudience
    · exact hP.calls call hmem
  · show c'.mailbox.observers.Nodup ∧ ∀ listener ∈ c'.mailbox.observers,
      listener < (attempt.2.absorbing key attempt.1.batch).listeners.length
    obtain ⟨c, hc, -, hsame⟩ := connection_absorbing hc'
    rw [hsame, hlisteners]
    exact hobservers k c hc

/-- The next observer is told. -/
theorem Balanced.calling (hP : P.Balanced) {listener : Nat} {notice : String}
    {calls : List (Nat × String)} (hcalls : P.calls = (listener, notice) :: calls) :
    Balanced { world := P.world.announce listener (.notice notice), calls } := by
  have halike := Alike.announce P.world listener (.notice notice)
  have hlength := length_listeners_announce P.world listener (.notice notice)
  have hlistener : listener < P.world.listeners.length := by
    have hmem : (listener, notice) ∈ P.calls := by simp [hcalls]
    exact hP.calls _ hmem
  have hconnections : (P.world.announce listener (.notice notice)).connections = P.world.connections := by
    unfold announce
    split <;> rfl
  have htrace : (P.world.announce listener (.notice notice)).trace =
      P.world.trace ++ [.signalled listener P.world.listeners[listener].id (.notice notice)] := by
    unfold announce
    rw [List.getElem?_eq_getElem hlistener]
    rfl
  exact
    { conserved := by
        intro key
        rw [halike.exchanges_eq, absorbed_append htrace]
        exact (congrArg Batch.join (List.append_nil _)).trans (hP.conserved key)
      unstashed := by
        intro key c hc
        rw [hconnections] at hc
        exact hP.unstashed key c hc
      told := by
        have htold := hP.told
        rw [hcalls] at htold
        rw [told_append htrace, shown_append htrace]
        simpa [Event.told?, Event.shown] using htold
      calls := by
        intro call hmem
        rw [hlength]
        exact hP.calls call (by simp [hcalls, hmem])
      observers := by
        intro key c hc
        rw [hconnections] at hc
        rw [hlength]
        exact hP.observers key c hc }

/-! ## Turns -/

section Turns

variable [WireSession σ] [Connector κ σ]

/-- What can happen next. -/
inductive Turn (P : Post κ σ) : Post κ σ → Prop
  /-- Something happens that no message has to do with. -/
  | resting (w : World κ σ) (idle : P.world.Idle w) : Turn P { P with world := w }
  /-- A connection is opened, and what that brings is delivered. -/
  | opening (dsn : String) (asynchronous : Bool) (settings : Settings) (hooked : Bool) :
      Turn P (P.receiving P.world.connections.length
        (P.world.opening dsn asynchronous settings hooked))
  /-- The span of an operation is run, and what it brings is delivered. -/
  | performing (key : Nat) (hooked : Bool) (op : Operation) :
      Turn P (P.receiving key (detached key hooked (runSpan key (·.span op)) P.world))
  /-- The next observer is told. -/
  | calling (listener : Nat) (notice : String) (calls : List (Nat × String))
      (next : P.calls = (listener, notice) :: calls) :
      Turn P { world := P.world.announce listener (.notice notice), calls }

/-- The second post is reached from the first one by turns. -/
def Reached : Post κ σ → Post κ σ → Prop :=
  Relation.ReflTransGen Turn

theorem Turn.balanced (hP : P.Balanced) (h : Turn P P') : P'.Balanced := by
  cases h with
  | resting w idle => exact hP.resting idle
  | opening dsn asynchronous settings hooked =>
    exact hP.receiving (handed_opening hP.unstashed dsn asynchronous settings hooked)
  | performing key hooked op => exact hP.receiving (handed_operating hP.unstashed key hooked op)
  | calling listener notice calls next => exact hP.calling next

omit [WireSession σ] [Connector κ σ] in
theorem balanced_start (connector : κ) (hook : Nat → Nat) :
    ({ world := { connector, hook } } : Post κ σ).Balanced where
  conserved := fun _ => rfl
  unstashed := fun _ _ hc => nomatch hc
  told := .nil
  calls := fun _ hmem => nomatch hmem
  observers := fun _ _ hc => nomatch hc

/-- What every turn preserves is preserved all the way. -/
theorem Reached.preserves {Q : Post κ σ → Prop} (hturn : ∀ P P', Q P → Turn P P' → Q P')
    (h : Reached P P') (hP : Q P) : Q P' := by
  induction h with
  | refl => exact hP
  | tail _ hnext ih => exact hturn _ _ ih hnext

theorem Reached.balanced {connector : κ} {hook : Nat → Nat}
    (h : Reached ({ world := { connector, hook } } : Post κ σ) P) : P.Balanced :=
  h.preserves (fun _ _ => Turn.balanced) (balanced_start connector hook)

/-- The turns of a post are moves of its world. -/
theorem Turn.reached (h : Turn P P') : World.Reached P.world P'.world := by
  cases h with
  | resting w idle => exact .of_alike idle.alike
  | opening dsn asynchronous settings hooked =>
    exact (World.Reached.of_move (.opening dsn asynchronous settings hooked)).trans
      (World.Reached.of_alike (Still.absorbing _ _ _).toAlike)
  | performing key hooked op =>
    exact (World.Reached.of_move (.operating key hooked op)).trans
      (World.Reached.of_alike (Still.absorbing _ _ _).toAlike)
  | calling listener notice calls next => exact .of_alike (.announce _ _ _)

theorem Reached.reached (h : Reached P P') : World.Reached P.world P'.world := by
  induction h with
  | refl => exact .refl
  | tail _ hnext ih => exact ih.trans hnext.reached

end Turns

end Post

end SessionLayer.Scenario
