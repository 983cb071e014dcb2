import SessionLayer.Proofs.Connection.Hollow
import SessionLayer.Proofs.Scenario.Bookkeeping
import SessionLayer.Proofs.Scenario.Invariant

/-!
# What the history tells of connections

The history of a ledger is faithful to connections: the operations that it tells of one are a career
that leads from where its session was made to its present state, and the exchanges of those operations
are the exchanges on its session.
-/

set_option autoImplicit false

namespace SessionLayer

/-- What comes of taking a new session into a connection. -/
def Connection.opened {σ : Type} [WireSession σ] (c : Connection σ) (session : σ) :
    SpanOutcome σ Unit :=
  (Scenario.World.openingSpan session (!c.asynchronous) c).run (.fresh c.setupIsolation)

namespace Connection

variable {σ : Type} [WireSession σ] {c : Connection σ} {g g' : Guarded σ}
  {ps : List (Performance σ)}

namespace Career

/-- A career depends on what is fixed about a connection only. -/
theorem of_kind (h : c.Career g ps g') (guarded : Guarded σ) (mailbox : Mailbox Nat) :
    { c with guarded, mailbox }.Career g ps g' := by
  induction h with
  | nil => exact .nil
  | snoc op _ ih => exact .snoc op ih

/-- Every operation of a career was performed on a settled state. -/
theorem settled_of_mem (h : c.Career g ps g') (hg : g.Settled c.asynchronous) {p : Performance σ}
    (hp : p ∈ ps) :
    ∃ g₁ op, g₁.Settled c.asynchronous ∧ p = (c.withGuarded g₁).performance op := by
  obtain ⟨before, after, hps⟩ := List.append_of_mem hp
  obtain ⟨g₁, op, hcareer, heq⟩ := h.split hps
  exact ⟨g₁, op, hcareer.settled hg, heq⟩

end Career

/-- Right after the session was made nothing is in flight. -/
theorem owner?_opened (c : Connection σ) (session : σ) : (c.opened session).guarded.owner? = none := by
  have hends : Span.Ends (Scenario.World.openingSpan session (!c.asynchronous) c)
      { guarded := .fresh c.setupIsolation } fun _ t => t.guarded.inFlight = none := by
    apply Span.ends_bind_update
    cases c.asynchronous with
    | true => exact Span.ends_pure rfl
    | false => exact (Span.ends_establish rfl _).mono fun r t h => inFlight_of_setupRun rfl h.2
  obtain ⟨t, ht, -, hguarded⟩ := Span.run_of_ends hends
  rw [Guarded.owner?, opened, Option.map_eq_none_iff]
  rcases hguarded with hguarded | ⟨session, -, hguarded⟩
  · rw [hguarded]
    exact ht
  · rw [hguarded]
    exact ht

end Connection

namespace Scenario

namespace World

variable {κ σ : Type} [WireSession σ] {w : World κ σ} {key : Nat}

/-! ## Which connections a turn touches -/

omit [WireSession σ] in
theorem AlikeAt.connection_of {w' : World κ σ} (h : AlikeAt key w w')
    (hlt : key < w.connections.length) {c' : Connection σ} (hc' : w'.connections[key]? = some c') :
    ∃ c mailbox, w.connections[key]? = some c ∧ c' = { c with mailbox } := by
  obtain ⟨mailbox, hsame⟩ := h.connection _ (List.getElem?_eq_getElem hlt)
  exact ⟨_, mailbox, List.getElem?_eq_getElem hlt, Option.some.inj (hc'.symm.trans hsame)⟩

theorem opened_runSpan_iff {α : Type} (w : World κ σ) (key : Nat) (span : Connection σ → Span σ α)
    (k : Nat) : (w.runSpan key span).2.Opened k ↔ w.Opened k := by
  obtain ⟨exchanges, htrace⟩ := w.trace_runSpan key span
  refine opened_of_trace_append htrace (fun event hmem k blocking dsn heq => ?_) k
  obtain ⟨exchange, -, hexchange⟩ := List.mem_map.1 hmem
  exact nomatch hexchange.trans heq

theorem opened_operating_iff (w : World κ σ) (key : Nat) (hooked : Bool) (op : Operation) (k : Nat) :
    (w.operating key hooked op).Opened k ↔ w.Opened k := by
  obtain ⟨w₁, hbefore, -, -, hafter, -⟩ := detached_eq key hooked (runSpan key (·.span op)) w
  rw [operating, hafter.opened_iff, opened_runSpan_iff, hbefore.opened_iff]

theorem length_connections_operating (w : World κ σ) (key : Nat) (hooked : Bool) (op : Operation) :
    (w.operating key hooked op).connections.length = w.connections.length := by
  obtain ⟨w₁, -, hconnections, -, -, hkept⟩ := detached_eq key hooked (runSpan key (·.span op)) w
  rw [operating, hkept, length_connections_runSpan, hconnections]

theorem alikeAt_operating {other : Nat} (hother : other ≠ key) (w : World κ σ) (hooked : Bool)
    (op : Operation) : AlikeAt key w (w.operating other hooked op) := by
  obtain ⟨w₁, hbefore, -, -, hafter, -⟩ := detached_eq other hooked (runSpan other (·.span op)) w
  have hspan := alikeAt_runSpan_of_ne hother (·.span op) w₁
  exact ((AlikeAt.of_alike hbefore key).trans hspan).trans (.of_alike hafter key)

variable [Connector κ σ]

/-- To open a connection touches no other one, and opens no other one. -/
theorem alikeAt_opening (hkey : key ≠ w.connections.length) (dsn : String) (asynchronous : Bool)
    (settings : Settings) (hooked : Bool) :
    AlikeAt key w (w.opening dsn asynchronous settings hooked).2 ∧
      ((w.opening dsn asynchronous settings hooked).2.Opened key ↔ w.Opened key) := by
  obtain ⟨w₁, hbefore, -, -, hafter, -⟩ := detached_eq w.connections.length
    (hooked && !asynchronous) (establish w.connections.length (!asynchronous) dsn)
    (w.creating dsn asynchronous settings hooked)
  have hcreated : AlikeAt key w (w.creating dsn asynchronous settings hooked) :=
    { connection := fun c hc => ⟨c.mailbox, by
        rw [creating, List.getElem?_append_left (List.getElem?_eq_some_iff.1 hc).1, hc]⟩
      exchanges := rfl }
  have hattempted : ∀ (connector : κ) (failure : Option String), AlikeAt key w₁
      ({ w₁ with connector }.record (.connected w.connections.length (!asynchronous) dsn failure)) :=
    fun connector failure =>
      { connection := fun c hc => ⟨c.mailbox, hc⟩
        exchanges := (exchanges_append rfl).trans (List.append_nil _) }
  have hestablished : AlikeAt key w₁ (w₁.establish w.connections.length (!asynchronous) dsn).2 ∧
      ((w₁.establish w.connections.length (!asynchronous) dsn).2.Opened key ↔ w₁.Opened key) := by
    rcases h : Connector.connect (!asynchronous) dsn w₁.connector with ⟨text | session, connector⟩
    · rw [establish_of_error h]
      exact ⟨hattempted connector _, opened_of_trace_append rfl (by simp) key⟩
    · rw [establish_of_ok h, opened_runSpan_iff, opened_record_connected]
      refine ⟨(hattempted connector none).trans (alikeAt_runSpan_of_ne hkey.symm _ _), ?_⟩
      exact or_iff_left hkey
  refine ⟨?_, ?_⟩
  · exact ((hcreated.trans (.of_alike hbefore key)).trans hestablished.1).trans (.of_alike hafter key)
  · rw [opening, hafter.opened_iff, hestablished.2, hbefore.opened_iff]
    exact Iff.rfl

/-- A new connection is opened where a session is made for it, and else it is left as it was made. -/
theorem opening_cases (w : World κ σ) (dsn : String) (asynchronous : Bool) (settings : Settings)
    (hooked : Bool) :
    (∃ session connector,
      Connector.connect (!asynchronous) dsn w.connector = (.ok session, connector) ∧
      (w.opening dsn asynchronous settings hooked).2.Opened w.connections.length) ∨
    ((w.opening dsn asynchronous settings hooked).2.connections[w.connections.length]? =
        some (Connection.create w.connections.length dsn asynchronous hooked settings) ∧
      ((w.opening dsn asynchronous settings hooked).2.Opened w.connections.length ↔
        w.Opened w.connections.length)) := by
  obtain ⟨w₁, hbefore, hconnections, -, hafter, hkept⟩ := detached_eq w.connections.length
    (hooked && !asynchronous) (establish w.connections.length (!asynchronous) dsn)
    (w.creating dsn asynchronous settings hooked)
  rcases hconnect : Connector.connect (!asynchronous) dsn w₁.connector with
    ⟨text | session, connector⟩
  · refine Or.inr ⟨?_, ?_⟩
    · rw [opening, hkept, establish_of_error hconnect]
      show w₁.connections[w.connections.length]? = _
      rw [hconnections, creating, List.getElem?_concat_length]
    · have hfailed : ({ w₁ with connector }.record (.connected w.connections.length (!asynchronous) dsn
          (some text))).Opened w.connections.length ↔ w₁.Opened w.connections.length :=
        opened_of_trace_append rfl (by simp) _
      rw [opening, hafter.opened_iff, establish_of_error hconnect, hfailed, hbefore.opened_iff]
      exact Iff.rfl
  · refine Or.inl ⟨session, connector, hbefore.connector ▸ hconnect, ?_⟩
    rw [opening, hafter.opened_iff, establish_of_ok hconnect, opened_runSpan_iff,
      opened_record_connected]
    exact Or.inr rfl

theorem length_connections_opening (w : World κ σ) (dsn : String) (asynchronous : Bool)
    (settings : Settings) (hooked : Bool) :
    (w.opening dsn asynchronous settings hooked).2.connections.length = w.connections.length + 1 := by
  obtain ⟨w₁, -, hconnections, -, -, hkept⟩ := detached_eq w.connections.length
    (hooked && !asynchronous) (establish w.connections.length (!asynchronous) dsn)
    (w.creating dsn asynchronous settings hooked)
  have hestablished : (w₁.establish w.connections.length (!asynchronous) dsn).2.connections.length =
      w₁.connections.length := by
    rcases h : Connector.connect (!asynchronous) dsn w₁.connector with ⟨text | session, connector⟩
    · rw [establish_of_error h]
      rfl
    · rw [establish_of_ok h, length_connections_runSpan]
      rfl
  rw [opening, hkept, hestablished, hconnections, creating, List.length_append]
  rfl

end World

namespace Ledger

open World

variable {κ σ : Type} [WireSession σ] [Connector κ σ] {L L' : Ledger κ σ}

omit [WireSession σ] [Connector κ σ] in
theorem performances_concat {entry : Entry σ} (h : L'.history = L.history ++ [entry]) (key : Nat) :
    L'.performances key = L.performances key ++ (entry.performanceOn? key).toList := by
  rw [performances, h, filterMap_concat, performances]

/-- A turn opens a connection, runs the span of an operation on one and enters it into the history, or
leaves everything as it is that spans depend on. -/
theorem Turn.cases (h : Turn L L') :
    (∃ dsn asynchronous settings hooked,
      L'.world = (L.world.opening dsn asynchronous settings hooked).2 ∧ L'.history = L.history) ∨
    (∃ w key hooked op, ∃ c : Connection σ, L.world.Alike w ∧ w.connections[key]? = some c ∧
      L'.world = w.operating key hooked op ∧ ∀ k, L'.performances k =
        L.performances k ++ (if key = k then some (c.performance op) else none).toList) ∨
    (L.world.Alike L'.world ∧ ∀ k, L'.performances k = L.performances k) := by
  cases h with
  | resting w hstill => exact Or.inr (Or.inr ⟨hstill.toAlike, fun _ => rfl⟩)
  | opening dsn asynchronous settings hooked =>
    exact Or.inl ⟨dsn, asynchronous, settings, hooked, rfl, rfl⟩
  | performing key hooked op c hc =>
    refine Or.inr (Or.inl ⟨L.world, key, hooked, op, c, .refl _, hc, rfl, fun k => ?_⟩)
    rw [performances_concat rfl]
    rfl
  | executing key cursor hooked sql c hcursor hc ha =>
    refine Or.inr (Or.inl ⟨L.world.modifyCursor key Cursor.started, cursor.connection, hooked, _, c,
      .of_eq rfl rfl rfl, hc, rfl, fun k => ?_⟩)
    rw [performances_concat rfl]
    rfl
  | restoring key state debts hdebts =>
    refine Or.inr (Or.inr ⟨.of_eq rfl rfl rfl, fun k => ?_⟩)
    rw [performances_concat rfl]
    exact List.append_nil _
  | delivering completion debts hdebts =>
    refine Or.inr (Or.inr ⟨?_, fun k => ?_⟩)
    · show L.world.Alike (L.world.handing completion)
      unfold handing
      split
      · rename_i key _
        have hcompleted : L.world.Alike (L.world.modifyCursor key (·.completed completion.outcome)) :=
          .of_eq rfl rfl rfl
        exact hcompleted.trans (.record _ rfl)
      · exact .announce _ _ _
      · exact .record _ rfl
    · rw [performances_concat rfl]
      exact List.append_nil _
  | storing key cursor c outcome hcursor hc ha =>
    exact Or.inr (Or.inr ⟨.of_eq rfl rfl rfl, fun _ => rfl⟩)

/-- The session of a connection was made by the connector, the connection went from there to its present
state by the operations that the history tells of, and these are all that was said to the session. -/
def Told (L : Ledger κ σ) (key : Nat) (c : Connection σ) : Prop :=
  ∃ (connector connector' : κ) (dsn : String) (session : σ),
    Connector.connect (!c.asynchronous) dsn connector = (.ok session, connector') ∧
    (c.opened session).guarded.Settled c.asynchronous ∧
    c.Career (c.opened session).guarded (L.performances key) c.guarded ∧
    L.world.exchanges key = (c.opened session).exchanges ++
      (L.performances key).flatMap (·.outcome.exchanges)

/-- The history tells everything about connections that were opened, and nothing about those that do
not exist. Those that could not be opened have no session. -/
structure Faithful (L : Ledger κ σ) : Prop where
  sound : L.world.Sound
  told : ∀ (key : Nat) (c : Connection σ), L.world.connections[key]? = some c → L.world.Opened key →
    L.Told key c
  unopened : ∀ (key : Nat) (c : Connection σ), L.world.connections[key]? = some c →
    ¬L.world.Opened key → c.guarded.session = none ∧ c.guarded.inFlight = none
  performances_eq_nil : ∀ key, L.world.connections.length ≤ key → L.performances key = []
  exchanges_eq_nil : ∀ key, L.world.connections.length ≤ key → L.world.exchanges key = []

/-- What the history tells of a connection that a turn does not touch. -/
theorem Told.of_alikeAt {key : Nat} {c c' : Connection σ} (h : L.Told key c)
    (hc : L.world.connections[key]? = some c) (halike : AlikeAt key L.world L'.world)
    (hperformances : L'.performances key = L.performances key)
    (hc' : L'.world.connections[key]? = some c') : L'.Told key c' := by
  obtain ⟨connector, connector', dsn, session, hconnect, hsettled, hcareer, hexchanges⟩ := h
  obtain ⟨mailbox, hsame⟩ := halike.connection c hc
  cases Option.some.inj (hc'.symm.trans hsame)
  refine ⟨connector, connector', dsn, session, hconnect, hsettled, ?_, ?_⟩
  · rw [hperformances]
    exact hcareer.of_kind c.guarded mailbox
  · rw [hperformances, halike.exchanges]
    exact hexchanges

/-- What the history tells of a connection on which an operation is performed. -/
theorem Told.operating {w : World κ σ} {key : Nat} {hooked : Bool} {op : Operation} {c c' : Connection σ}
    {mailbox : Mailbox Nat} (h : L.Told key c) (halike : L.world.Alike w)
    (hc : w.connections[key]? = some { c with mailbox })
    (hworld : L'.world = w.operating key hooked op)
    (hperformances : L'.performances key = L.performances key ++ [c.performance op])
    (hc' : L'.world.connections[key]? = some c') : L'.Told key c' := by
  obtain ⟨connector, connector', dsn, session, hconnect, hsettled, hcareer, hexchanges⟩ := h
  obtain ⟨w', hspan, hafter, hsaid⟩ := detached_runSpan hc hooked (·.span op)
  have hw' : L'.world = w' := by rw [hworld, World.operating, hspan]
  rw [hw', hafter] at hc'
  cases hc'
  refine ⟨connector, connector', dsn, session, hconnect, hsettled, ?_, ?_⟩
  · rw [hperformances]
    exact (hcareer.snoc op).of_kind _ mailbox
  · rw [hw', hsaid, halike.exchanges_eq, hexchanges, hperformances, List.flatMap_append,
      List.append_assoc]
    exact congrArg _ (congrArg _ (List.append_nil _).symm)

namespace Faithful

/-- Of a connection that was just opened the history tells no operations. -/
theorem told_opening (h : L.Faithful) {dsn : String} {asynchronous : Bool} {settings : Settings}
    {hooked : Bool} (hworld : L'.world = (L.world.opening dsn asynchronous settings hooked).2)
    (hperformances : ∀ key, L'.performances key = L.performances key) {c : Connection σ}
    (hc : L'.world.connections[L.world.connections.length]? = some c)
    (hopened : L'.world.Opened L.world.connections.length) :
    L'.Told L.world.connections.length c := by
  rcases opening_cases L.world dsn asynchronous settings hooked with
    ⟨session, connector, hconnect, -⟩ | ⟨-, hiff⟩
  case inr =>
    rw [hworld] at hopened
    exact absurd (h.sound.lt_of_opened _ (hiff.1 hopened)) (Nat.lt_irrefl _)
  obtain ⟨w', hopening, hc', hexchanges⟩ := opening_of_ok hconnect settings hooked rfl
  have hw' : L'.world = w' := by rw [hworld, hopening]
  rw [hw'] at hc
  cases Option.some.inj (hc.symm.trans hc')
  refine ⟨_, _, dsn, session, hconnect,
    Connection.settled_open L.world.connections.length dsn asynchronous hooked settings session, ?_, ?_⟩
  · rw [hperformances, h.performances_eq_nil _ (Nat.le_refl _)]
    exact .nil
  · rw [hw', hperformances, h.performances_eq_nil _ (Nat.le_refl _), hexchanges,
      h.exchanges_eq_nil _ (Nat.le_refl _)]
    exact (List.append_nil _).symm

theorem opening (h : L.Faithful) {dsn : String} {asynchronous : Bool} {settings : Settings}
    {hooked : Bool} (hworld : L'.world = (L.world.opening dsn asynchronous settings hooked).2)
    (hhistory : L'.history = L.history) : L'.Faithful := by
  have hperformances : ∀ key, L'.performances key = L.performances key := fun key => by
    rw [performances, hhistory, performances]
  have hlength : L'.world.connections.length = L.world.connections.length + 1 := by
    rw [hworld, length_connections_opening]
  have hother : ∀ {key}, key ≠ L.world.connections.length → AlikeAt key L.world L'.world ∧
      (L'.world.Opened key ↔ L.world.Opened key) := by
    intro key hkey
    rw [hworld]
    exact alikeAt_opening hkey dsn asynchronous settings hooked
  exact
    { sound := hworld ▸ sound_opening h.sound dsn asynchronous settings hooked
      told := by
        intro key c hc hopened
        by_cases hkey : key = L.world.connections.length
        · subst hkey
          exact h.told_opening hworld hperformances hc hopened
        · obtain ⟨halike, hiff⟩ := hother hkey
          have hlt := h.sound.lt_of_opened key (hiff.1 hopened)
          obtain ⟨c₀, -, hc₀, -⟩ := halike.connection_of hlt hc
          exact (h.told key c₀ hc₀ (hiff.1 hopened)).of_alikeAt hc₀ halike (hperformances key) hc
      unopened := by
        intro key c hc hopened
        by_cases hkey : key = L.world.connections.length
        · subst hkey
          rcases opening_cases L.world dsn asynchronous settings hooked with
            ⟨-, -, -, hnow⟩ | ⟨hcreated, -⟩
          · rw [hworld] at hopened
            exact absurd hnow hopened
          · rw [hworld, hcreated] at hc
            cases hc
            exact ⟨rfl, rfl⟩
        · obtain ⟨halike, hiff⟩ := hother hkey
          have hlt : key < L.world.connections.length := by
            have hlt := (List.getElem?_eq_some_iff.1 hc).1
            omega
          obtain ⟨c₀, mailbox, hc₀, rfl⟩ := halike.connection_of hlt hc
          exact h.unopened key c₀ hc₀ fun hopened' => hopened (hiff.2 hopened')
      performances_eq_nil := by
        intro key hkey
        rw [hperformances]
        exact h.performances_eq_nil key (by omega)
      exchanges_eq_nil := by
        intro key hkey
        rw [(hother (by omega)).1.exchanges]
        exact h.exchanges_eq_nil key (by omega) }

theorem operating (h : L.Faithful) {w : World κ σ} {key : Nat} {hooked : Bool} {op : Operation}
    {c : Connection σ} (halike : L.world.Alike w) (hc : w.connections[key]? = some c)
    (hworld : L'.world = w.operating key hooked op)
    (hperformances : ∀ k, L'.performances k =
      L.performances k ++ (if key = k then some (c.performance op) else none).toList) :
    L'.Faithful := by
  have hlength : L'.world.connections.length = L.world.connections.length := by
    rw [hworld, length_connections_operating, halike.length_connections]
  have hlt : key < L.world.connections.length := by
    rw [← halike.length_connections]
    exact (List.getElem?_eq_some_iff.1 hc).1
  have hother : ∀ {k}, k ≠ key → AlikeAt k L.world L'.world ∧
      L'.performances k = L.performances k := by
    intro k hk
    rw [hworld, hperformances, if_neg (Ne.symm hk)]
    exact ⟨(AlikeAt.of_alike halike k).trans (alikeAt_operating (Ne.symm hk) w hooked op),
      List.append_nil _⟩
  exact
    { sound := hworld ▸ sound_operating (halike.sound h.sound) key hooked op
      told := by
        intro k c' hc' hopened
        rw [hworld, opened_operating_iff, halike.opened_iff] at hopened
        by_cases hk : k = key
        · subst hk
          obtain ⟨c₀, mailbox, hc₀, rfl⟩ := halike.connection_of hc
          have hsnoc := hperformances k
          rw [if_pos rfl] at hsnoc
          exact (h.told k c₀ hc₀ hopened).operating halike hc hworld hsnoc hc'
        · obtain ⟨halikeAt, hsame⟩ := hother hk
          have hlt := h.sound.lt_of_opened k hopened
          obtain ⟨c₀, -, hc₀, -⟩ := halikeAt.connection_of hlt hc'
          exact (h.told k c₀ hc₀ hopened).of_alikeAt hc₀ halikeAt hsame hc'
      unopened := by
        intro k c' hc' hopened
        rw [hworld, opened_operating_iff, halike.opened_iff] at hopened
        by_cases hk : k = key
        · subst hk
          obtain ⟨c₀, mailbox, hc₀, rfl⟩ := halike.connection_of hc
          obtain ⟨hsession, hflight⟩ := h.unopened k c₀ hc₀ hopened
          obtain ⟨w', hspan, hafter, -⟩ := detached_runSpan hc hooked (·.span op)
          have hw' : L'.world = w' := by rw [hworld, World.operating, hspan]
          rw [hw', hafter] at hc'
          cases hc'
          obtain ⟨hsession', hflight', -⟩ :=
            Connection.hollow_perform (c := { c₀ with mailbox }) hsession hflight op
          exact ⟨hsession', hflight'⟩
        · obtain ⟨halikeAt, -⟩ := hother hk
          have hlt' : k < L.world.connections.length := hlength ▸ (List.getElem?_eq_some_iff.1 hc').1
          obtain ⟨c₀, mailbox, hc₀, rfl⟩ := halikeAt.connection_of hlt' hc'
          exact h.unopened k c₀ hc₀ hopened
      performances_eq_nil := by
        intro k hk
        rw [(hother (by omega)).2]
        exact h.performances_eq_nil k (by omega)
      exchanges_eq_nil := by
        intro k hk
        rw [(hother (by omega)).1.exchanges]
        exact h.exchanges_eq_nil k (by omega) }

theorem alike (h : L.Faithful) (halike : L.world.Alike L'.world)
    (hperformances : ∀ k, L'.performances k = L.performances k) : L'.Faithful where
  sound := halike.sound h.sound
  told := by
    intro k c' hc' hopened
    rw [halike.opened_iff] at hopened
    obtain ⟨c, mailbox, hc, -⟩ := halike.connection_of hc'
    exact (h.told k c hc hopened).of_alikeAt hc (.of_alike halike k) (hperformances k) hc'
  unopened := by
    intro k c' hc' hopened
    rw [halike.opened_iff] at hopened
    obtain ⟨c, mailbox, hc, rfl⟩ := halike.connection_of hc'
    exact h.unopened k c hc hopened
  performances_eq_nil := by
    intro k hk
    rw [hperformances]
    exact h.performances_eq_nil k (halike.length_connections ▸ hk)
  exchanges_eq_nil := by
    intro k hk
    rw [halike.exchanges_eq]
    exact h.exchanges_eq_nil k (halike.length_connections ▸ hk)

theorem start (connector : κ) (hook : Nat → Nat) :
    (Ledger.start connector hook : Ledger κ σ).Faithful where
  sound := sound_start connector hook
  told := fun _ _ hc => nomatch hc
  unopened := fun _ _ hc => nomatch hc
  performances_eq_nil := fun _ _ => rfl
  exchanges_eq_nil := fun _ _ => rfl

theorem turn (h : L.Faithful) (hturn : Turn L L') : L'.Faithful := by
  rcases hturn.cases with ⟨dsn, asynchronous, settings, hooked, hworld, hhistory⟩ |
    ⟨w, key, hooked, op, c, halike, hc, hworld, hperformances⟩ | ⟨halike, hperformances⟩
  · exact h.opening hworld hhistory
  · exact h.operating halike hc hworld hperformances
  · exact h.alike halike hperformances

/-- Whatever the operation, the statement in flight on its connection stays what it is, or one is
accepted where none was in flight, or the one in flight is ended. -/
theorem turnover (h : L.Faithful) {key : Nat} {c : Connection σ}
    (hc : L.world.connections[key]? = some c) (op : Operation) :
    c.guarded.Turnover (c.performance op).outcome.guarded (c.performance op).accepted?
      (c.performance op).ended? := by
  by_cases hopened : L.world.Opened key
  · exact Connection.turnover (h.sound.settled key c hc hopened) op
  · obtain ⟨hsession, hflight⟩ := h.unopened key c hc hopened
    exact Connection.turnover_of_hollow hsession hflight op

/-- Only a poll has an outcome for an owner. -/
theorem completion_eq_none (h : L.Faithful) {key : Nat} {c : Connection σ}
    (hc : L.world.connections[key]? = some c) {op : Operation} (hop : op ≠ .poll) :
    (c.perform op).completion = none := by
  by_cases hopened : L.world.Opened key
  · cases hcompletion : (c.perform op).completion with
    | none => rfl
    | some completion =>
      have hsettled := h.sound.settled key c hc hopened
      exact absurd (Connection.collected_perform hsettled hcompletion).1 hop
  · obtain ⟨hsession, hflight⟩ := h.unopened key c hc hopened
    exact (Connection.hollow_perform hsession hflight op).2.2

end Faithful

/-- Whatever happens, the history tells everything about connections. -/
theorem Reached.faithful (h : Ledger.Reached L L') (hL : L.Faithful) : L'.Faithful := by
  induction h with
  | refl => exact hL
  | tail _ hturn ih => exact ih.turn hturn

end Ledger

end Scenario

end SessionLayer
