import SessionLayer.Proofs.Scenario.CursorHistory
import SessionLayer.Wire.Script

/-!
# The state of a cursor agrees with its connection

`Ledger.Agrees` is the invariant of a cursor: its state, or the state that is owed to it, says that it is
executing exactly while its statement is in flight, and after that it holds the outcome of the latest
statement that was accepted. It is kept as long as nobody comes in between while something is owed to
the cursor.
-/

set_option autoImplicit false

namespace SessionLayer.Scenario

/-! ## The invariant -/

namespace Ledger

open World

variable {κ σ : Type} {L L' : Ledger κ σ} {k : Nat} {owing owing' : Bool}

/-- What is owed to a cursor. -/
def claims (L : Ledger κ σ) (k : Nat) : List Debt :=
  L.debts.filter (·.isFor k)

/-- The outcome of the latest statement of a cursor that was accepted: `none` before the first one, and
`some none` as long as it has no outcome. -/
def latest (L : Ledger κ σ) (k : Nat) : Option (Option (Except Fault (List QueryResult))) :=
  L.history.foldl (Entry.latest k) none

/-- The state that a cursor has once it was given what is owed to it. -/
def due (claims : List Debt) (state : CursorState) : CursorState :=
  match claims with
  | [] => state
  | .restoration _ before :: _ => before
  | .outcome completion :: _ => { outcome := some completion.outcome, executing := false }

/-- A state that a cursor should have: it is executing exactly as long as its statement is in flight,
and after that it holds the outcome of the latest statement that was accepted. -/
structure Right (L : Ledger κ σ) (k : Nat) (state : CursorState) (inFlight : Prop) : Prop where
  executing : state.executing = true ↔ inFlight
  unfinished : inFlight → L.latest k = some none
  finished : ¬inFlight → L.latest k = state.outcome.map some

/-- A cursor agrees with its connection, apart from what is owed to it. -/
structure Agrees (L : Ledger κ σ) (k : Nat) (owing : Bool) : Prop where
  /-- Its statements are in flight on its own connection only. -/
  own : ∀ key, L.world.ownerAt key = some (.cursor k) →
    ∃ cursor, L.world.cursors[k]? = some cursor ∧ cursor.connection = key
  length_claims : (L.claims k).length = if owing then 1 else 0
  absent : L.world.cursors.length ≤ k →
    owing = false ∧ L.latest k = none
  right : ∀ cursor, L.world.cursors[k]? = some cursor → L.world.cursorHeld k →
    L.world.Live cursor.connection →
    L.Right k (due (L.claims k) cursor.state)
      (L.world.ownerAt cursor.connection = some (.cursor k))

namespace Agrees

theorem claims_eq_nil (h : L.Agrees k false) : L.claims k = [] :=
  List.eq_nil_of_length_eq_zero h.length_claims

/-- The first debt, if it is owed to the cursor, is the only one. -/
theorem claims_eq {debt : Debt} {debts : List Debt} (h : L.Agrees k owing)
    (hdebts : L.debts = debt :: debts) (hdebt : debt.isFor k = true) :
    L.claims k = [debt] ∧ debts.filter (·.isFor k) = [] ∧ owing = true := by
  have hlength := h.length_claims
  have hclaims : L.claims k = debt :: debts.filter (·.isFor k) := by
    rw [claims, hdebts, List.filter_cons_of_pos hdebt]
  rw [hclaims, List.length_cons] at hlength
  cases owing with
  | false => exact nomatch hlength
  | true =>
    have hnil := List.eq_nil_of_length_eq_zero (Nat.succ.inj hlength)
    exact ⟨by rw [hclaims, hnil], hnil, rfl⟩

/-- What passes by the cursor leaves it as it is. -/
theorem passBy (h : L.Agrees k owing) (hworld : PassesBy k L.world L'.world)
    (hclaims : L'.claims k = L.claims k) (hlatest : L'.latest k = L.latest k) :
    L'.Agrees k owing where
  own := by
    intro key howner
    obtain ⟨cursor, hcursor, hkey⟩ := h.own key (hworld.owner key howner)
    have hlt := (List.getElem?_eq_some_iff.1 hcursor).1
    have hafter := List.getElem?_eq_getElem (Nat.lt_of_lt_of_le hlt hworld.length_cursors)
    rcases hworld.cursor _ hafter with ⟨hsame, -⟩ | ⟨hle, -⟩
    · refine ⟨_, hafter, ?_⟩
      rw [Option.some.inj (hsame.symm.trans hcursor)]
      exact hkey
    · exact absurd hlt (Nat.not_lt_of_le hle)
  length_claims := hclaims ▸ h.length_claims
  absent := by
    intro hle
    rw [hlatest]
    exact h.absent (Nat.le_trans hworld.length_cursors hle)
  right := by
    intro cursor hcursor hheld hlive
    obtain ⟨hlive₀, hkept⟩ := hworld.live _ hlive
    have howner : L'.world.ownerAt cursor.connection = some (.cursor k) ↔
        L.world.ownerAt cursor.connection = some (.cursor k) :=
      ⟨hworld.owner _, hkept⟩
    rw [hclaims]
    rcases hworld.cursor cursor hcursor with ⟨hsame, hheld₀⟩ | ⟨hle, hstate⟩
    · have hright := h.right cursor hsame (hheld₀ hheld) hlive₀
      exact
        { executing := hright.executing.trans howner.symm
          unfinished := fun hflight => by
            rw [hlatest]
            exact hright.unfinished (howner.1 hflight)
          finished := fun hnone => by
            rw [hlatest]
            exact hright.finished fun hflight => hnone (howner.2 hflight) }
    · -- a cursor that has just been made
      obtain ⟨rfl, hnone⟩ := h.absent hle
      have hidle : ¬L'.world.ownerAt cursor.connection = some (.cursor k) := by
        intro hflight
        obtain ⟨cursor₀, hcursor₀, -⟩ := h.own _ (howner.1 hflight)
        exact absurd (List.getElem?_eq_some_iff.1 hcursor₀).1 (Nat.not_lt_of_le hle)
      rw [h.claims_eq_nil, hstate]
      exact
        { executing := ⟨fun hexecuting => (nomatch hexecuting), fun h => absurd h hidle⟩
          unfinished := fun h => absurd h hidle
          finished := fun _ => by
            rw [hlatest, hnone]
            rfl }

end Agrees

/-! ## What a turn does to a cursor -/

theorem latest_concat {entry : Entry σ} (h : L'.history = L.history ++ [entry]) :
    L'.latest k = entry.latest k (L.latest k) := by
  rw [latest, h, List.foldl_append, latest]
  rfl

/-- Most entries do not tell of the cursor's statements. -/
theorem latest_concat_of_not {entry : Entry σ} (h : L'.history = L.history ++ [entry])
    (hexecutes : entry.executes k = false) (houtcome : entry.outcomeFor? k = none) :
    L'.latest k = L.latest k := by
  rw [latest_concat h, Entry.latest, hexecutes, houtcome]
  rfl

/-- What the history tells of a cursor has been followed so far. -/
def Followed (L : Ledger κ σ) (k : Nat) (owing : Bool) : Prop :=
  L.history.foldlM (Entry.follow k) false = some owing

theorem followed_concat {entry : Entry σ} (h : L'.history = L.history ++ [entry])
    (hfollowed : L'.Followed k owing') :
    ∃ owing, L.Followed k owing ∧ entry.follow k owing = some owing' := by
  rw [Followed, h, List.foldlM_append] at hfollowed
  obtain ⟨owing, hbefore, hentry⟩ := Option.bind_eq_some_iff.1 hfollowed
  refine ⟨owing, hbefore, ?_⟩
  simpa using hentry

namespace Agrees

/-- Debts to others are no claims of the cursor. -/
theorem claims_of_others (debts : List Debt) (hdebts : L'.debts = debts ++ L.debts)
    (hothers : ∀ debt ∈ debts, debt.isFor k = false) : L'.claims k = L.claims k := by
  have hnone : debts.filter (·.isFor k) = [] := by
    rw [List.filter_eq_nil_iff]
    intro debt hdebt
    rw [hothers debt hdebt]
    exact Bool.false_ne_true
  rw [claims, hdebts, List.filter_append, hnone, claims]
  rfl

variable [WireSession σ]

/-- An outcome is brought for the cursor, and owed to it from then on. -/
theorem brought (h : L.Agrees k false) {key : Nat} {hooked : Bool} {op : Operation}
    {c : Connection σ} (hc : L.world.connections[key]? = some c)
    (hturnover : c.guarded.Turnover (c.performance op).outcome.guarded
      (c.performance op).accepted? (c.performance op).ended?) {completion : Completion}
    (hcompletion : (c.perform op).completion = some completion)
    (howner : completion.owner = .cursor k)
    (hworld : L'.world = L.world.operating key hooked op)
    (hdebts : L'.debts = .outcome completion :: L.debts)
    (hhistory : L'.history = L.history ++ [.performed key (c.performance op)]) :
    L'.Agrees k true := by
  obtain ⟨hbefore, hafter⟩ : c.guarded.owner? = some (.cursor k) ∧
      (c.perform op).guarded.owner? = none := by
    rw [Performance.ended?_of_completion hcompletion] at hturnover
    generalize (c.performance op).accepted? = accepted at hturnover
    cases hturnover with
    | ended _ hbefore hafter => exact ⟨howner ▸ hbefore, hafter⟩
  have hself : L'.world.ownerAt key = none := by
    rw [hworld, ownerAt_operating_self hc, hafter]
  have hcalm : L.world.Calm L'.world := hworld ▸ calm_operating L.world key hooked op
  obtain ⟨cursor, hcursor, hkey⟩ := h.own key (by rw [ownerAt_of_some hc, hbefore])
  subst hkey
  have hlt := (List.getElem?_eq_some_iff.1 hcursor).1
  have hclaims : L'.claims k = [.outcome completion] := by
    rw [claims, hdebts, List.filter_cons_of_pos (by simp [Debt.isFor, howner])]
    exact congrArg _ h.claims_eq_nil
  have hlatest : L'.latest k = some (some completion.outcome) := by
    have houtcome : (Entry.performed cursor.connection (c.performance op)).outcomeFor? k =
        some completion.outcome := by
      show ((c.perform op).completion.bind fun completion => _) = _
      rw [hcompletion, Option.bind_some, if_pos howner]
    rw [latest_concat hhistory, Entry.latest, houtcome]
    rfl
  refine ⟨fun key' hkey' => ?_, by rw [hclaims]; rfl, fun hle => ?_, fun cursor' hcursor' _ _ => ?_⟩
  · by_cases hkey : key' = cursor.connection
    · rw [hkey, hself] at hkey'
      exact nomatch hkey'
    · rw [hworld, ownerAt_operating_of_ne hc hkey] at hkey'
      obtain ⟨cursor₁, hcursor₁, hsame⟩ := h.own key' hkey'
      exact ⟨cursor₁, hcalm.cursor k _ hcursor₁, hsame⟩
  · exact absurd (Nat.lt_of_lt_of_le hlt hcalm.length_cursors) (Nat.not_lt_of_le hle)
  · cases Option.some.inj ((hcalm.cursor k _ hcursor).symm.trans hcursor')
    have hidle : ¬L'.world.ownerAt cursor.connection = some (.cursor k) := by
      rw [hself]
      exact nofun
    rw [hclaims]
    exact
      { executing := ⟨fun hexecuting => (nomatch hexecuting), fun h => absurd h hidle⟩
        unfinished := fun h => absurd h hidle
        finished := fun _ => hlatest }

/-- The cursor is marked as executing and its statement submitted: what is right then has to be right
of the cursor's new state or of what is owed to it. -/
theorem executing (h : L.Agrees k false) {hooked : Bool} {sql : String} {c : Connection σ}
    {cursor : Cursor} (hcursor : L.world.cursors[k]? = some cursor)
    (hc : L.world.connections[cursor.connection]? = some c)
    (hworld : L'.world = (L.world.modifyCursor k Cursor.started).operating cursor.connection hooked
      (.submit sql (.cursor k)))
    (hclaims : (L'.claims k).length = if owing' then 1 else 0)
    (hright : L.Right k cursor.state (c.guarded.owner? = some (.cursor k)) →
      L'.Right k (due (L'.claims k) cursor.started.state)
        ((c.perform (.submit sql (.cursor k))).guarded.owner? = some (.cursor k))) :
    L'.Agrees k owing' := by
  have hc₁ : (L.world.modifyCursor k Cursor.started).connections[cursor.connection]? = some c := hc
  have hcursor₁ : (L.world.modifyCursor k Cursor.started).cursors[k]? = some cursor.started := by
    simp only [modifyCursor, List.getElem?_modify, if_true, hcursor, Option.map_eq_map,
      Option.map_some]
  have hself : L'.world.ownerAt cursor.connection =
      (c.perform (.submit sql (.cursor k))).guarded.owner? := by
    rw [hworld, ownerAt_operating_self hc₁]
  have hcalm : (L.world.modifyCursor k Cursor.started).Calm L'.world :=
    hworld ▸ calm_operating _ cursor.connection hooked _
  have hcursor' := hcalm.cursor k _ hcursor₁
  have hlt := (List.getElem?_eq_some_iff.1 hcursor₁).1
  refine ⟨fun key hkey => ⟨cursor.started, hcursor', ?_⟩, hclaims, fun hle => ?_,
    fun cursor₁ hsame hheld hlive => ?_⟩
  · by_cases hsame : key = cursor.connection
    · exact hsame.symm
    · rw [hworld, ownerAt_operating_of_ne hc₁ hsame] at hkey
      obtain ⟨cursor₁, hsame₁, hconnection⟩ := h.own key hkey
      cases Option.some.inj (hsame₁.symm.trans hcursor)
      exact hconnection
  · exact absurd (Nat.lt_of_lt_of_le hlt hcalm.length_cursors) (Nat.not_lt_of_le hle)
  · cases Option.some.inj (hcursor'.symm.trans hsame)
    have hheld₀ : L.world.cursorHeld k := hcalm.cursorHeld k hlt hheld
    have hlive₀ : (L.world.modifyCursor k Cursor.started).Live cursor.connection := by
      have hlive : L'.world.Live cursor.connection := hlive
      rw [hworld] at hlive
      exact live_of_operating hc₁ hlive
    have hbefore := h.right cursor hcursor hheld₀ hlive₀
    rw [h.claims_eq_nil, ownerAt_of_some hc] at hbefore
    have hafter := hright hbefore
    rw [← hself] at hafter
    exact hafter

/-- The statement is accepted: the cursor is executing, and its statement is in flight. -/
theorem accepted (h : L.Agrees k false) {hooked : Bool} {sql : String} {c : Connection σ}
    {cursor : Cursor} (hcursor : L.world.cursors[k]? = some cursor)
    (hc : L.world.connections[cursor.connection]? = some c)
    (hworld : L'.world = (L.world.modifyCursor k Cursor.started).operating cursor.connection hooked
      (.submit sql (.cursor k)))
    (hafter : (c.perform (.submit sql (.cursor k))).guarded.owner? = some (.cursor k))
    (hdebts : L'.debts = L.debts) (hlatest : L'.latest k = some none) : L'.Agrees k false := by
  have hclaims : L'.claims k = [] := by
    rw [claims, hdebts]
    exact h.claims_eq_nil
  refine h.executing hcursor hc hworld (by rw [hclaims]; rfl) fun _ => ?_
  rw [hclaims]
  exact
    { executing := ⟨fun _ => hafter, fun _ => rfl⟩
      unfinished := fun _ => hlatest
      finished := fun hnone => absurd hafter hnone }

/-- The statement is refused: the state before is owed to the cursor. -/
theorem refused (h : L.Agrees k false) {hooked : Bool} {sql : String} {c : Connection σ}
    {cursor : Cursor} (hcursor : L.world.cursors[k]? = some cursor)
    (hc : L.world.connections[cursor.connection]? = some c)
    (hworld : L'.world = (L.world.modifyCursor k Cursor.started).operating cursor.connection hooked
      (.submit sql (.cursor k)))
    (hkept : (c.perform (.submit sql (.cursor k))).guarded.owner? = c.guarded.owner?)
    (hdebts : L'.debts = .restoration k cursor.state :: L.debts)
    (hlatest : L'.latest k = L.latest k) : L'.Agrees k true := by
  have hclaims : L'.claims k = [.restoration k cursor.state] := by
    rw [claims, hdebts, List.filter_cons_of_pos (by simp [Debt.isFor])]
    exact congrArg _ h.claims_eq_nil
  refine h.executing hcursor hc hworld (by rw [hclaims]; rfl) fun hright => ?_
  rw [hclaims, hkept]
  exact
    { executing := hright.executing
      unfinished := by
        rw [hlatest]
        exact hright.unfinished
      finished := by
        rw [hlatest]
        exact hright.finished }

omit [WireSession σ] in
/-- The cursor is given what is owed to it: a state that it had before, or an outcome. -/
theorem paid (h : L.Agrees k true) {debt : Debt} (hclaims : L.claims k = [debt])
    (hpaid : L'.claims k = [])
    (howner : ∀ key, L'.world.ownerAt key = L.world.ownerAt key)
    (hlive : ∀ key, L'.world.Live key → L.world.Live key)
    (hheld : L'.world.cursorHeld k → L.world.cursorHeld k)
    (hlength : L'.world.cursors.length = L.world.cursors.length)
    (hcursor : ∀ cursor, L.world.cursors[k]? = some cursor → ∃ state,
      L'.world.cursors[k]? = some { cursor with state } ∧
        (L.world.cursorHeld k → state = due [debt] cursor.state))
    (hlatest : L'.latest k = L.latest k) : L'.Agrees k false where
  own := by
    intro key hkey
    rw [howner] at hkey
    obtain ⟨cursor, hbefore, hsame⟩ := h.own key hkey
    obtain ⟨state, hafter, -⟩ := hcursor cursor hbefore
    exact ⟨_, hafter, hsame⟩
  length_claims := by rw [hpaid]; rfl
  absent := by
    intro hle
    rw [hlength] at hle
    exact nomatch (h.absent hle).1
  right := by
    intro cursor' hcursor' hheld' hlive'
    have hlt : k < L.world.cursors.length := hlength ▸ (List.getElem?_eq_some_iff.1 hcursor').1
    have hbefore := List.getElem?_eq_getElem hlt
    obtain ⟨state, hafter, hstate⟩ := hcursor _ hbefore
    cases Option.some.inj (hafter.symm.trans hcursor')
    have hright := h.right _ hbefore (hheld hheld') (hlive _ hlive')
    rw [hpaid, howner]
    rw [hclaims] at hright
    show L'.Right k state _
    rw [hstate (hheld hheld')]
    exact
      { executing := hright.executing
        unfinished := by
          rw [hlatest]
          exact hright.unfinished
        finished := by
          rw [hlatest]
          exact hright.finished }

omit [WireSession σ] in
/-- A cursor of a blocking connection may be changed in any way. -/
theorem stored (h : L.Agrees k owing) {cursor : Cursor} {c : Connection σ}
    (hcursor : L.world.cursors[k]? = some cursor)
    (hc : L.world.connections[cursor.connection]? = some c) (ha : c.asynchronous = false)
    (f : CursorState → CursorState) :
    Agrees { L with world := L.world.modifyCursor k fun c => { c with state := f c.state } } k
      owing where
  own := by
    intro key hkey
    obtain ⟨cursor₁, hsame, hconnection⟩ := h.own key hkey
    refine ⟨{ cursor₁ with state := f cursor₁.state }, ?_, hconnection⟩
    simp only [modifyCursor, List.getElem?_modify, if_true, hsame, Option.map_eq_map, Option.map_some]
  length_claims := h.length_claims
  absent := by
    intro hle
    rw [modifyCursor, List.length_modify] at hle
    exact h.absent hle
  right := by
    intro cursor' hcursor' _ hlive
    simp only [modifyCursor, List.getElem?_modify, if_true, hcursor, Option.map_eq_map,
      Option.map_some, Option.some.injEq] at hcursor'
    subst hcursor'
    rw [(hlive c hc).1] at ha
    cases ha

end Agrees

/-! ### Turns -/

variable [WireSession σ] [Connector κ σ]

theorem agrees_performing (hL : L.Faithful) {key : Nat} {c : Connection σ}
    (hc : L.world.connections[key]? = some c) (hooked : Bool) (op : Operation)
    (h : L.Agrees k owing)
    (hentry : (Entry.performed key (c.performance op)).follow k owing = some owing') :
    (L.performing key hooked op c).Agrees k owing' := by
  have hturnover := hL.turnover hc op
  obtain ⟨haccepted, ⟨completion, hcompletion, howner, houtcome, rfl, rfl⟩ | ⟨hothers, hnone, rfl⟩⟩ :=
    Entry.follow_performed hentry
  · refine h.brought hc hturnover hcompletion howner rfl ?_ rfl
    show outcomeDebt (c.performance op) ++ L.debts = _
    rw [outcomeDebt, hcompletion]
    rfl
  · refine h.passBy (.operating hc hooked hturnover haccepted hothers) ?_ ?_
    · refine Agrees.claims_of_others _ rfl fun debt hdebt => ?_
      obtain ⟨completion, hmem, rfl⟩ := List.mem_map.1 hdebt
      have hcompletion := hothers completion (Option.mem_toList.1 hmem)
      exact decide_eq_false hcompletion
    · exact latest_concat_of_not rfl rfl hnone

/-- A submission brings no outcome; so its only debt is one for a refusal. -/
theorem debts_executing (hL : L.Faithful) {key : Nat} {cursor : Cursor} {c : Connection σ}
    (hc : L.world.connections[cursor.connection]? = some c) (hooked : Bool) (sql : String) :
    (L.executing key cursor hooked sql c).debts =
      refusalDebt key cursor.state (c.perform (.submit sql (.cursor key))).result ++ L.debts := by
  have hcompletion : (c.performance (.submit sql (.cursor key))).outcome.completion = none :=
    hL.completion_eq_none hc nofun
  rw [executing, outcomeDebt, hcompletion]
  rfl

/-- A submission tells of no outcome. -/
theorem outcomeFor?_executed (hL : L.Faithful) {key : Nat} {c : Connection σ}
    (hc : L.world.connections[key]? = some c) (cursor : Nat) (sql : String) (owner : QueryOwner) :
    (Entry.executed cursor key (c.performance (.submit sql owner))).outcomeFor? k = none := by
  have hcompletion : (c.performance (.submit sql owner)).outcome.completion = none :=
    hL.completion_eq_none hc nofun
  rw [Entry.outcomeFor?, Entry.completion?, hcompletion]
  rfl

theorem agrees_executing (hL : L.Faithful) {cursor : Cursor} {c : Connection σ}
    (hcursor : L.world.cursors[k]? = some cursor)
    (hc : L.world.connections[cursor.connection]? = some c) (hooked : Bool) (sql : String)
    (h : L.Agrees k false) :
    (L.executing k cursor hooked sql c).Agrees k
      (c.performance (.submit sql (.cursor k))).accepted?.isNone := by
  have hdebts : (L.executing k cursor hooked sql c).debts = _ := debts_executing hL hc hooked sql
  have hturnover := hL.turnover hc (.submit sql (.cursor k))
  have hended : (c.performance (.submit sql (.cursor k))).ended? = none := by
    have hcompletion : (c.performance (.submit sql (.cursor k))).outcome.completion = none :=
      hL.completion_eq_none hc nofun
    rw [Performance.ended?, hcompletion]
    rfl
  have haccepted : (c.performance (.submit sql (.cursor k))).accepted? =
      Operation.accepted? (.submit sql (.cursor k)) (c.perform (.submit sql (.cursor k))).result :=
    rfl
  rw [hended] at hturnover
  cases hresult : (c.perform (.submit sql (.cursor k))).result with
  | ok _ =>
    rw [hresult] at haccepted hdebts
    rw [haccepted] at hturnover ⊢
    have hafter : (c.perform (.submit sql (.cursor k))).guarded.owner? = some (.cursor k) := by
      cases hturnover with
      | accepted _ _ hafter => exact hafter
    refine h.accepted hcursor hc rfl hafter hdebts ?_
    rw [latest_concat (L := L) rfl, Entry.latest, Entry.executes, haccepted]
    simp [Operation.accepted?]
  | error fault =>
    rw [hresult] at haccepted hdebts
    rw [haccepted] at hturnover ⊢
    have hkept : (c.perform (.submit sql (.cursor k))).guarded.owner? = c.guarded.owner? := by
      cases hturnover with
      | kept hkept => exact hkept
    refine h.refused hcursor hc rfl hkept hdebts ?_
    refine latest_concat_of_not (L := L) rfl ?_ (outcomeFor?_executed hL hc k sql (.cursor k))
    rw [Entry.executes, haccepted]
    simp [Operation.accepted?]

theorem agrees_executing_of_ne (hL : L.Faithful) {key : Nat} (hkey : key ≠ k) {cursor : Cursor}
    {c : Connection σ} (hc : L.world.connections[cursor.connection]? = some c) (hooked : Bool)
    (sql : String) (h : L.Agrees k owing) :
    (L.executing key cursor hooked sql c).Agrees k owing := by
  have hc₁ : (L.world.modifyCursor key Cursor.started).connections[cursor.connection]? = some c := hc
  have hturnover := hL.turnover hc (.submit sql (.cursor key))
  have hcompletion : (c.perform (.submit sql (.cursor key))).completion = none :=
    hL.completion_eq_none hc nofun
  have hother : (c.performance (.submit sql (.cursor key))).accepted? ≠ some (.cursor k) := by
    show Operation.accepted? (.submit sql (.cursor key)) (c.perform _).result ≠ _
    intro hsome
    cases hresult : (c.perform (.submit sql (.cursor key))).result with
    | ok _ =>
      rw [hresult] at hsome
      cases hsome
      exact hkey rfl
    | error fault =>
      rw [hresult] at hsome
      exact nomatch hsome
  have hpassed := (PassesBy.modifyCursor hkey L.world Cursor.started).trans
    (.operating hc₁ hooked hturnover hother fun completion hsome => by
      rw [hcompletion] at hsome
      exact nomatch hsome)
  refine h.passBy hpassed ?_ ?_
  · refine Agrees.claims_of_others _ (debts_executing hL hc hooked sql) fun debt hdebt => ?_
    cases hresult : (c.perform (.submit sql (.cursor key))).result with
    | ok _ =>
      rw [hresult] at hdebt
      exact nomatch hdebt
    | error fault =>
      rw [hresult] at hdebt
      rw [List.mem_singleton.1 hdebt]
      exact decide_eq_false hkey
  · refine latest_concat_of_not (L := L) rfl ?_ (outcomeFor?_executed hL hc key sql (.cursor key))
    rw [Entry.executes]
    simp [hkey]

omit [WireSession σ] [Connector κ σ] in
theorem agrees_restoring {key : Nat} {state : CursorState} {debts : List Debt}
    (hdebts : L.debts = .restoration key state :: debts) (h : L.Agrees k owing)
    (hentry : (Entry.restored key : Entry σ).follow k owing = some owing') :
    (L.restoring key state debts).Agrees k owing' := by
  have hlatest : (L.restoring key state debts).latest k = L.latest k :=
    latest_concat_of_not rfl rfl rfl
  by_cases hkey : key = k
  · subst hkey
    obtain ⟨hclaims, hnil, rfl⟩ := h.claims_eq hdebts (decide_eq_true rfl)
    simp only [Entry.follow, ne_eq, not_true_eq_false, decide_false, Bool.and_false,
      Option.some.injEq] at hentry
    subst hentry
    refine h.paid hclaims hnil (fun _ => rfl) (fun _ => id) id ?_ (fun cursor hcursor => ?_)
      hlatest
    · exact List.length_modify ..
    · refine ⟨state, ?_, fun _ => rfl⟩
      rw [restoring]
      simp only [modifyCursor, List.getElem?_modify, if_true, hcursor, Option.map_eq_map,
        Option.map_some]
  · simp only [Entry.follow, ne_eq, hkey, not_false_eq_true, decide_true, Bool.and_true,
      Option.some.injEq] at hentry
    subst hentry
    refine h.passBy (.modifyCursor hkey _ _) ?_ hlatest
    refine (Agrees.claims_of_others [.restoration key state] hdebts fun debt hdebt => ?_).symm
    rw [List.mem_singleton.1 hdebt]
    exact decide_eq_false hkey

omit [WireSession σ] [Connector κ σ] in
theorem agrees_delivering {completion : Completion} {debts : List Debt}
    (hdebts : L.debts = .outcome completion :: debts) (h : L.Agrees k owing)
    (hentry : (Entry.delivered completion (L.world.recipient completion.owner) : Entry σ).follow k
      owing = some owing') :
    (L.delivering completion debts).Agrees k owing' := by
  have hlatest : (L.delivering completion debts).latest k = L.latest k :=
    latest_concat_of_not rfl rfl rfl
  by_cases howner : completion.owner = .cursor k
  · obtain ⟨hclaims, hnil, rfl⟩ := h.claims_eq hdebts (decide_eq_true howner)
    simp only [Entry.follow, howner, ne_eq, not_true_eq_false, decide_false, Bool.and_false,
      Option.some.injEq] at hentry
    subst hentry
    by_cases hheld : L.world.cursorHeld k
    · have hworld : (L.delivering completion debts).world =
          (L.world.modifyCursor k (·.completed completion.outcome)).record
            (.cursorCompleted k completion.outcome) :=
        handing_of_held howner hheld
      refine h.paid hclaims hnil ?_ ?_ ?_ ?_ (fun cursor hcursor => ⟨_, ?_, fun _ => rfl⟩) hlatest <;>
        rw [hworld]
      · exact fun _ => rfl
      · exact fun _ => id
      · exact id
      · exact List.length_modify ..
      · simp only [record, modifyCursor, List.getElem?_modify, if_true, hcursor, Option.map_eq_map,
          Option.map_some]
        rfl
    · have hworld : (L.delivering completion debts).world =
          L.world.record (.discarded completion.outcome) :=
        handing_of_not_held howner hheld
      refine h.paid hclaims hnil ?_ ?_ ?_ ?_
        (fun cursor hcursor => ⟨cursor.state, ?_, fun h => absurd h hheld⟩) hlatest <;> rw [hworld]
      · exact fun _ => rfl
      · exact fun _ => id
      · exact id
      · rfl
      · exact hcursor
  · simp only [Entry.follow, ne_eq, howner, not_false_eq_true, decide_true, Bool.and_true,
      Option.some.injEq] at hentry
    subst hentry
    refine h.passBy (.handing howner _) ?_ hlatest
    refine (Agrees.claims_of_others [.outcome completion] hdebts fun debt hdebt => ?_).symm
    rw [List.mem_singleton.1 hdebt]
    exact decide_eq_false howner

theorem Turn.agrees (hturn : Turn L L') (hL : L.Faithful) (hfollowed : L'.Followed k owing')
    (h : ∀ owing, L.Followed k owing → L.Agrees k owing) : L'.Agrees k owing' := by
  cases hturn with
  | resting w hstill => exact (h owing' hfollowed).passBy (.of_still hstill) rfl rfl
  | opening dsn asynchronous settings hooked =>
    exact (h owing' hfollowed).passBy (.opening _ _ _ _ _) rfl rfl
  | performing key hooked op c hc =>
    obtain ⟨owing, hbefore, hentry⟩ := followed_concat (L := L) rfl hfollowed
    exact agrees_performing hL hc hooked op (h owing hbefore) hentry
  | executing key cursor hooked sql c hcursor hc ha =>
    obtain ⟨owing, hbefore, hentry⟩ := followed_concat (L := L) rfl hfollowed
    -- A submission for another cursor passes this one by.
    by_cases hkey : key = k
    · subst hkey
      obtain ⟨rfl, rfl⟩ := Entry.follow_executed hentry
      exact agrees_executing hL hcursor hc hooked sql (h false hbefore)
    · rw [Entry.follow_executed_of_ne hkey] at hentry
      obtain rfl : owing = owing' := Option.some.inj hentry
      exact agrees_executing_of_ne hL hkey hc hooked sql (h owing hbefore)
  | restoring key state debts hdebts =>
    obtain ⟨owing, hbefore, hentry⟩ := followed_concat (L := L) rfl hfollowed
    exact agrees_restoring hdebts (h owing hbefore) hentry
  | delivering completion debts hdebts =>
    obtain ⟨owing, hbefore, hentry⟩ := followed_concat (L := L) rfl hfollowed
    exact agrees_delivering hdebts (h owing hbefore) hentry
  | storing key cursor c outcome hcursor hc ha =>
    by_cases hkey : key = k
    · subst hkey
      exact (h owing' hfollowed).stored hcursor hc ha
        fun _ => { outcome := some outcome, executing := false }
    · exact (h owing' hfollowed).passBy (.modifyCursor hkey _ _) rfl rfl

omit [WireSession σ] [Connector κ σ] in
theorem agrees_start (connector : κ) (hook : Nat → Nat) (k : Nat) :
    (Ledger.start connector hook : Ledger κ σ).Agrees k false where
  own := fun _ howner => nomatch howner
  length_claims := rfl
  absent := fun _ => ⟨rfl, rfl⟩
  right := fun _ hcursor => nomatch hcursor

/-- As long as nobody comes in between, cursors agree with their connections. -/
theorem Reached.agrees (h : Ledger.Reached L L') (hL : L.Faithful)
    (hbefore : ∀ owing, L.Followed k owing → L.Agrees k owing) (hfollowed : L'.Followed k owing) :
    L'.Agrees k owing := by
  induction h generalizing owing with
  | refl => exact hbefore owing hfollowed
  | tail hreached hturn ih =>
    exact hturn.agrees (Reached.faithful hreached hL) hfollowed fun owing => ih

/-- As long as nobody comes in between, the state of a cursor agrees with its connection.

Take any ledger that can be reached in which nothing is owed, and a cursor that is held, of an
asynchronous connection that is open. If the history tells of nobody who submitted a statement for the
cursor, or brought it an outcome, while something was owed to the cursor, then the cursor is executing
exactly if the statement in flight on its connection is its own; and if it is not executing, it holds
the outcome of the latest statement that was accepted. -/
theorem cursor_agrees_with_connection (connector : κ) (hook : Nat → Nat) {L : Ledger κ σ}
    (hL : Ledger.Reached (.start connector hook) L) (hdebts : L.debts = []) {cursor : Cursor}
    {c : Connection σ} (hcursor : L.world.cursors[k]? = some cursor) (hheld : L.world.cursorHeld k)
    (hc : L.world.connections[cursor.connection]? = some c) (ha : c.asynchronous = true)
    (hopen : c.guarded.status ≠ .closed)
    (hfollowed : (L.history.foldlM (Entry.follow k) false).isSome) :
    (cursor.state.executing = true ↔ c.guarded.owner? = some (.cursor k)) ∧
      (cursor.state.executing = false → ∀ latest, L.latest k = some latest →
        ∃ outcome, latest = some outcome ∧ cursor.results = outcome) := by
  obtain ⟨owing, hfollowed⟩ := Option.isSome_iff_exists.1 hfollowed
  have hagrees := Reached.agrees hL (.start connector hook) (fun owing hstart => by
    cases Option.some.inj hstart
    exact agrees_start connector hook k) hfollowed
  have hlive : L.world.Live cursor.connection := by
    intro c' hc'
    cases Option.some.inj (hc'.symm.trans hc)
    exact ⟨ha, hopen⟩
  have hclaims : L.claims k = [] := by rw [claims, hdebts, List.filter_nil]
  have hright := hagrees.right cursor hcursor hheld hlive
  rw [hclaims, ownerAt_of_some hc] at hright
  refine ⟨hright.executing, fun hidle latest hlatest => ?_⟩
  have hnone : ¬c.guarded.owner? = some (.cursor k) := by
    rw [← hright.executing]
    show ¬cursor.state.executing = true
    rw [hidle]
    exact Bool.false_ne_true
  have hfinished := hright.finished hnone
  rw [hlatest] at hfinished
  obtain ⟨outcome, houtcome, hsame⟩ := Option.map_eq_some_iff.1 hfinished.symm
  refine ⟨outcome, hsame.symm, ?_⟩
  rw [Cursor.results, show cursor.state.outcome = some outcome from houtcome]
  rfl

/-- After two statements of one cursor, its results are those of the second one. -/
theorem cursor_agrees_after_two_statements :
    let connector : Script := { answers := [("SELECT 1", .single "1"), ("SELECT 2", .single "2"),
      ("SHOW DATESTYLE", .single "ISO"), ("SHOW client_encoding", .single "UTF8")] }
    let start : Ledger Script ScriptedSession := .start connector fun _ => 1
    let ready := (List.replicate 7 .poll).foldl (performOn · 0) (start.openNext true)
    let made := ready.makeCursorOn 0 ""
    let first := ((made.executeOn 0 "SELECT 1").performOn 0 .poll).deliverNext
    let second := ((first.executeOn 0 "SELECT 2").performOn 0 .poll).deliverNext
    Reached start second ∧ second.debts = [] ∧ second.world.cursorHeld 0 ∧
      (second.history.foldlM (Entry.follow 0) false).isSome ∧
      ∃ cursor c, second.world.cursors[0]? = some cursor ∧
        second.world.connections[cursor.connection]? = some c ∧ c.asynchronous = true ∧
        c.guarded.status ≠ .closed ∧ cursor.state.executing = false ∧
        c.guarded.owner? ≠ some (.cursor 0) ∧ cursor.results = .ok [.single "2"] := by
  intro connector start ready made first second
  have hmade : Reached start made :=
    ((reached_openNext start true).trans (reached_foldl_performOn _ 0 _)).trans
      (reached_makeCursorOn ready 0 "")
  have hround : ∀ (L : Ledger Script ScriptedSession) (sql : String),
      Reached L ((L.executeOn 0 sql).performOn 0 .poll).deliverNext := fun L sql =>
    ((reached_executeOn L 0 sql).trans (reached_performOn _ 0 .poll)).trans (reached_deliverNext _)
  have hreached : Reached start second :=
    (hmade.trans (hround made "SELECT 1")).trans (hround first "SELECT 2")
  have hdebts : second.debts = [] := by
    have : second.debts.isEmpty = true := by decide +kernel
    exact List.isEmpty_iff.1 this
  have hheld : second.world.cursorHeld 0 = true := by decide +kernel
  have hfollowed : (second.history.foldlM (Entry.follow 0) false).isSome = true := by decide +kernel
  have hstates : second.world.cursors.map (fun cursor => (cursor.connection, cursor.state.executing)) =
      [(0, false)] := by
    decide +kernel
  have hstatuses : second.world.connections.map (fun c => (c.asynchronous, c.guarded.status)) =
      [(true, .ready)] := by
    decide +kernel
  have hlatest : (second.latest 0).map (·.map Except.toOption) = some (some (some [.single "2"])) := by
    decide +kernel
  obtain ⟨cursor, hcursors, hcursor⟩ := List.map_eq_singleton_iff.1 hstates
  obtain ⟨c, hconnections, hc⟩ := List.map_eq_singleton_iff.1 hstatuses
  obtain ⟨hkey, hidle⟩ := Prod.mk.inj hcursor
  obtain ⟨hasync, hready⟩ := Prod.mk.inj hc
  have hk : second.world.cursors[0]? = some cursor := by rw [hcursors]; rfl
  have hconnection : second.world.connections[cursor.connection]? = some c := by
    rw [hconnections, hkey]
    rfl
  have hopen : c.guarded.status ≠ .closed := by
    rw [hready]
    exact nofun
  obtain ⟨howner, hresults⟩ := cursor_agrees_with_connection connector _ hreached hdebts hk hheld
    hconnection hasync hopen hfollowed
  obtain ⟨latest, hsome, houtcome⟩ := Option.map_eq_some_iff.1 hlatest
  obtain ⟨outcome, hoption, hsame⟩ := hresults hidle latest hsome
  have hok : outcome = .ok [.single "2"] := by
    rw [hoption] at houtcome
    cases outcome with
    | error fault => exact nomatch houtcome
    | ok results => rw [Option.some.inj (Option.some.inj houtcome)]
  refine ⟨hreached, hdebts, hheld, hfollowed, cursor, c, hk, hconnection, hasync, hopen, hidle, ?_,
    hsame.trans hok⟩
  rw [ne_eq, ← howner, hidle]
  exact Bool.false_ne_true

end Ledger

end SessionLayer.Scenario
