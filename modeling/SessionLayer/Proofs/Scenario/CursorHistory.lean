import SessionLayer.Proofs.Scenario.History

/-!
# What happens to a cursor

A cursor is marked as executing before its statement is submitted, and what becomes of the statement is
written back only after the observers of the connection have run: the outcome where a poll has brought
one, the state before where the statement was refused. Until then something is owed to the cursor, and
`Entry.follow` watches the history for code that comes in between. `World.PassesBy` is said of changes
that leave a cursor and its statement in flight alone.
-/

set_option autoImplicit false

namespace SessionLayer.Scenario

/-! ## What the history tells of a cursor -/

/-- Whether a debt is owed to a cursor. -/
def Debt.isFor (k : Nat) : Debt → Bool
  | outcome completion => completion.owner = .cursor k
  | restoration cursor _ => cursor = k

namespace Entry

variable {σ : Type}

/-- The outcome for a cursor that the operation has brought which an entry tells of. -/
def outcomeFor? (k : Nat) (entry : Entry σ) : Option (Except Fault (List QueryResult)) :=
  entry.completion?.bind fun completion =>
    if completion.owner = .cursor k then some completion.outcome else none

/-- Whether an entry tells that a statement of a cursor was accepted. -/
def executes (k : Nat) : Entry σ → Bool
  | executed cursor _ p => cursor = k ∧ p.accepted?.isSome
  | _ => false

/-- The outcome of the latest statement of a cursor that was accepted, after an entry: `none` before the
first one, and `some none` as long as it has no outcome. -/
def latest (k : Nat) (before : Option (Option (Except Fault (List QueryResult)))) (entry : Entry σ) :
    Option (Option (Except Fault (List QueryResult))) :=
  if entry.executes k then some none else (entry.outcomeFor? k).elim before fun outcome => some outcome

/-- Whether something is owed to a cursor after an entry. There is no answer where a statement is
submitted for the cursor, or an outcome brought, while something is owed to it, or where a statement is
submitted in its name by others. -/
def follow (k : Nat) (owing : Bool) : Entry σ → Option Bool
  | performed key p =>
    if p.accepted? = some (.cursor k) then none
    else if ((performed key p).outcomeFor? k).isSome then if owing then none else some true
    else some owing
  | executed cursor _ p =>
    if cursor = k then if owing then none else some p.accepted?.isNone else some owing
  | restored cursor => some (owing && cursor ≠ k)
  | delivered completion _ => some (owing && completion.owner ≠ .cursor k)

variable {k : Nat} {owing owing' : Bool} {p : Performance σ}

/-- An operation brings an outcome for the cursor, or has nothing to do with it. -/
theorem follow_performed {key : Nat} (h : (performed key p).follow k owing = some owing') :
    p.accepted? ≠ some (.cursor k) ∧
      ((∃ completion, p.outcome.completion = some completion ∧ completion.owner = .cursor k ∧
          (performed key p).outcomeFor? k = some completion.outcome ∧
          owing = false ∧ owing' = true) ∨
        ((∀ completion, p.outcome.completion = some completion → completion.owner ≠ .cursor k) ∧
          (performed key p).outcomeFor? k = none ∧ owing' = owing)) := by
  have houtcome : (performed key p).outcomeFor? k = p.outcome.completion.bind fun completion =>
      if completion.owner = .cursor k then some completion.outcome else none := rfl
  simp only [follow] at h
  by_cases haccepted : p.accepted? = some (.cursor k)
  · rw [if_pos haccepted] at h
    exact nomatch h
  rw [if_neg haccepted] at h
  refine ⟨haccepted, ?_⟩
  have aside : (performed key p).outcomeFor? k = none → owing' = owing := by
    intro hnone
    rw [hnone] at h
    exact (Option.some.inj h).symm
  cases hcompletion : p.outcome.completion with
  | none =>
    rw [hcompletion] at houtcome
    exact Or.inr ⟨nofun, houtcome, aside houtcome⟩
  | some completion =>
    rw [hcompletion, Option.bind_some] at houtcome
    by_cases howner : completion.owner = .cursor k
    · rw [if_pos howner] at houtcome
      refine Or.inl ⟨completion, rfl, howner, houtcome, ?_⟩
      rw [houtcome] at h
      cases owing with
      | true => exact nomatch h
      | false => exact ⟨rfl, (Option.some.inj h).symm⟩
    · rw [if_neg howner] at houtcome
      refine Or.inr ⟨fun completion' hsame => ?_, houtcome, aside houtcome⟩
      cases hsame
      exact howner

theorem follow_executed {connection : Nat} (h : (executed k connection p).follow k owing = some owing') :
    owing = false ∧ owing' = p.accepted?.isNone := by
  simp only [follow, if_true] at h
  cases owing with
  | true => exact nomatch h
  | false => exact ⟨rfl, (Option.some.inj h).symm⟩

theorem follow_executed_of_ne {cursor connection : Nat} (h : cursor ≠ k) :
    (executed cursor connection p).follow k owing = some owing := by
  rw [follow, if_neg h]

end Entry

namespace World

variable {κ σ : Type}

/-- The owner of the statement that is in flight on a connection. -/
def ownerAt (w : World κ σ) (key : Nat) : Option QueryOwner :=
  w.connections[key]?.bind (·.guarded.owner?)

/-- The connection, where it exists, is asynchronous and open. -/
def Live (w : World κ σ) (key : Nat) : Prop :=
  ∀ c : Connection σ, w.connections[key]? = some c →
    c.asynchronous = true ∧ c.guarded.status ≠ .closed

/-- Nothing happens to a cursor or to its statement in flight; or it has just been made. -/
structure PassesBy (k : Nat) (w w' : World κ σ) : Prop where
  owner : ∀ key, w'.ownerAt key = some (.cursor k) → w.ownerAt key = some (.cursor k)
  live : ∀ key, w'.Live key →
    w.Live key ∧ (w.ownerAt key = some (.cursor k) → w'.ownerAt key = some (.cursor k))
  cursor : ∀ cursor : Cursor, w'.cursors[k]? = some cursor →
    (w.cursors[k]? = some cursor ∧ (w'.cursorHeld k → w.cursorHeld k)) ∨
      (w.cursors.length ≤ k ∧ cursor.state = {})
  length_cursors : w.cursors.length ≤ w'.cursors.length

variable {k : Nat} {w w₁ w₂ : World κ σ}

theorem ownerAt_of_some {key : Nat} {c : Connection σ} (hc : w.connections[key]? = some c) :
    w.ownerAt key = c.guarded.owner? := by
  rw [ownerAt, hc]
  rfl

theorem ownerAt_of_alike (h : w.Alike w₁) (key : Nat) : w₁.ownerAt key = w.ownerAt key := by
  cases hc : w.connections[key]? with
  | none =>
    have hc₁ : w₁.connections[key]? = none := by
      rw [List.getElem?_eq_none_iff, h.length_connections]
      exact List.getElem?_eq_none_iff.1 hc
    rw [ownerAt, ownerAt, hc, hc₁]
  | some c =>
    obtain ⟨mailbox, hc₁⟩ := h.connection key c hc
    rw [ownerAt_of_some hc, ownerAt_of_some hc₁]

/-- An outcome for a cursor that is held is written down in it. -/
theorem handing_of_held {completion : Completion} (howner : completion.owner = .cursor k)
    (hheld : w.cursorHeld k) :
    w.handing completion = (w.modifyCursor k (·.completed completion.outcome)).record
      (.cursorCompleted k completion.outcome) := by
  have hrecipient : w.recipient completion.owner = .cursor k := by
    rw [howner, recipient, if_pos hheld]
  rw [handing, hrecipient]

theorem handing_of_not_held {completion : Completion} (howner : completion.owner = .cursor k)
    (hheld : ¬w.cursorHeld k) :
    w.handing completion = w.record (.discarded completion.outcome) := by
  have hrecipient : w.recipient completion.owner = .departed := by
    rw [howner, recipient, if_neg hheld]
  rw [handing, hrecipient]

namespace PassesBy

theorem trans (h : PassesBy k w w₁) (h' : PassesBy k w₁ w₂) : PassesBy k w w₂ where
  owner := fun key howner => h.owner key (h'.owner key howner)
  live := by
    intro key hlive
    obtain ⟨hlive₁, howner₁⟩ := h'.live key hlive
    obtain ⟨hlive₀, howner₀⟩ := h.live key hlive₁
    exact ⟨hlive₀, fun howner => howner₁ (howner₀ howner)⟩
  cursor := by
    intro cursor hcursor
    rcases h'.cursor cursor hcursor with ⟨hcursor₁, hheld₁⟩ | ⟨hlength, hstate⟩
    · rcases h.cursor cursor hcursor₁ with ⟨hcursor₀, hheld₀⟩ | hnew
      · exact Or.inl ⟨hcursor₀, fun hheld => hheld₀ (hheld₁ hheld)⟩
      · exact Or.inr hnew
    · exact Or.inr ⟨Nat.le_trans h.length_cursors hlength, hstate⟩
  length_cursors := Nat.le_trans h.length_cursors h'.length_cursors

/-- A world that is calm after the first one passes by every cursor if its connections do. -/
theorem of_calm (hcalm : w.Calm w₁)
    (howner : ∀ key, w₁.ownerAt key = some (.cursor k) → w.ownerAt key = some (.cursor k))
    (hlive : ∀ key, w₁.Live key →
      w.Live key ∧ (w.ownerAt key = some (.cursor k) → w₁.ownerAt key = some (.cursor k))) :
    PassesBy k w w₁ where
  owner := howner
  live := hlive
  cursor := by
    intro cursor hcursor
    by_cases hlt : k < w.cursors.length
    · have hbefore := List.getElem?_eq_getElem hlt
      have hsame := (hcalm.cursor k _ hbefore).symm.trans hcursor
      rw [hbefore, hsame]
      exact Or.inl ⟨rfl, hcalm.cursorHeld k hlt⟩
    · have hnew := Nat.le_of_not_lt hlt
      exact Or.inr ⟨hnew, hcalm.newCursor k cursor hnew hcursor⟩
  length_cursors := hcalm.length_cursors

/-- Only other cursors, listeners, and what is told of them change. -/
theorem of_eq (hconnections : w₁.connections = w.connections)
    (hcursor : w₁.cursors[k]? = w.cursors[k]?) (hlength : w₁.cursors.length = w.cursors.length)
    (hslots : w₁.cursorSlots = w.cursorSlots) (hrunning : w₁.running = w.running) :
    PassesBy k w w₁ where
  owner := fun key howner => by rwa [ownerAt, hconnections] at howner
  live := by
    intro key hlive
    rw [Live, hconnections] at hlive
    refine ⟨hlive, fun howner => ?_⟩
    rwa [ownerAt, hconnections]
  cursor := by
    intro cursor hc
    refine Or.inl ⟨hcursor ▸ hc, fun hheld => ?_⟩
    rwa [cursorHeld, hslots, hrunning] at hheld
  length_cursors := Nat.le_of_eq hlength.symm

theorem of_still (h : w.Still w₁) : PassesBy k w w₁ := by
  refine of_calm h.toCalm (fun key howner => ?_) (fun key hlive => ⟨?_, fun howner => ?_⟩)
  · rwa [ownerAt_of_alike h.toAlike] at howner
  · intro c hc
    obtain ⟨mailbox, hc₁⟩ := h.connection key c hc
    exact hlive { c with mailbox } hc₁
  · rwa [ownerAt_of_alike h.toAlike]

theorem modifyCursor {other : Nat} (hother : other ≠ k) (w : World κ σ) (f : Cursor → Cursor) :
    PassesBy k w (w.modifyCursor other f) := by
  refine of_eq rfl ?_ ?_ rfl rfl
  · simp only [World.modifyCursor, List.getElem?_modify, hother, if_false, Option.map_eq_map,
      Option.map_id']
  · rw [World.modifyCursor, List.length_modify]

theorem handing {completion : Completion} (h : completion.owner ≠ .cursor k) (w : World κ σ) :
    PassesBy k w (w.handing completion) := by
  unfold World.handing
  split
  · rename_i key hrecipient
    have hkey : key ≠ k := by
      rintro rfl
      rcases recipient_eq_or w completion.owner with howner | howner
      · exact h (howner.symm.trans hrecipient)
      · exact nomatch howner.symm.trans hrecipient
    exact (modifyCursor hkey w _).trans (of_eq rfl rfl rfl rfl rfl)
  · unfold announce
    split <;> exact of_eq rfl rfl rfl rfl rfl
  · exact of_eq rfl rfl rfl rfl rfl

end PassesBy

/-! ## Spans -/

section Spans

variable [WireSession σ]

theorem connections_operating {key : Nat} {c : Connection σ} (hc : w.connections[key]? = some c)
    (hooked : Bool) (op : Operation) :
    (w.operating key hooked op).connections =
      w.connections.modify key ({ · with guarded := (c.perform op).guarded }) := by
  obtain ⟨w₁, -, hconnections, -, -, hkept⟩ := detached_eq key hooked (runSpan key (·.span op)) w
  have hc₁ : w₁.connections[key]? = some c := by rw [hconnections, hc]
  rw [operating, hkept, runSpan_of_some hc₁]
  show w₁.connections.modify key _ = _
  rw [hconnections]
  rfl

theorem connection_operating_self {key : Nat} {c : Connection σ}
    (hc : w.connections[key]? = some c) (hooked : Bool) (op : Operation) :
    (w.operating key hooked op).connections[key]? =
      some { c with guarded := (c.perform op).guarded } := by
  rw [connections_operating hc]
  simp only [List.getElem?_modify, if_true, hc, Option.map_eq_map, Option.map_some]

theorem connection_operating_of_ne {key k : Nat} {c : Connection σ}
    (hc : w.connections[key]? = some c) (hk : k ≠ key) (hooked : Bool) (op : Operation) :
    (w.operating key hooked op).connections[k]? = w.connections[k]? := by
  rw [connections_operating hc]
  simp only [List.getElem?_modify, Ne.symm hk, if_false, Option.map_eq_map, Option.map_id']

theorem ownerAt_operating_self {key : Nat} {c : Connection σ} (hc : w.connections[key]? = some c)
    (hooked : Bool) (op : Operation) :
    (w.operating key hooked op).ownerAt key = (c.perform op).guarded.owner? :=
  ownerAt_of_some (connection_operating_self hc hooked op)

theorem ownerAt_operating_of_ne {key k : Nat} {c : Connection σ}
    (hc : w.connections[key]? = some c) (hk : k ≠ key) (hooked : Bool) (op : Operation) :
    (w.operating key hooked op).ownerAt k = w.ownerAt k := by
  rw [ownerAt, connection_operating_of_ne hc hk, ownerAt]

/-- A connection that is open after an operation was open before it. -/
theorem live_of_operating {key k : Nat} {c : Connection σ} (hc : w.connections[key]? = some c)
    {hooked : Bool} {op : Operation} (h : (w.operating key hooked op).Live k) : w.Live k := by
  intro c' hc'
  by_cases hk : k = key
  · subst hk
    cases Option.some.inj (hc'.symm.trans hc)
    obtain ⟨ha, hopen⟩ := h _ (connection_operating_self hc hooked op)
    exact ⟨ha, fun hclosed => hopen (Connection.closed_perform hclosed op)⟩
  · exact h c' (by rw [connection_operating_of_ne hc hk, hc'])

/-- An operation passes by a cursor unless it accepts a statement for it or brings it an outcome. -/
theorem PassesBy.operating {key : Nat} {c : Connection σ} (hc : w.connections[key]? = some c)
    (hooked : Bool) {op : Operation}
    (hturnover : c.guarded.Turnover (c.performance op).outcome.guarded
      (c.performance op).accepted? (c.performance op).ended?)
    (haccepted : (c.performance op).accepted? ≠ some (.cursor k))
    (hcompletion : ∀ completion, (c.perform op).completion = some completion →
      completion.owner ≠ .cursor k) :
    PassesBy k w (w.operating key hooked op) := by
  have hself := ownerAt_operating_self hc hooked op
  refine of_calm (calm_operating w key hooked op) (fun key' howner => ?_) (fun key' hlive =>
    ⟨live_of_operating hc hlive, fun howner => ?_⟩)
  · by_cases hkey : key' = key
    · subst hkey
      rw [hself] at howner
      rw [ownerAt_of_some hc]
      generalize (c.performance op).accepted? = accepted at hturnover haccepted
      generalize (c.performance op).ended? = ended at hturnover
      cases hturnover with
      | kept hkept => exact hkept.symm.trans howner
      | accepted owner _ hafter =>
        cases Option.some.inj (hafter.symm.trans howner)
        exact absurd rfl haccepted
      | ended ending _ hafter => exact nomatch hafter.symm.trans howner
    · rwa [ownerAt_operating_of_ne hc hkey] at howner
  · by_cases hkey : key' = key
    · subst hkey
      rw [ownerAt_of_some hc] at howner
      rw [hself]
      generalize hended : (c.performance op).ended? = ended at hturnover
      generalize (c.performance op).accepted? = accepted at hturnover
      cases hturnover with
      | kept hkept => exact hkept.trans howner
      | accepted owner hbefore _ => exact nomatch hbefore.symm.trans howner
      | ended ending hbefore _ =>
        -- the statement was not completed, so it was cancelled and the connection closed
        have hended : op.ended? c.guarded (c.perform op).completion = some ending := hended
        have howner : ending.owner = .cursor k := Option.some.inj (hbefore.symm.trans howner)
        unfold Operation.ended? at hended
        split at hended
        · rename_i completion hsome
          cases hended
          exact absurd howner (hcompletion completion hsome)
        · split at hended
          · rename_i hclose
            subst hclose
            have hopen := (hlive _ (connection_operating_self hc hooked .close)).2
            exact absurd (Connection.closed_close c) hopen
          · exact nomatch hended
    · rwa [ownerAt_operating_of_ne hc hkey]

end Spans

/-- A connection that is made has nothing in flight, and the others are not touched. -/
theorem PassesBy.opening [WireSession σ] [Connector κ σ] (w : World κ σ) (dsn : String)
    (asynchronous : Bool) (settings : Settings) (hooked : Bool) :
    PassesBy k w (w.opening dsn asynchronous settings hooked).2 := by
  have hnew : (w.opening dsn asynchronous settings hooked).2.ownerAt w.connections.length = none := by
    rcases opening_cases w dsn asynchronous settings hooked with
      ⟨session, connector, hconnect, -⟩ | ⟨hcreated, -⟩
    · obtain ⟨w', hopening, hc', -⟩ := opening_of_ok hconnect settings hooked rfl
      rw [hopening, ownerAt_of_some hc']
      exact Connection.owner?_opened (.create _ dsn asynchronous hooked settings) session
    · rw [ownerAt_of_some hcreated]
      rfl
  have hother : ∀ {key}, key < w.connections.length → ∃ mailbox,
      (w.opening dsn asynchronous settings hooked).2.connections[key]? =
        w.connections[key]?.map ({ · with mailbox }) := by
    intro key hlt
    have hbefore := List.getElem?_eq_getElem hlt
    obtain ⟨mailbox, hsame⟩ := (alikeAt_opening (Nat.ne_of_lt hlt) dsn asynchronous settings
      hooked).1.connection _ hbefore
    exact ⟨mailbox, by rw [hsame, hbefore]; rfl⟩
  have howner : ∀ key, (w.opening dsn asynchronous settings hooked).2.ownerAt key = w.ownerAt key := by
    intro key
    rcases Nat.lt_trichotomy key w.connections.length with hlt | rfl | hgt
    · obtain ⟨mailbox, hsame⟩ := hother hlt
      rw [ownerAt, hsame, ownerAt]
      cases w.connections[key]? <;> rfl
    · rw [hnew, ownerAt, List.getElem?_eq_none (Nat.le_refl _)]
      rfl
    · have hnone : ∀ {w : World κ σ}, w.connections.length ≤ key → w.ownerAt key = none := by
        intro w hle
        rw [ownerAt, List.getElem?_eq_none hle]
        rfl
      rw [hnone (by rw [length_connections_opening]; omega), hnone (by omega)]
  refine of_calm (calm_opening _ _ _ _ _) (fun key h => by rwa [howner] at h) (fun key hlive =>
    ⟨fun c hc => ?_, fun h => by rwa [howner]⟩)
  obtain ⟨mailbox, hsame⟩ := hother (List.getElem?_eq_some_iff.1 hc).1
  rw [hc] at hsame
  exact hlive { c with mailbox } hsame

end World

end SessionLayer.Scenario
