import SessionLayer.Proofs.Scenario.Ledger

/-!
# Keeping books

Every computation of a scenario is a run of turns that settles the debts which it makes (`Ledgers`),
provided that the listeners' code is made of such computations. What follows a span settles what the
span has brought (`Settles`), and the operation itself is entered into the history with its result.
-/

set_option autoImplicit false

namespace SessionLayer.Scenario

namespace World

open Ledger

variable {κ σ : Type} [WireSession σ] [Connector κ σ] {w w₁ w₂ : World κ σ}

/-- Books can be kept on the way from one world to the other, so that no debts are left which were not
there before. -/
def Ledgers (w w' : World κ σ) : Prop :=
  ∀ debts history, ∃ more, Ledger.Reached { world := w, debts, history }
    { world := w', debts, history := history ++ more }

theorem Ledgers.trans (h : Ledgers w w₁) (h' : Ledgers w₁ w₂) : Ledgers w w₂ := by
  intro debts history
  obtain ⟨more, hmore⟩ := h debts history
  obtain ⟨rest, hrest⟩ := h' debts (history ++ more)
  exact ⟨more ++ rest, List.append_assoc history more rest ▸ hmore.trans hrest⟩

theorem Ledgers.of_turn (h : ∀ debts history, ∃ more, Turn { world := w, debts, history }
    { world := w₁, debts, history := history ++ more }) : Ledgers w w₁ := by
  intro debts history
  obtain ⟨more, hturn⟩ := h debts history
  exact ⟨more, .single hturn⟩

theorem Ledgers.of_still (h : w.Still w₁) : Ledgers w w₁ :=
  .of_turn fun debts history => ⟨[], by rw [List.append_nil]; exact .resting w₁ h⟩

instance Ledgers.drift : Drift (Ledgers : World κ σ → World κ σ → Prop) where
  refl := fun w => .of_still (.refl w)
  trans := .trans
  minor := fun h => .of_still h.still

variable {react : Reactor κ σ}

/-! ## What follows a span -/

/-- A debt is settled, and all others are left as they are. -/
def Settles (debt : List Debt) (w w' : World κ σ) : Prop :=
  ∀ debts history, ∃ more, Ledger.Reached { world := w, debts := debt ++ debts, history }
    { world := w', debts, history := history ++ more }

theorem Settles.trans_ledgers {debt : List Debt} (h : Settles debt w w₁) (h' : Ledgers w₁ w₂) :
    Settles debt w w₂ := by
  intro debts history
  obtain ⟨more, hmore⟩ := h debts history
  obtain ⟨rest, hrest⟩ := h' debts (history ++ more)
  exact ⟨more ++ rest, List.append_assoc history more rest ▸ hmore.trans hrest⟩

theorem Ledgers.trans_settles {debt : List Debt} (h : Ledgers w w₁) (h' : Settles debt w₁ w₂) :
    Settles debt w w₂ := by
  intro debts history
  obtain ⟨more, hmore⟩ := h (debt ++ debts) history
  obtain ⟨rest, hrest⟩ := h' debts (history ++ more)
  exact ⟨more ++ rest, List.append_assoc history more rest ▸ hmore.trans hrest⟩

theorem settles_handing (completion : Completion) (w : World κ σ) :
    Settles [.outcome completion] w (w.handing completion) :=
  fun debts _ => ⟨[_], .single (.delivering completion debts rfl)⟩

omit [WireSession σ] [Connector κ σ] in
/-- To settle a completion is to hand its outcome over; a listener's code runs after that. -/
theorem settle_run (react : Reactor κ σ) (completion : Completion) (w : World κ σ) :
    ((settle react completion).run w).2 = w.handing completion ∨ ∃ key,
      w.recipient completion.owner = .listener key ∧
        ((settle react completion).run w).2 = ((react key (.complete completion.outcome)).run w).2 := by
  unfold settle
  rw [Play.run_bind, Play.run_get]
  obtain ⟨key | key | _, outcome⟩ := completion
  · refine Or.inl ?_
    by_cases hheld : w.cursorHeld key
    · simp only [handing, recipient, hheld, if_true, Play.run_bind, Play.run_modify]
    · simp only [handing, recipient, hheld, Bool.false_eq_true, if_false, Play.run_modify]
  · by_cases hheld : w.listenerHeld key
    · refine Or.inr ⟨key, ?_, ?_⟩
      · rw [recipient, if_pos hheld]
      · simp only [hheld, if_true]
    · refine Or.inl ?_
      simp only [handing, recipient, hheld, Bool.false_eq_true, if_false, Play.run_modify]
  · exact Or.inl rfl

/-- An outcome that is owed is handed over, once. -/
theorem settles_settle (hreact : Attends Ledgers react) (completion : Completion) (w : World κ σ) :
    Settles [.outcome completion] w ((settle react completion).run w).2 := by
  have hhanded := settles_handing completion w
  rcases settle_run react completion w with hrun | ⟨key, hrecipient, hrun⟩
  · rw [hrun]
    exact hhanded
  · rw [hrun]
    have hannounced : w.handing completion = w.announce key (.complete completion.outcome) := by
      rw [handing, hrecipient]
    rw [hannounced] at hhanded
    exact hhanded.trans_ledgers (hreact key _ w)

/-- What follows a span settles the outcome that the span has brought. -/
theorem settles_conclude (hreact : Attends Ledgers react) (key : Nat) {α : Type} (a : Aftermath α)
    (w : World κ σ) :
    Settles (a.completion.toList.map .outcome) w ((conclude react key a).run w).2 := by
  have hdelivered : Ledgers w ((deliver react key a.batch).run w).2 := by
    refine keeps_deliver (fun w => .of_still (.absorbing w key a.batch)) (fun listener notice w => ?_) w
    exact (Ledgers.of_still (.announce_notice w listener notice)).trans (hreact listener _ w)
  obtain ⟨result, batch, _ | completion⟩ := a
  · exact hdelivered
  · exact hdelivered.trans_settles (settles_settle hreact completion _)

/-! ## Operations -/

omit [Connector κ σ] in
theorem fst_perform (react : Reactor κ σ) {key : Nat} {c : Connection σ}
    (hc : w.connections[key]? = some c) (op : Operation) :
    ((perform react key op).run w).1 = (c.perform op).result := by
  obtain ⟨hooked, hrun⟩ := perform_run react key op w
  obtain ⟨w₁, hspan, -⟩ := detached_runSpan hc hooked (·.span op)
  rw [hspan] at hrun
  rw [hrun]
  exact fst_conclude key _ _

/-- What an operation does after its span settles the outcome that the span has brought. -/
theorem settles_perform (hreact : Attends Ledgers react) {key : Nat} {c : Connection σ}
    (hc : w.connections[key]? = some c) (op : Operation) :
    ∃ hooked, Settles (outcomeDebt (c.performance op)) (w.operating key hooked op)
      ((perform react key op).run w).2 := by
  obtain ⟨hooked, hrun⟩ := perform_run react key op w
  refine ⟨hooked, ?_⟩
  obtain ⟨w₁, hspan, -⟩ := detached_runSpan hc hooked (·.span op)
  have hcompletion : (detached key hooked (runSpan key (·.span op)) w).1.completion =
      (c.performance op).outcome.completion := by
    rw [hspan]
    rfl
  have hconcluded := settles_conclude hreact key (detached key hooked (runSpan key (·.span op)) w).1
    (w.operating key hooked op)
  rw [hcompletion] at hconcluded
  rw [hrun]
  dsimp only
  split
  · refine hconcluded.trans_ledgers (.of_still ?_)
    exact .modifyConnection _ key fun c => ⟨_, rfl⟩
  · exact hconcluded

/-- An operation is entered into the history first, with the result that it has. -/
theorem perform_entered (hreact : Attends Ledgers react) {key : Nat} {c : Connection σ}
    (hc : w.connections[key]? = some c) (op : Operation) (debts : List Debt)
    (history : List (Entry σ)) :
    ∃ more, Ledger.Reached { world := w, debts, history }
      { world := ((perform react key op).run w).2
        debts
        history := history ++ .performed key (c.performance op) :: more } := by
  obtain ⟨hooked, hsettles⟩ := settles_perform hreact hc op
  obtain ⟨more, hmore⟩ := hsettles debts (history ++ [.performed key (c.performance op)])
  have hturn := Turn.performing (L := { world := w, debts, history }) key hooked op c hc
  refine ⟨more, (Relation.ReflTransGen.single hturn).trans ?_⟩
  rw [List.append_assoc] at hmore
  exact hmore

omit [WireSession σ] [Connector κ σ] in
theorem conclude_nothing (react : Reactor κ σ) (key : Nat) {α : Type} (result : Except Fault α)
    (w : World κ σ) : (conclude react key { result }).run w = (result, w) := by
  unfold conclude deliver
  simp only [Play.run_bind, Play.run_get]
  cases w.connections[key]? <;> rfl

omit [Connector κ σ] in
/-- Without a connection there is no span, and nothing that follows it. -/
theorem still_perform_of_none (react : Reactor κ σ) {key : Nat} (hc : w.connections[key]? = none)
    (op : Operation) : w.Still ((perform react key op).run w).2 := by
  obtain ⟨hooked, hrun⟩ := perform_run react key op w
  obtain ⟨w₁, hbefore, hconnections, hresult, hafter, -⟩ :=
    detached_eq key hooked (runSpan key (·.span op)) w
  have hc₁ : w₁.connections[key]? = none := by rw [hconnections, hc]
  rw [runSpan_of_none hc₁] at hresult hafter
  have hcalm : w.Calm (detached key hooked (runSpan key (·.span op)) w).2 :=
    .detached (fun w => calm_runSpan w key _) w
  rw [hrun]
  generalize detached key hooked (runSpan key (·.span op)) w = attempt at hresult hafter hcalm
  have hstill : w.Still attempt.2 := ⟨hbefore.trans hafter, hcalm⟩
  simp only [hresult, conclude_nothing]
  split
  · exact hstill.trans (.modifyConnection _ key fun c => ⟨_, rfl⟩)
  · exact hstill

theorem ledgers_perform (hreact : Attends Ledgers react) (key : Nat) (op : Operation) :
    Keeps Ledgers (perform react key op) := by
  intro w
  cases hc : w.connections[key]? with
  | none => exact .of_still (still_perform_of_none react hc op)
  | some c =>
    intro debts history
    obtain ⟨more, hmore⟩ := perform_entered hreact hc op debts history
    exact ⟨_, hmore⟩

/-! ## Opening a connection -/

omit [Connector κ σ] in
/-- The setup has no outcome for an owner. -/
theorem completion_openingSpan (session : σ) (blocking : Bool) (c : Connection σ) (g : Guarded σ) :
    ((openingSpan session blocking c).run g).completion = none := by
  have hends : Span.Ends (openingSpan session blocking c) { guarded := g }
      fun _ t => t.completion = none := by
    apply Span.ends_bind_update
    cases blocking with
    | false => exact Span.ends_pure rfl
    | true => exact (Span.ends_establish rfl _).mono fun r t h => h.1
  obtain ⟨t, ht, hcompletion, -⟩ := Span.run_of_ends hends
  exact hcompletion.trans ht

theorem completion_opening (dsn : String) (asynchronous : Bool) (settings : Settings) (hooked : Bool)
    (w : World κ σ) : (w.opening dsn asynchronous settings hooked).1.completion = none := by
  obtain ⟨w₁, -, -, hresult, -⟩ := detached_eq w.connections.length (hooked && !asynchronous)
    (establish w.connections.length (!asynchronous) dsn) (w.creating dsn asynchronous settings hooked)
  have hresult : (w.opening dsn asynchronous settings hooked).1 = _ := hresult
  rw [hresult]
  rcases h : Connector.connect (!asynchronous) dsn w₁.connector with ⟨text | session, connector⟩
  · rw [establish_of_error h]
  · rw [establish_of_ok h]
    cases hc : (({ w₁ with connector } : World κ σ).record (.connected w.connections.length
        (!asynchronous) dsn none)).connections[w.connections.length]? with
    | none => rw [runSpan_of_none hc]
    | some c =>
      rw [runSpan_of_some hc]
      exact completion_openingSpan session _ c _

theorem ledgers_openConnection (hreact : Attends Ledgers react) (dsn : String) (asynchronous : Bool)
    (settings : Settings) (hooked : Bool) :
    Keeps Ledgers (openConnection react dsn asynchronous settings hooked) := by
  refine keeps_openConnection_of (fun w => ?_) fun key => ledgers_perform hreact key .close
  have hopening : Ledgers w (w.opening dsn asynchronous settings hooked).2 :=
    .of_turn fun debts history =>
      ⟨[], by rw [List.append_nil]; exact .opening dsn asynchronous settings hooked⟩
  have hconcluded := settles_conclude hreact w.connections.length
    (w.opening dsn asynchronous settings hooked).1 (w.opening dsn asynchronous settings hooked).2
  rw [completion_opening] at hconcluded
  exact hopening.trans hconcluded

/-! ## Cursors -/

omit [Connector κ σ] in
/-- On an asynchronous connection a statement of a cursor is submitted, and the cursor goes back to what
it was if the statement is refused. -/
theorem executeCursor_run (react : Reactor κ σ) {key : Nat} {cursor : Cursor} {c : Connection σ}
    (hcursor : w.cursors[key]? = some cursor) (hc : w.connections[cursor.connection]? = some c)
    (ha : c.asynchronous = true) (sql : String) :
    (executeCursor react key sql).run w =
      let submitted := (perform react cursor.connection (.submit sql (.cursor key))).run
        (w.modifyCursor key Cursor.started)
      (submitted.1, match submitted.1 with
        | .error _ => submitted.2.modifyCursor key ({ · with state := cursor.state })
        | .ok _ => submitted.2) := by
  unfold executeCursor
  simp only [Play.run_bind, Play.run_get, hcursor, Option.bind_some, hc, ha, if_true, Play.run_modify]
  generalize (perform react cursor.connection (.submit sql (.cursor key))).run
    (w.modifyCursor key Cursor.started) = submitted
  obtain ⟨fault | _, w'⟩ := submitted
  · rfl
  · rfl

/-- The submission is entered into the history first, with the result that it has. -/
theorem executeCursor_entered (hreact : Attends Ledgers react) {key : Nat} {cursor : Cursor}
    {c : Connection σ} (hcursor : w.cursors[key]? = some cursor)
    (hc : w.connections[cursor.connection]? = some c) (ha : c.asynchronous = true) (sql : String)
    (debts : List Debt) (history : List (Entry σ)) :
    ((executeCursor react key sql).run w).1 = (c.perform (.submit sql (.cursor key))).result ∧
      ∃ more, Ledger.Reached { world := w, debts, history }
        { world := ((executeCursor react key sql).run w).2
          debts
          history := history ++ .executed key cursor.connection
            (c.performance (.submit sql (.cursor key))) :: more } := by
  rw [executeCursor_run react hcursor hc ha sql]
  have hstarted : (w.modifyCursor key Cursor.started).connections[cursor.connection]? = some c := hc
  have hresult := fst_perform react hstarted (.submit sql (.cursor key))
  obtain ⟨hooked, hsettles⟩ := settles_perform hreact hstarted (.submit sql (.cursor key))
  have hturn := Turn.executing (L := { world := w, debts, history }) key cursor hooked sql c
    hcursor hc ha
  obtain ⟨more, hmore⟩ := hsettles
    (refusalDebt key cursor.state (c.perform (.submit sql (.cursor key))).result ++ debts)
    (history ++ [.executed key cursor.connection (c.performance (.submit sql (.cursor key)))])
  have hsettled := (Relation.ReflTransGen.single hturn).trans hmore
  refine ⟨hresult, ?_⟩
  rw [List.append_assoc] at hsettled
  simp only [hresult]
  cases hrefused : (c.perform (.submit sql (.cursor key))).result with
  | ok _ =>
    rw [hrefused] at hsettled
    exact ⟨more, hsettled⟩
  | error fault =>
    rw [hrefused] at hsettled
    have hrestored := hsettled.tail (.restoring key cursor.state debts rfl)
    rw [restoring, List.append_assoc, List.append_assoc] at hrestored
    refine ⟨more ++ [Entry.restored key], ?_⟩
    exact hrestored

theorem ledgers_executeCursor (hreact : Attends Ledgers react) (key : Nat) (sql : String) :
    Keeps Ledgers (executeCursor react key sql) := by
  intro w
  cases hcursor : w.cursors[key]? with
  | none =>
    unfold executeCursor
    simp only [Play.run_bind, Play.run_get, hcursor, Option.bind_none]
    exact .of_still (.refl w)
  | some cursor =>
    cases hc : w.connections[cursor.connection]? with
    | none =>
      unfold executeCursor
      simp only [Play.run_bind, Play.run_get, hcursor, Option.bind_some, hc]
      exact .of_still (.refl w)
    | some c =>
      cases ha : c.asynchronous with
      | true =>
        intro debts history
        obtain ⟨-, more, hmore⟩ := executeCursor_entered hreact hcursor hc ha sql debts history
        exact ⟨_, hmore⟩
      | false =>
        unfold executeCursor
        simp only [Play.run_bind, Play.run_get, hcursor, Option.bind_some, hc, ha, Bool.false_eq_true,
          if_false]
        split
        · exact .of_still (.refl w)
        · simp only [Play.run_bind, Play.run_modify]
          have hperformed := ledgers_perform hreact cursor.connection
            (.execute (cursor.statement sql)) w
          intro debts history
          obtain ⟨more, hmore⟩ := hperformed debts history
          -- the cursor and the connection are still there, and of the same kind
          obtain ⟨state, hcursor'⟩ := hmore.lasts.cursor key cursor hcursor
          obtain ⟨guarded, mailbox, hc'⟩ := hmore.lasts.connection cursor.connection c hc
          exact ⟨more, hmore.tail (.storing key { cursor with state } { c with guarded, mailbox } _
            hcursor' hc' ha)⟩

/-! ## Scenarios -/

theorem conducts_ledgers (hreact : Attends Ledgers react) : Conducts Ledgers react :=
  .of_drift (ledgers_perform hreact) (ledgers_openConnection hreact) (ledgers_executeCursor hreact)

/-- Books can be kept on the listeners of a scenario, however deep they nest. -/
theorem attends_ledgers (depth : Nat) : Attends Ledgers (fire depth : Reactor κ σ) :=
  attends_fire (fun _ => conducts_ledgers) depth

/-- Books can be kept on every scenario. -/
theorem ledgers_play (steps : List Step) :
    Keeps Ledgers (play steps : Play κ σ (List Report × List Event)) :=
  keeps_play_of (fun _ => conducts_ledgers) steps

end World

end SessionLayer.Scenario
