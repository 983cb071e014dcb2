import SessionLayer.Proofs.Scenario.Bookkeeping
import SessionLayer.Proofs.Scenario.SetupRefinement

/-!
# Statements by polls refine statements in one go

A connection that `Idles` on a script has nothing left of what it was asked before. From there a
statement leads to there again, be it executed in one span or submitted and polled for; the outcome and
the notices are what the script says (`Script.remarks`). So both ways of running a list of statements on
a cursor see the same after each of them.
-/

set_option autoImplicit false

namespace SessionLayer

/-- What polls answer until the result of a statement is there, before the last poll. -/
def Script.flightAnswers (script : Script) : List Readiness :=
  (match script.pendingFlushes with
    | 0 => []
    | n + 1 => List.replicate n .needWrite ++ [.needRead]) ++
  List.replicate script.busyRounds .needRead

namespace Connection

open Guarded

variable {asynchronous : Bool} {level : Isolation} {info : SessionInfo} {capacity : Capacity}
  {heard : List String} {script : Script} {inFlight inFlight' : Option InFlight}
  {s s' : ScriptedSession} {c c' : Connection ScriptedSession} {owner : QueryOwner} {sql : String}

/-- The next poll brings the outcome of the statement in flight, and leaves nothing of it. -/
def Delivers (owner : QueryOwner) (outcome : Except Fault (List QueryResult)) (info : SessionInfo)
    (capacity : Capacity) (heard : List String) (script : Script)
    (c : Connection ScriptedSession) : Prop :=
  (c.perform .poll).result = .ok .complete ∧
    (c.perform .poll).completion = some { owner, outcome } ∧
    (c.after (c.perform .poll)).Idles true .autocommit info capacity heard script

namespace Serving

/-- What an operation leads to that keeps the session. -/
theorem performs (op : Operation) {r : Except Fault op.Answer}
    (h : Serving asynchronous level info capacity heard inFlight s c)
    (hlasts : Span.Lasts (c.span op) (serving level info inFlight s) r
      (serving level info inFlight' s')) :
    (c.perform op).result = r ∧ (c.perform op).completion = none ∧
      Span.finishes (c.perform op).exchanges = 0 ∧
      Serving asynchronous level info capacity (heard ++ s'.notices) inFlight' s'.emptied
        (c.after (c.perform op)) := by
  obtain ⟨xs, hxs, hruns⟩ := hlasts
  rw [← h.guarded] at hruns
  have hperform : c.perform op = _ := hruns.run_some s' rfl
  rw [hperform]
  refine ⟨rfl, rfl, ?_, ?_⟩
  · rw [Span.finishes_append, hxs]
    rfl
  · exact
      { asynchronous := h.asynchronous
        guarded := rfl
        mailbox := h.mailbox.store _
        notices := rfl }

/-- A poll after which there is more to be done. -/
theorem polls_of_lasts (h : Serving true level info capacity heard inFlight s c)
    {readiness : Readiness} (hreadiness : readiness ≠ .complete)
    (hlasts : Span.Lasts (Span.poll true c.setupIsolation) (serving level info inFlight s)
      (.ok readiness) (serving level info inFlight' s')) (hsilent : s'.notices = []) :
    ∃ c', c.Polls [readiness] c' ∧
      Serving true level info capacity heard inFlight' s'.emptied c' := by
  rw [← h.asynchronous] at hlasts
  obtain ⟨hresult, hcompletion, hfinishes, hserving⟩ := h.performs .poll hlasts
  rw [hsilent, List.append_nil] at hserving
  exact ⟨_, .step hresult hreadiness hcompletion hfinishes (.refl _), hserving⟩

/-- A statement is written in as many polls as output stays pending, and one more. -/
theorem polls_writing {n : Nat} (hflushes : s.flushesLeft = n)
    (h : Serving true level info capacity heard (some { owner, phase := .writing }) s c) :
    ∃ c' s', c.Polls (List.replicate n .needWrite ++ [.needRead]) c' ∧
      Serving true level info capacity heard (some { owner, phase := .reading }) s' c' ∧
      s'.script = s.script ∧ s'.results = s.results ∧ s'.busyLeft = s.busyLeft := by
  induction n generalizing s c with
  | zero =>
    obtain ⟨c', hpolls, hserving⟩ :=
      h.polls_of_lasts (by simp) (ScriptedSession.lasts_poll_writing hflushes) h.notices
    exact ⟨c', _, hpolls, hserving, rfl, rfl, rfl⟩
  | succ n ih =>
    obtain ⟨c₁, hpoll, hserving⟩ :=
      h.polls_of_lasts (by simp) (ScriptedSession.lasts_poll_writing_pending hflushes) h.notices
    obtain ⟨c', s', hpolls, hserving', hscript, hresults, hbusy⟩ := ih rfl hserving
    exact ⟨c', s', hpoll.trans hpolls, hserving', hscript, hresults, hbusy⟩

/-- The result of a statement is there after as many polls as reading leaves it busy. -/
theorem polls_reading {n : Nat} (hbusy : s.busyLeft = n + 1)
    (h : Serving true level info capacity heard (some { owner, phase := .reading }) s c) :
    ∃ c' s', c.Polls (List.replicate n .needRead) c' ∧
      Serving true level info capacity heard (some { owner, phase := .reading }) s' c' ∧
      s'.script = s.script ∧ s'.results = s.results ∧ s'.busyLeft = 1 := by
  induction n generalizing s c with
  | zero => exact ⟨c, s, .refl c, h, rfl, rfl, hbusy⟩
  | succ n ih =>
    obtain ⟨c₁, hpoll, hserving⟩ :=
      h.polls_of_lasts (by simp) (ScriptedSession.lasts_poll_busy (by omega)) h.notices
    have hleft : s.consumed.emptied.busyLeft = n + 1 := by
      show s.busyLeft - 1 = n + 1
      omega
    obtain ⟨c', s', hpolls, hserving', hscript, hresults, hone⟩ := ih hleft hserving
    exact ⟨c', s', hpoll.trans hpolls, hserving', hscript, hresults, hone⟩

/-- A statement is submitted, and written by polls of its own if not at once. -/
theorem submits (h : Serving true level info capacity heard none s c)
    (hsql : s.script.failures.lookup sql = none) (owner : QueryOwner) :
    (c.perform (.submit sql owner)).result = .ok () ∧
      (c.perform (.submit sql owner)).completion = none ∧
      ∃ c' s', (c.after (c.perform (.submit sql owner))).Polls
          (match s.script.pendingFlushes with
            | 0 => []
            | n + 1 => List.replicate n .needWrite ++ [.needRead]) c' ∧
        Serving true level info capacity (heard ++ s.script.raisedBy sql)
          (some { owner, phase := .reading }) s' c' ∧
        s'.script = s.script ∧ s'.results = s.results ++ [s.script.answer sql] ∧
        s'.busyLeft = s.script.busyRounds + 1 := by
  obtain ⟨-, hscript, hnotices, hqueued, hbusy, hflushes⟩ := ScriptedSession.submit_of_accepted hsql
  rw [h.notices, List.nil_append] at hnotices
  have hsubmit : ∀ {outcome next}, WireSession.respond .flush (s.queued sql) = (.ok outcome, next) →
      Span.Lasts (c.span (.submit sql owner)) (serving level info none s) (.ok ())
        (serving level info (some { owner, phase := outcome.phase }) next) := by
    intro outcome next hflushed
    refine .bind_silent (.ensureOpen (by simp [serving])) ?_
    rw [h.asynchronous]
    exact ScriptedSession.lasts_submit hsql hflushed
  cases hpending : s.script.pendingFlushes with
  | zero =>
    rw [hpending] at hflushes
    obtain ⟨hresult, hcompletion, -, hafter⟩ := h.performs (.submit sql owner)
      (hsubmit (ScriptedSession.respond_flush hflushes))
    rw [hnotices] at hafter
    exact ⟨hresult, hcompletion, _, _, .refl _, hafter, hscript, hqueued, hbusy⟩
  | succ n =>
    rw [hpending] at hflushes
    obtain ⟨hresult, hcompletion, -, hafter⟩ := h.performs (.submit sql owner)
      (hsubmit (ScriptedSession.respond_flush_pending hflushes))
    have hraised : ({ s.queued sql with flushesLeft := n } : ScriptedSession).notices =
        s.script.raisedBy sql := hnotices
    rw [hraised] at hafter
    obtain ⟨c', s', hpolls, hserving', hscript', hresults', hbusy'⟩ :=
      polls_writing rfl hafter
    exact ⟨hresult, hcompletion, c', s', hpolls, hserving', hscript'.trans hscript,
      hresults'.trans hqueued, hbusy'.trans hbusy⟩

/-- The poll that finds the result brings the outcome. -/
theorem delivers {result : QueryResult} (hbusy : s.busyLeft = 1) (hresults : s.results = [result])
    (h : Serving true .autocommit info capacity heard (some { owner, phase := .reading }) s c) :
    c.Delivers owner (collectOutcome [result]) info capacity heard s.script := by
  obtain ⟨xs, hexec⟩ := ScriptedSession.exec_poll_completing c.setupIsolation .autocommit info owner
    (Nat.le_of_eq hbusy) hresults
  rw [← h.guarded, ← h.asynchronous] at hexec
  have hperform : c.perform .poll = _ := Span.run_of_exec_some hexec rfl
  have hsilent : s.answered.notices = [] := h.notices
  have hheard := h.mailbox.store (Span.messages s.answered)
  have hmessages : (Span.messages s.answered).notices = [] := hsilent
  rw [hmessages, List.append_nil] at hheard
  unfold Delivers
  rw [hperform]
  refine ⟨rfl, rfl, s.answered.emptied, rfl, rfl, ?_⟩
  exact
    { asynchronous := h.asynchronous
      guarded := rfl
      mailbox := hheard
      notices := rfl }

end Serving

namespace Idles

theorem asynchronous_eq (h : c.Idles asynchronous level info capacity heard script) :
    c.asynchronous = asynchronous := by
  obtain ⟨s, -, -, hserving⟩ := h
  exact hserving.asynchronous

theorem addObserver (h : c.Idles asynchronous level info capacity heard script) (listener : Nat) :
    ({ c with mailbox := c.mailbox.addObserver listener } :
      Connection ScriptedSession).Idles asynchronous level info capacity heard script := by
  obtain ⟨s, hscript, hresults, hserving⟩ := h
  exact ⟨s, hscript, hresults,
    { asynchronous := hserving.asynchronous
      guarded := hserving.guarded
      mailbox := hserving.mailbox
      notices := hserving.notices }⟩

/-- A cursor may be made on a connection that has been set up. -/
theorem admitCursor (h : c.Idles asynchronous level info capacity heard script) :
    (c.perform .admitCursor).result = .ok () ∧ (c.perform .admitCursor).completion = none ∧
      (c.after (c.perform .admitCursor)).Idles asynchronous level info capacity heard script := by
  obtain ⟨s, hscript, hresults, hserving⟩ := h
  have hadmit : Span.Lasts (c.span .admitCursor) (serving level info none s) (.ok ())
      (serving level info none s) := by
    refine .bind_silent (.ensureOpen (by simp [serving])) ?_
    exact .bind_silent (.guarded _) (Span.Runs.pure _ _).lasts
  obtain ⟨hresult, hcompletion, -, hafter⟩ := hserving.performs .admitCursor hadmit
  rw [hserving.notices, List.append_nil] at hafter
  exact ⟨hresult, hcompletion, s.emptied, hscript, hresults, hafter⟩

/-- On a blocking connection a statement is executed in one go. -/
theorem execute (h : c.Idles false .autocommit info capacity heard script)
    (hsql : script.failures.lookup sql = none) :
    (c.perform (.execute sql)).result = Span.verdict (.ok (script.answer sql)) ∧
      (c.perform (.execute sql)).completion = none ∧
      (c.after (c.perform (.execute sql))).Idles false .autocommit info capacity
        (heard ++ script.raisedBy sql) script := by
  obtain ⟨s, rfl, hresults, hserving⟩ := h
  obtain ⟨-, hscript, hnotices, hqueued⟩ := ScriptedSession.run_of_success hsql
  have hexecute : Span.Lasts (c.span (.execute sql)) (serving .autocommit info none s)
      (Span.verdict (.ok (s.script.answer sql)))
      (serving .autocommit info none (s.run sql).2) := by
    refine .bind_silent (.ensureOpen (by simp [serving])) ?_
    unfold ensureBlocking
    rw [hserving.asynchronous]
    exact .bind_silent (.pure () _) (ScriptedSession.lasts_execute hsql)
  obtain ⟨hresult, hcompletion, -, hafter⟩ := hserving.performs (.execute sql) hexecute
  rw [hnotices, hserving.notices, List.nil_append] at hafter
  exact ⟨hresult, hcompletion, (s.run sql).2.emptied, hscript, hqueued.trans hresults, hafter⟩

/-- On an asynchronous connection a statement is submitted, and polls lead to the one that brings its
outcome. -/
theorem submit (h : c.Idles true .autocommit info capacity heard script)
    (hsql : script.failures.lookup sql = none) (owner : QueryOwner) :
    (c.perform (.submit sql owner)).result = .ok () ∧
      (c.perform (.submit sql owner)).completion = none ∧
      ∃ c', (c.after (c.perform (.submit sql owner))).Polls script.flightAnswers c' ∧
        c'.Delivers owner (script.outcome sql) info capacity (heard ++ script.raisedBy sql)
          script := by
  obtain ⟨s, rfl, hresults, hserving⟩ := h
  obtain ⟨hresult, hcompletion, c₁, s₁, hwritten, hserving₁, hscript₁, hqueued, hbusy⟩ :=
    hserving.submits hsql owner
  obtain ⟨c', s', hread, hserving', hscript', hresults', hone⟩ := hserving₁.polls_reading hbusy
  rw [hqueued, hresults, List.nil_append] at hresults'
  have hdelivers := hserving'.delivers hone hresults'
  rw [hscript', hscript₁, collectOutcome_singleton] at hdelivers
  exact ⟨hresult, hcompletion, c', hwritten.trans hread, hdelivers⟩

end Idles

end Connection

namespace Scenario

/-- What is seen after a statement: the results of the cursor, and the notices in the mailbox. -/
structure Remark where
  results : Option (Except Fault (List QueryResult))
  notices : Option (List String)

/-- Whether the last poll of a drive was answered that the operation is complete. -/
def Reply.isComplete : Reply → Bool
  | .driven answers none => answers.getLast? == some .complete
  | _ => false

end Scenario

/-- What is seen after each of the statements, given the notices that have been heard before. -/
def Script.remarks (script : Script) (capacity : Capacity) :
    List String → List String → List Scenario.Remark
  | _, [] => []
  | heard, sql :: rest =>
    { results := some (script.outcome sql)
      notices := some (Bounded.newest capacity (heard ++ script.raisedBy sql)) } ::
      script.remarks capacity (heard ++ script.raisedBy sql) rest

namespace Scenario.World

open Connection

section Programs

variable {κ σ : Type} [WireSession σ]

/-- Looks at a cursor and at the mailbox of its connection. -/
def remark (key cursor : Nat) : Play κ σ Remark := do
  let w ← get
  return { results := w.cursors[cursor]?.map (·.results)
           notices := w.connections[key]?.map (·.mailbox.notices.items) }

/-- Attempts statements one after the other, and looks at the cursor after each. An attempt tells whether
the statement has come to an end; there is nothing to be seen if one has not. -/
def remarking (attempt : String → Play κ σ Bool) (key cursor : Nat) :
    List String → Play κ σ (Option (List Remark))
  | [] => return some []
  | sql :: rest => do
    if ← attempt sql then
      let first ← remark key cursor
      return (← remarking attempt key cursor rest).map (first :: ·)
    else return none

/-- Executes a statement on a cursor, whatever comes of it. -/
def execution (react : Reactor κ σ) (cursor : Nat) (sql : String) : Play κ σ Bool := do
  let _ ← executeCursor react cursor sql
  return true

/-- Executes a statement on a cursor, and polls until it is complete, a given number of times at most. -/
def polledExecution (react : Reactor κ σ) (limit key cursor : Nat) (sql : String) :
    Play κ σ Bool := do
  match ← executeCursor react cursor sql with
  | .error _ => return false
  | .ok () => return (← drive react key limit []).isComplete

/-- Attempts statements on a cursor without a name, on a connection with the given observers. -/
def onCursor (react : Reactor κ σ) (key : Nat) (observers : List Listener)
    (attempt : Nat → String → Play κ σ Bool) (statements : List String) :
    Play κ σ (Option (List Remark)) := do
  observers.forM fun observer => do
    let _ ← observe key observer.id observer.limit observer.steps
  match ← makeCursor react key none with
  | .error _ => return none
  | .ok cursor =>
    holding react (.cursor cursor) key (remarking (attempt cursor) key cursor statements)

variable [Connector κ σ]

/-- Opens a blocking connection at autocommit, and executes statements on a cursor. -/
def queryInOneGo (react : Reactor κ σ) (dsn : String) (settings : Settings) (hooked : Bool)
    (observers : List Listener) (statements : List String) : Play κ σ (Option (List Remark)) := do
  match ← openConnection react dsn false { settings with isolation := .autocommit } hooked with
  | .error _ => return none
  | .ok key => onCursor react key observers (execution react) statements

/-- Opens an asynchronous connection and polls until it is set up, and then executes statements on a
cursor, each polled for until it is complete. -/
def queryByPolls (react : Reactor κ σ) (limit : Nat) (dsn : String) (settings : Settings)
    (hooked : Bool) (observers : List Listener) (statements : List String) :
    Play κ σ (Option (List Remark)) := do
  match ← openConnection react dsn true settings hooked with
  | .error _ => return none
  | .ok key =>
    if (← drive react key limit []).isComplete then
      onCursor react key observers (polledExecution react limit key) statements
    else return none

end Programs

variable {react : Reactor Script ScriptedSession} {key cursor : Nat} {asynchronous : Bool}
  {info : SessionInfo} {capacity : Capacity} {heard : List String} {script : Script} {sql : String}
  {w : World Script ScriptedSession}

/-- Between two statements the cursor is held, and its connection idles. -/
structure Rests (asynchronous : Bool) (info : SessionInfo) (capacity : Capacity) (script : Script)
    (key cursor : Nat) (heard : List String) (w : World Script ScriptedSession) : Prop where
  idles : ∃ c : Connection ScriptedSession, w.connections[key]? = some c ∧
    c.Idles asynchronous .autocommit info capacity heard script
  bound : ∃ state, w.cursors[cursor]? = some { connection := key, name := none, state }
  held : Holder.cursor cursor ∈ w.running

/-- After a statement the cursor has its outcome, and is ready for the next one. -/
def RestsAfter (asynchronous : Bool) (info : SessionInfo) (capacity : Capacity) (script : Script)
    (key cursor : Nat) (heard : List String) (sql : String) (w : World Script ScriptedSession) :
    Prop :=
  Rests asynchronous info capacity script key cursor (heard ++ script.raisedBy sql) w ∧
    w.cursors[cursor]?.map (·.results) = some (script.outcome sql)

/-! ## One statement -/

/-- A cursor that is held is told the outcome of its statement. -/
theorem settle_of_held {κ σ : Type} {w : World κ σ} (react : Reactor κ σ)
    (hheld : Holder.cursor cursor ∈ w.running) (outcome : Except Fault (List QueryResult)) :
    (settle react { owner := .cursor cursor, outcome }).run w =
      ((), (w.modifyCursor cursor (·.completed outcome)).record
        (.cursorCompleted cursor outcome)) := by
  have hcursorHeld : w.cursorHeld cursor = true := by
    rw [cursorHeld, List.contains_iff_mem.2 hheld, Bool.or_true]
  unfold settle
  simp only [Play.run_bind, Play.run_get, hcursorHeld, if_true, Play.run_modify]

/-- On a blocking connection a cursor without a name has the outcome of a statement at once. -/
theorem executeCursor_run_blocking {κ σ : Type} [WireSession σ] {w : World κ σ} {c : Connection σ}
    (react : Reactor κ σ) {state : CursorState}
    (hcursor : w.cursors[cursor]? = some { connection := key, name := none, state })
    (hc : w.connections[key]? = some c) (ha : c.asynchronous = false) (sql : String) :
    (executeCursor react cursor sql).run w =
      let executed := (perform react key (.execute sql)).run w
      (executed.1.map fun _ => (), executed.2.modifyCursor cursor
        (·.completed (executed.1.map fun result => [result]))) := by
  unfold executeCursor
  simp only [Play.run_bind, Play.run_get, hcursor, Option.bind_some, hc, ha, Bool.false_eq_true,
    if_false, Option.isSome_none, false_and, Play.run_modify, Play.run_pure]
  rfl

/-- A cursor that has been told the outcome of its statement. -/
theorem restsAfter_of_completed {c : Connection ScriptedSession} {state : CursorState}
    (hc : w.connections[key]? = some c)
    (hidles : c.Idles asynchronous .autocommit info capacity (heard ++ script.raisedBy sql) script)
    (hcursor : w.cursors[cursor]? = some { connection := key, name := none, state })
    (hheld : Holder.cursor cursor ∈ w.running) :
    RestsAfter asynchronous info capacity script key cursor heard sql
      (w.modifyCursor cursor (·.completed (script.outcome sql))) := by
  have hcompleted : (w.modifyCursor cursor (·.completed (script.outcome sql))).cursors[cursor]? =
      some { connection := key, name := none
             state := { outcome := some (script.outcome sql), executing := false } } := by
    rw [modifyCursor, List.getElem?_modify_eq, hcursor]
    rfl
  refine ⟨⟨⟨c, hc, hidles⟩, ⟨_, hcompleted⟩, hheld⟩, ?_⟩
  rw [hcompleted]
  rfl

/-- On a blocking connection at autocommit a statement comes to an end at once. -/
theorem execution_ends
    (hreact : ∀ observers, Discreet react key observers)
    (hsql : script.failures.lookup sql = none)
    (h : Rests false info capacity script key cursor heard w) :
    ∃ w', (execution react cursor sql).run w = (true, w') ∧
      RestsAfter false info capacity script key cursor heard sql w' := by
  obtain ⟨⟨c, hc, hidles⟩, ⟨state, hcursor⟩, hheld⟩ := h
  obtain ⟨hresult, hcompletion, hidles'⟩ := hidles.execute hsql
  obtain ⟨w₁, hperform, hc₁, -, hsame⟩ :=
    perform_of_discreet (hreact _) hc (.execute sql) Operation.noConfusion
  rw [hresult, hcompletion] at hperform
  have hrun := executeCursor_run_blocking react hcursor hc hidles.asynchronous_eq sql
  rw [hperform] at hrun
  refine ⟨_, ?_, restsAfter_of_completed hc₁ hidles' (hsame.cursor _ _ hcursor) ?_⟩
  · unfold execution
    rw [Play.run_bind, hrun]
    rfl
  · rw [hsame.running]
    exact hheld

/-- A drive through polls up to the one that brings the outcome of a cursor's statement. -/
theorem drive_of_delivers
    (hreact : ∀ observers, Discreet react key observers)
    {c c' : Connection ScriptedSession} {answers : List Readiness}
    {outcome : Except Fault (List QueryResult)} (hpolls : c.Polls answers c')
    (hdelivers : c'.Delivers (.cursor cursor) outcome info capacity heard script)
    (hc : w.connections[key]? = some c) (hheld : Holder.cursor cursor ∈ w.running) :
    ∃ w', SameCursors w w' ∧ w'.connections[key]? = some (c'.after (c'.perform .poll)) ∧
      ∀ limit > answers.length, (drive react key limit []).run w =
        (.driven (answers ++ [.complete]) none,
          (w'.modifyCursor cursor (·.completed outcome)).record
            (.cursorCompleted cursor outcome)) := by
  obtain ⟨hcomplete, houtcome, -⟩ := hdelivers
  obtain ⟨w₁, hc₁, -, hsame₁, hdrive⟩ := drive_of_polls hpolls hc (hreact _)
  obtain ⟨w₂, hpoll, hc₂, -, hsame₂⟩ :=
    perform_of_discreet (hreact _) hc₁ .poll Operation.noConfusion
  have hsame := hsame₁.trans hsame₂
  have hheld₂ : Holder.cursor cursor ∈ w₂.running := by
    rw [hsame.running]
    exact hheld
  rw [hcomplete, houtcome] at hpoll
  simp only [settle_of_held react hheld₂] at hpoll
  refine ⟨w₂, hsame, hc₂, fun limit hlimit => ?_⟩
  obtain ⟨n, rfl⟩ : ∃ n, limit = answers.length + (n + 1) :=
    ⟨limit - answers.length - 1, by omega⟩
  rw [hdrive, drive_of_complete hpoll]
  rfl

/-- On an asynchronous connection a statement comes to an end after as many polls as it takes to write it
and to read its result. -/
theorem polledExecution_ends
    (hreact : ∀ observers, Discreet react key observers)
    (hsql : script.failures.lookup sql = none)
    (h : Rests true info capacity script key cursor heard w) :
    ∃ w', (∀ limit > script.flightAnswers.length,
        (polledExecution react limit key cursor sql).run w = (true, w')) ∧
      RestsAfter true info capacity script key cursor heard sql w' := by
  obtain ⟨⟨c, hc, hidles⟩, ⟨state, hcursor⟩, hheld⟩ := h
  obtain ⟨hsubmitted, hcompletion, c', hpolls, hdelivers⟩ := hidles.submit hsql (.cursor cursor)
  -- The statement is submitted while the cursor is marked as executing.
  have hstarted : (w.modifyCursor cursor Cursor.started).cursors[cursor]? =
      some (Cursor.started { connection := key, name := none, state }) := by
    rw [modifyCursor, List.getElem?_modify_eq, hcursor]
    rfl
  obtain ⟨w₁, hsubmit, hc₁, -, hsame₁⟩ := perform_of_discreet
    (w := w.modifyCursor cursor Cursor.started) (hreact _) hc (.submit sql (.cursor cursor))
    Operation.noConfusion
  rw [hsubmitted, hcompletion] at hsubmit
  have hexecute := executeCursor_run react hcursor hc hidles.asynchronous_eq sql
  rw [hsubmit] at hexecute
  have hheld₁ : Holder.cursor cursor ∈ w₁.running := by
    rw [hsame₁.running]
    exact hheld
  -- Then polls lead to the one that brings its outcome.
  obtain ⟨w₂, hsame₂, hc₂, hdrive⟩ := drive_of_delivers hreact hpolls hdelivers hc₁ hheld₁
  have hcursor₂ := hsame₂.cursor _ _ (hsame₁.cursor _ _ hstarted)
  have hheld₂ : Holder.cursor cursor ∈ w₂.running := by
    rw [hsame₂.running]
    exact hheld₁
  have hafter := restsAfter_of_completed hc₂ hdelivers.2.2 hcursor₂ hheld₂
  refine ⟨(w₂.modifyCursor cursor (·.completed (script.outcome sql))).record
    (.cursorCompleted cursor (script.outcome sql)), fun limit hlimit => ?_, ?_⟩
  · unfold polledExecution
    rw [Play.run_bind, hexecute]
    dsimp only
    rw [Play.run_bind, hdrive limit hlimit]
    simp only [Reply.isComplete, List.getLast?_concat, beq_self_eq_true]
    rfl
  · exact ⟨⟨hafter.1.idles, hafter.1.bound, hafter.1.held⟩, hafter.2⟩

/-! ## One statement after the other -/

/-- What is seen after each of several statements, if each comes to an end. -/
theorem remarking_of_ends {attempt : String → Play Script ScriptedSession Bool}
    (hattempt : ∀ heard sql (w : World Script ScriptedSession),
      script.failures.lookup sql = none →
      Rests asynchronous info capacity script key cursor heard w →
      ∃ w', (attempt sql).run w = (true, w') ∧
        RestsAfter asynchronous info capacity script key cursor heard sql w')
    {statements : List String}
    (hstatements : ∀ sql ∈ statements, script.failures.lookup sql = none)
    (h : Rests asynchronous info capacity script key cursor heard w) :
    ((remarking attempt key cursor statements).run w).1 =
      some (script.remarks capacity heard statements) := by
  induction statements generalizing heard w with
  | nil => rfl
  | cons sql rest ih =>
    obtain ⟨w', hrun, hrests, hresults⟩ :=
      hattempt heard sql w (hstatements sql List.mem_cons_self) h
    obtain ⟨c, hc, hidles⟩ := hrests.idles
    have hremark : (remark key cursor).run w' =
        ({ results := some (script.outcome sql)
           notices := some (Bounded.newest capacity (heard ++ script.raisedBy sql)) }, w') := by
      unfold remark
      rw [Play.run_bind, Play.run_get, Play.run_pure, hresults, hc, Option.map_some,
        hidles.hasHeard.2]
    have hrest := ih (fun sql hmem => hstatements sql (List.mem_cons_of_mem _ hmem)) hrests
    unfold remarking Script.remarks
    rw [Play.run_bind, hrun]
    simp only [if_true]
    rw [Play.run_bind, hremark]
    dsimp only
    rw [Play.run_bind, Play.run_pure, hrest]
    rfl

/-- The observers of a connection that idles do not change what it is. -/
theorem observing {c : Connection ScriptedSession} (observers : List Listener)
    (hc : w.connections[key]? = some c)
    (hidles : c.Idles asynchronous .autocommit info capacity heard script) :
    ∃ (w' : World Script ScriptedSession) (c' : Connection ScriptedSession),
      (observers.forM fun observer => do
        let _ ← observe key observer.id observer.limit observer.steps).run w = ((), w') ∧
      w'.connections[key]? = some c' ∧
      c'.Idles asynchronous .autocommit info capacity heard script := by
  induction observers generalizing w c with
  | nil => exact ⟨w, c, rfl, hc, hidles⟩
  | cons observer rest ih =>
    have hc' : (w.modifyConnection key fun c =>
        { c with mailbox := c.mailbox.addObserver w.listeners.length }).connections[key]? =
        some { c with mailbox := c.mailbox.addObserver w.listeners.length } := by
      rw [modifyConnection, List.getElem?_modify_eq, hc]
      rfl
    obtain ⟨w', c', hrun, hc', hidles'⟩ := ih
      (w := (w.modifyConnection key fun c =>
        { c with mailbox := c.mailbox.addObserver w.listeners.length }).addListener
          { id := observer.id, limit := observer.limit, steps := observer.steps })
      hc' (hidles.addObserver w.listeners.length)
    exact ⟨w', c', hrun, hc', hidles'⟩

/-- A cursor without a name is made on a connection that idles. -/
theorem makeCursor_of_idles
    (hreact : ∀ observers, Discreet react key observers)
    {c : Connection ScriptedSession} (hc : w.connections[key]? = some c)
    (hidles : c.Idles asynchronous .autocommit info capacity heard script) :
    ∃ (w' : World Script ScriptedSession) (c' : Connection ScriptedSession),
      (makeCursor react key none).run w = (.ok w'.cursors.length,
        { w' with cursors := w'.cursors ++ [{ connection := key, name := none }] }) ∧
      w'.connections[key]? = some c' ∧
      c'.Idles asynchronous .autocommit info capacity heard script := by
  obtain ⟨hresult, hcompletion, hidles'⟩ := hidles.admitCursor
  obtain ⟨w', hperform, hc', -, -⟩ :=
    perform_of_discreet (hreact _) hc .admitCursor Operation.noConfusion
  rw [hresult, hcompletion] at hperform
  refine ⟨w', _, ?_, hc', hidles'⟩
  unfold makeCursor cursorWith
  rw [Play.run_bind, Play.run_bind, hperform]
  simp only [Play.run_bind, Play.run_get, Option.isSome_none, Bool.false_and, Bool.false_eq_true,
    if_false, pure_bind, ne_eq, not_true_eq_false, or_self, Play.run_pure, Play.run_modifyGet]

/-- What is seen on a connection that idles, if every statement comes to an end. -/
theorem onCursor_of_ends
    (hreact : ∀ observers, Discreet react key observers)
    {attempt : Nat → String → Play Script ScriptedSession Bool}
    (hattempt : ∀ cursor heard sql (w : World Script ScriptedSession),
      script.failures.lookup sql = none →
      Rests asynchronous info capacity script key cursor heard w →
      ∃ w', (attempt cursor sql).run w = (true, w') ∧
        RestsAfter asynchronous info capacity script key cursor heard sql w')
    {statements : List String}
    (hstatements : ∀ sql ∈ statements, script.failures.lookup sql = none)
    (observers : List Listener) {c : Connection ScriptedSession}
    (hc : w.connections[key]? = some c)
    (hidles : c.Idles asynchronous .autocommit info capacity heard script) :
    ((onCursor react key observers attempt statements).run w).1 =
      some (script.remarks capacity heard statements) := by
  obtain ⟨w₁, c₁, hobserve, hc₁, hidles₁⟩ := observing observers hc hidles
  obtain ⟨w₂, c₂, hmake, hc₂, hidles₂⟩ := makeCursor_of_idles hreact hc₁ hidles₁
  have hrests : Rests asynchronous info capacity script key w₂.cursors.length heard
      { w₂ with
        cursors := w₂.cursors ++ [{ connection := key, name := none }]
        running := Holder.cursor w₂.cursors.length :: w₂.running } :=
    { idles := ⟨c₂, hc₂, hidles₂⟩
      bound := ⟨{}, List.getElem?_concat_length⟩
      held := List.mem_cons_self }
  have hremarks := remarking_of_ends (hattempt w₂.cursors.length) hstatements hrests
  unfold onCursor
  rw [Play.run_bind, hobserve]
  dsimp only
  rw [Play.run_bind, hmake]
  exact hremarks

/-! ## The whole way -/

/-- Statements by polls refine statements in one go. Where the setup of both ways succeeds, no statement
fails in the transport and no observer calls back, statements that are executed one after the other on a
cursor, and polled for until they are complete, are seen to have the same results and to raise the same
notices as on a blocking connection at autocommit: those that the script says. Every statement comes to
an end after a number of polls that depends on the script alone. -/
theorem queryByPolls_refines_queryInOneGo (react : Reactor Script ScriptedSession)
    (w : World Script ScriptedSession) (dsn : String) (settings : Settings) (hooked : Bool)
    (observers : List Listener) (statements : List String) {info : SessionInfo}
    (hconnect : w.connector.connectFailure = none)
    (hwaits : ∀ step ∈ w.connector.handshake.takeWhile (· ≠ .established),
      step = .reading ∨ step = .writing)
    (hsetup : w.connector.setup = .ok info)
    (hstatements : ∀ sql ∈ statements, w.connector.failures.lookup sql = none)
    (hreact : ∀ listener notice,
      Keeps (Untouched w.connections.length) (react listener (.notice notice))) :
    let remarks := w.connector.remarks settings.noticeCapacity
      (w.connector.raised .dateStyle ++ w.connector.raised .clientEncoding) statements
    ((queryInOneGo react dsn settings hooked observers statements).run w).1 = some remarks ∧
      ∃ enough, ∀ limit ≥ enough,
        ((queryByPolls react limit dsn settings hooked observers statements).run w).1 =
          some remarks := by
  intro remarks
  have hdiscreet : ∀ observers, Discreet react w.connections.length observers :=
    fun _ listener _ notice => hreact listener notice
  constructor
  · obtain ⟨w₁, c, hopen, hc, -, hidles⟩ := openConnection_blocking react hconnect dsn
      { settings with isolation := .autocommit } hooked hsetup
    have hseen := onCursor_of_ends hdiscreet
      (fun cursor heard sql w hsql hrests => execution_ends hdiscreet hsql hrests) hstatements
      observers hc hidles
    unfold queryInOneGo
    rw [Play.run_bind, hopen]
    exact hseen
  · obtain ⟨opened, c, s, hopen, hc, hobservers, hstage, hscript, hhandshake, hresults, -⟩ :=
      openConnection_asynchronous react hconnect dsn settings hooked
    rw [← hhandshake] at hwaits
    rw [← hscript] at hsetup
    obtain ⟨c', hpolls, hcompletes⟩ := hstage.polls_of_setup_eq_ok hwaits hresults hsetup
    rw [hscript, List.nil_append] at hcompletes
    obtain ⟨polled, c₁, hdrive, hc₁, -, hidles⟩ :=
      drive_of_completesWith react hpolls hcompletes hc hobservers
    refine ⟨max (Stage.answers s.script s.handshake).length w.connector.flightAnswers.length + 1,
      fun limit hlimit => ?_⟩
    have hattempt : ∀ cursor heard sql (w' : World Script ScriptedSession),
        w.connector.failures.lookup sql = none →
        Rests true info settings.noticeCapacity w.connector w.connections.length cursor heard w' →
        ∃ next, (polledExecution react limit w.connections.length cursor sql).run w' = (true, next) ∧
          RestsAfter true info settings.noticeCapacity w.connector w.connections.length cursor heard
            sql next := by
      intro cursor heard sql w' hsql hrests
      obtain ⟨next, hrun, hafter⟩ := polledExecution_ends hdiscreet hsql hrests
      exact ⟨next, hrun limit (by omega), hafter⟩
    have hseen := onCursor_of_ends hdiscreet hattempt hstatements observers hc₁ hidles
    unfold queryByPolls
    rw [Play.run_bind, hopen]
    dsimp only
    rw [Play.run_bind, hdrive limit (by omega)]
    simp only [Reply.isComplete, List.getLast?_concat, beq_self_eq_true, if_true]
    exact hseen

/-- Listeners that run no steps do not call back. -/
theorem untouched_fire {κ σ : Type} [WireSession σ] [Connector κ σ] (key listener : Nat)
    (signal : Signal) : Keeps (Untouched key) (fire 0 listener signal : Play κ σ Unit) := by
  intro w
  have hsilent := (Alike.announce w listener signal).exchanges_eq key
  unfold announce at hsilent
  unfold fire
  rw [Play.run_bind, Play.run_get]
  cases hlistener : w.listeners[listener]? with
  | none => exact .refl key w
  | some l =>
    rw [hlistener] at hsilent
    exact
      { cursor := fun _ _ hcursor => hcursor
        running := rfl
        connection := fun _ hc => hc
        exchanges := hsilent }

/-- A slow server that raises notices, and that rejects a statement. -/
def strict : Script :=
  { sluggish with
    answers := [("SHOW DATESTYLE", .single "ISO, MDY"), ("SHOW client_encoding", .single "UTF8"),
      ("SELECT 1", .single "1"), ("SELECT x", .fatal "no such column" (some "42703"))]
    failures := [("DROP TABLE t", "broken pipe")]
    notices := [("SHOW DATESTYLE", ["welcome"]), ("SELECT 1", ["careful"])] }

/-- Two statements on that server, the second of which is rejected, with an observer of the notices. -/
theorem queryByPolls_refines_queryInOneGo_strict :
    let w : World Script ScriptedSession := { connector := strict, hook := fun _ => 1 }
    let observers : List Listener := [{ id := "watch", limit := 0, steps := [] }]
    let statements := ["SELECT 1", "SELECT x"]
    let seen : List Remark :=
      [{ results := some (.ok [.single "1"]), notices := some ["welcome", "careful"] },
        { results := some (.error (.rejected (some "42703") "no such column"))
          notices := some ["welcome", "careful"] }]
    w.connector.connectFailure = none ∧
      (∀ step ∈ w.connector.handshake.takeWhile (· ≠ .established),
        step = .reading ∨ step = .writing) ∧
      (∃ info, w.connector.setup = .ok info) ∧
      (∀ sql ∈ statements, w.connector.failures.lookup sql = none) ∧
      (∀ listener notice, Keeps (Untouched (κ := Script) (σ := ScriptedSession) 0)
        (fire 0 listener (.notice notice))) ∧
      ((queryInOneGo (fire 0) "" .standard false observers statements).run w).1 = some seen ∧
      ∃ enough, ∀ limit ≥ enough,
        ((queryByPolls (fire 0) limit "" .standard false observers statements).run w).1 =
          some seen := by
  intro w observers statements seen
  have hconnect : w.connector.connectFailure = none := rfl
  have hwaits : ∀ step ∈ w.connector.handshake.takeWhile (· ≠ .established),
      step = .reading ∨ step = .writing := by decide
  have hsetup : ∃ info, w.connector.setup = .ok info := ⟨_, rfl⟩
  have hstatements : ∀ sql ∈ statements, w.connector.failures.lookup sql = none := by decide
  have hreact : ∀ listener notice, Keeps (Untouched (κ := Script) (σ := ScriptedSession) 0)
      (fire 0 listener (.notice notice)) := fun listener notice => untouched_fire 0 listener _
  obtain ⟨info, hinfo⟩ := hsetup
  obtain ⟨hblocking, enough, hpolls⟩ := queryByPolls_refines_queryInOneGo (fire 0) w "" .standard false
    observers statements hconnect hwaits hinfo hstatements hreact
  have hseen : w.connector.remarks (Settings.standard.noticeCapacity)
      (w.connector.raised .dateStyle ++ w.connector.raised .clientEncoding) statements = seen := rfl
  rw [hseen] at hblocking hpolls
  exact ⟨hconnect, hwaits, ⟨info, hinfo⟩, hstatements, hreact, hblocking, enough, hpolls⟩

end Scenario.World

end SessionLayer
