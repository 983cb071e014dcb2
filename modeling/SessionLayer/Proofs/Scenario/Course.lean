import Mathlib.Logic.Relation
import SessionLayer.Proofs.Scenario.Keeps

/-!
# The course of a scenario

Whatever the steps of a scenario and the listeners of a client do, connections change in two ways only:
one is opened, or the span of an operation is run on one. `Move` lists the two ways, together with the
changes that no span has to do with, and `Reached` is any number of moves. Every computation of a
scenario keeps to `Reached` if its reactor does; so what every move preserves holds throughout every
scenario.
-/

set_option autoImplicit false

namespace SessionLayer.Scenario

namespace World

variable {κ σ : Type} [WireSession σ] [Connector κ σ]

/-- The world with another connection, which has no session yet. -/
def creating (dsn : String) (asynchronous : Bool) (settings : Settings) (hooked : Bool)
    (w : World κ σ) : World κ σ :=
  { w with
    connections :=
      w.connections ++ [Connection.create w.connections.length dsn asynchronous hooked settings] }

/-- What comes of making a session for another connection. -/
def opening (dsn : String) (asynchronous : Bool) (settings : Settings) (hooked : Bool)
    (w : World κ σ) : Aftermath Unit × World κ σ :=
  detached w.connections.length (hooked && !asynchronous)
    (establish w.connections.length (!asynchronous) dsn)
    (w.creating dsn asynchronous settings hooked)

/-- The world after the span of an operation on a connection. -/
def operating (key : Nat) (hooked : Bool) (op : Operation) (w : World κ σ) : World κ σ :=
  (detached key hooked (runSpan key (·.span op)) w).2

/-- What can happen next: a connection is opened, the span of an operation is run on one, or something
happens that no span has to do with. -/
inductive Move (w : World κ σ) : World κ σ → Prop
  | opening (dsn : String) (asynchronous : Bool) (settings : Settings) (hooked : Bool) :
      Move w (w.opening dsn asynchronous settings hooked).2
  | operating (key : Nat) (hooked : Bool) (op : Operation) : Move w (w.operating key hooked op)
  | quiet (w' : World κ σ) : w.Alike w' → Move w w'

/-- The second world is reached from the first one by moves. -/
def Reached : World κ σ → World κ σ → Prop :=
  Relation.ReflTransGen Move

namespace Reached

variable {w w₁ w₂ : World κ σ}

theorem of_move (h : Move w w₁) : Reached w w₁ :=
  .single h

theorem of_alike (h : w.Alike w₁) : Reached w w₁ :=
  .of_move (.quiet w₁ h)

/-- Nothing that has happened is ever forgotten. -/
theorem prefix_trace_of_move (h : Move w w₁) : w.trace <+: w₁.trace := by
  cases h with
  | opening dsn asynchronous settings hooked =>
    obtain ⟨w₂, halike, -, -, hafter, -⟩ := detached_eq w.connections.length
      (hooked && !asynchronous) (establish w.connections.length (!asynchronous) dsn)
      (w.creating dsn asynchronous settings hooked)
    exact halike.prefix_trace.trans ((prefix_trace_establish _ _ _ _).trans hafter.prefix_trace)
  | operating key hooked op =>
    obtain ⟨w₂, halike, -, -, hafter, -⟩ := detached_eq key hooked (runSpan key (·.span op)) w
    exact halike.prefix_trace.trans ((prefix_trace_runSpan _ _ _).trans hafter.prefix_trace)
  | quiet _ halike => exact halike.prefix_trace

theorem prefix_trace (h : Reached w w₁) : w.trace <+: w₁.trace := by
  induction h with
  | refl => exact List.prefix_rfl
  | tail _ hnext ih => exact ih.trans (prefix_trace_of_move hnext)

/-- What every move preserves is preserved all the way. -/
theorem preserves {P : World κ σ → Prop} (hmove : ∀ w w', P w → Move w w' → P w')
    (h : Reached w w₁) (hw : P w) : P w₁ := by
  induction h with
  | refl => exact hw
  | tail _ hnext ih => exact hmove _ _ ih hnext

end Reached

/-! ## What follows a span -/

section Delivery

variable {κ σ : Type} {R : World κ σ → World κ σ → Prop} {react : Reactor κ σ}

theorem keeps_settle [Passive R]
    (hreact : ∀ listener outcome, Keeps R (react listener (.complete outcome)))
    (completion : Completion) : Keeps R (settle react completion) := by
  have discarded : Keeps R
      (modify (World.record (.discarded completion.outcome)) : Play κ σ Unit) :=
    .idle fun w => ⟨.record w rfl, .of_eq rfl rfl rfl rfl rfl⟩
  unfold settle
  refine .bind_get fun w => ?_
  split
  · split
    · refine .bind (.idle fun w => ⟨.of_eq rfl rfl (Nat.le_refl _) rfl, ?_⟩) fun _ => ?_
      · exact .modifyCursor w _ fun _ => rfl
      · exact .idle fun w => ⟨.record w rfl, .of_eq rfl rfl rfl rfl rfl⟩
    · exact discarded
  · split
    · exact hreact _ _
    · exact discarded
  · exact discarded

theorem keeps_conclude_of_absorbing [Passive R] {key : Nat} {α : Type} {a : Aftermath α}
    (habsorbing : ∀ w : World κ σ, R w (w.absorbing key a.batch))
    (hreact : ∀ listener signal, Keeps R (react listener signal)) : Keeps R (conclude react key a) := by
  unfold conclude
  refine .bind (keeps_deliver habsorbing fun _ _ => hreact _ _) fun _ => ?_
  split
  · exact .bind (keeps_settle (fun _ _ => hreact _ _) _) fun _ => .pure _
  · exact .pure _

theorem keeps_conclude [Course R] {α : Type}
    (hreact : ∀ listener signal, Keeps R (react listener signal)) (key : Nat) (a : Aftermath α) :
    Keeps R (conclude react key a) :=
  keeps_conclude_of_absorbing (fun w => Course.quiet (Still.absorbing w key a.batch).toAlike) hreact

end Delivery

/-! ## Cursors -/

section Cursors

variable {κ σ : Type} [WireSession σ] {R : World κ σ → World κ σ → Prop} [Passive R]
  {react : Reactor κ σ} {key : Nat}

theorem keeps_makeCursor (hadmitted : Keeps R (perform react key .admitCursor)) (name : Option String) :
    Keeps R (makeCursor react key name) := by
  unfold makeCursor
  refine .bind (keeps_cursorWith hadmitted name _ _ fun _ => .pure _) fun making => ?_
  split
  · exact .pure _
  · exact .idleGet fun w => ⟨.of_eq rfl rfl (Nat.le_refl _) rfl, .addCursor w _⟩

/-- A cursor submits its statement or executes it, and does nothing else on its connection. -/
theorem keeps_executeCursor_of
    (hsubmit : ∀ key sql owner, Keeps R (perform react key (.submit sql owner)))
    (hexecute : ∀ key sql, Keeps R (perform react key (.execute sql))) (key : Nat) (sql : String) :
    Keeps R (executeCursor react key sql) := by
  have changed : ∀ f : Cursor → Cursor, (∀ c, (f c).connection = c.connection) →
      Keeps R (modify (modifyCursor key f) : Play κ σ Unit) := fun f hf =>
    .idle fun w => ⟨.of_eq rfl rfl (Nat.le_refl _) rfl, .modifyCursor w key hf⟩
  unfold executeCursor
  refine .bind_get fun w => ?_
  split
  · rename_i cursor connection _ _
    split
    · refine .bind (changed _ fun _ => rfl) fun _ => ?_
      refine .bind (hsubmit _ _ _) fun result => ?_
      split
      · exact .bind (changed _ fun _ => rfl) fun _ => .pure _
      · exact .pure _
    · split
      · exact .pure _
      · refine .bind (hexecute _ _) fun outcome => ?_
        exact .bind (changed _ fun _ => rfl) fun _ => .pure _
  · exact .pure _

theorem keeps_executeCursor (hperform : ∀ key op, Keeps R (perform react key op)) (key : Nat)
    (sql : String) : Keeps R (executeCursor react key sql) :=
  keeps_executeCursor_of (fun key _ _ => hperform key _) (fun key _ => hperform key _) key sql

end Cursors

end World

instance World.Reached.course {κ σ : Type} [WireSession σ] [Connector κ σ] :
    Course (World.Reached : World κ σ → World κ σ → Prop) where
  refl := fun _ => .refl
  trans := fun h h' => Relation.ReflTransGen.trans h h'
  quiet := .of_alike

namespace World

variable {κ σ : Type} [WireSession σ] [Connector κ σ] {react : Reactor κ σ}

/-! ## Operations -/

/-- Whether the span of an operation goes through the hook. -/
def usesHook (w : World κ σ) (key : Nat) (op : Operation) : Bool :=
  w.connections[key]?.any fun c => c.hooked && c.mayBlock op

omit [Connector κ σ] in
theorem perform_run_usesHook (react : Reactor κ σ) (key : Nat) (op : Operation) (w : World κ σ) :
    (perform react key op).run w =
      let attempt := detached key (w.usesHook key op) (runSpan key (·.span op)) w
      let concluded := (conclude react key attempt.1).run attempt.2
      (concluded.1, if op = .close then clearMailbox key concluded.2 else concluded.2) := by
  by_cases hclose : op = .close
  · subst hclose
    rfl
  · unfold perform
    simp only [hclose, if_false]
    rfl

omit [Connector κ σ] in
/-- The span of an operation is run, what it brings is delivered, and a close empties the mailbox. -/
theorem perform_run (react : Reactor κ σ) (key : Nat) (op : Operation) (w : World κ σ) :
    ∃ hooked : Bool, (perform react key op).run w =
      let attempt := detached key hooked (runSpan key (·.span op)) w
      let concluded := (conclude react key attempt.1).run attempt.2
      (concluded.1, if op = .close then clearMailbox key concluded.2 else concluded.2) :=
  ⟨_, perform_run_usesHook react key op w⟩

omit [Connector κ σ] in
/-- An operation keeps to a relation if its span, with what follows it, and a close's emptying of the
mailbox do. -/
theorem keeps_perform_of {R : World κ σ → World κ σ → Prop} [Passage R] {key : Nat} {op : Operation}
    (hconcluded : ∀ hooked w, R w
      ((conclude react key (detached key hooked (runSpan key (·.span op)) w).1).run
        (w.operating key hooked op)).2)
    (hcleared : ∀ w : World κ σ, R w (w.clearMailbox key)) : Keeps R (perform react key op) := by
  intro w
  obtain ⟨hooked, hrun⟩ := perform_run react key op w
  rw [hrun]
  dsimp only
  split
  · exact Passage.trans (hconcluded hooked w) (hcleared _)
  · exact hconcluded hooked w

theorem keeps_perform (hreact : ∀ listener signal, Keeps Reached (react listener signal)) (key : Nat)
    (op : Operation) : Keeps Reached (perform react key op) := by
  refine keeps_perform_of (fun hooked w => ?_) fun w => ?_
  · exact (Reached.of_move (.operating key hooked op)).trans (keeps_conclude hreact key _ _)
  · exact .of_alike (Idle.clearMailbox w key).alike

omit [WireSession σ] [Connector κ σ] in
/-- What follows a span does not change its result. -/
theorem fst_conclude {α : Type} (key : Nat) (a : Aftermath α) (w : World κ σ) :
    ((conclude react key a).run w).1 = a.result := by
  unfold conclude
  rcases a with ⟨result, batch, _ | completion⟩
  · rfl
  · rfl

/-- An attempt to open a connection: the session is made and set up, and what is left of a failure is
closed. -/
theorem openConnection_run (dsn : String) (asynchronous : Bool) (settings : Settings) (hooked : Bool)
    (w : World κ σ) :
    (openConnection react dsn asynchronous settings hooked).run w =
      let attempt := w.opening dsn asynchronous settings hooked
      let concluded := (conclude react w.connections.length attempt.1).run attempt.2
      match concluded.1 with
      | .ok () => (.ok w.connections.length, concluded.2)
      | .error fault =>
        (.error fault, ((release react w.connections.length).run concluded.2).2) := by
  have branch : ∀ concluded : Except Fault Unit × World κ σ,
      StateT.run (match concluded.1 with
        | .ok () => Pure.pure (Except.ok w.connections.length)
        | .error fault => do
          release react w.connections.length
          Pure.pure (Except.error fault) : Play κ σ (Except Fault Nat)) concluded.2 =
        match concluded.1 with
        | .ok () => (.ok w.connections.length, concluded.2)
        | .error fault =>
          (.error fault, ((release react w.connections.length).run concluded.2).2) := by
    rintro ⟨_ | _, _⟩
    · rfl
    · rfl
  exact branch _

theorem keeps_openConnection_of {R : World κ σ → World κ σ → Prop} [Passage R] {dsn : String}
    {asynchronous : Bool} {settings : Settings} {hooked : Bool}
    (hconcluded : ∀ w, R w
      ((conclude react w.connections.length (w.opening dsn asynchronous settings hooked).1).run
        (w.opening dsn asynchronous settings hooked).2).2)
    (hclose : ∀ key, Keeps R (perform react key .close)) :
    Keeps R (openConnection react dsn asynchronous settings hooked) := by
  intro w
  rw [openConnection_run]
  dsimp only
  split
  · exact hconcluded w
  · exact Passage.trans (hconcluded w) (keeps_release (hclose _) _)

theorem keeps_openConnection (hreact : ∀ listener signal, Keeps Reached (react listener signal))
    (dsn : String) (asynchronous : Bool) (settings : Settings) (hooked : Bool) :
    Keeps Reached (openConnection react dsn asynchronous settings hooked) := by
  refine keeps_openConnection_of (fun w => ?_) fun key => keeps_perform hreact key .close
  have hopening := Reached.of_move (.opening (w := w) dsn asynchronous settings hooked)
  exact hopening.trans (keeps_conclude hreact _ _ _)

/-! ## Scenarios -/

/-- It is enough that listeners attend to the course from the moment at which they are told. -/
theorem conducts_of_attends (hreact : Attends Reached react) : Conducts Reached react := by
  have hkeeps : ∀ listener signal, Keeps Reached (react listener signal) := fun listener signal w =>
    (Reached.of_alike (.announce w listener signal)).trans (hreact listener signal w)
  exact .of_drift (keeps_perform hkeeps) (keeps_openConnection hkeeps)
    (keeps_executeCursor (keeps_perform hkeeps))

/-- The listeners of a scenario keep to its course, however deep they nest. -/
theorem keeps_fire (depth key : Nat) (signal : Signal) :
    Keeps Reached (fire depth key signal : Play κ σ Unit) := fun w =>
  (Reached.of_alike (.announce w key signal)).trans
    (attends_fire (fun _ => conducts_of_attends) depth key signal w)

/-- Every scenario is a course of moves. -/
theorem keeps_play (steps : List Step) : Keeps Reached (play steps : Play κ σ (List Report × List Event)) :=
  keeps_play_of (fun _ => conducts_of_attends) steps

end World

end SessionLayer.Scenario
