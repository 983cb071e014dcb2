import SessionLayer.Proofs.Span.Heeds

/-!
# The transaction status of a blocking connection

`Guarded.Serves` ties a usable connection to its server: the session follows its script, and the status
of the connection agrees with what the account of the exchanges tells about the transaction. Every
operation on a blocking connection preserves this or closes the connection. `Operation.Sends` lists the
statements that an operation sends, and in which status of the transaction.
-/

set_option autoImplicit false

namespace SessionLayer

namespace Guarded

/-- The status of the connection agrees with what the account tells about the transaction. -/
inductive Agrees (a : Account) (g : Guarded ScriptedSession) : Prop
  | ready : g.status = .ready → a.transaction = .idle → Agrees a g
  | inBlock : g.status = .inBlock → a.transaction.IsBlock → g.isolation ≠ .autocommit →
      a.begun = g.isolation.beginStatement → Agrees a g

/-- A usable connection whose session follows the script. -/
structure Serves (script : Script) (a : Account) (g : Guarded ScriptedSession) : Prop where
  session : ∃ s : ScriptedSession, g.session = some s ∧ s.Follows script a
  inFlight : g.inFlight = none
  agrees : g.Agrees a

/-- A blocking connection between two operations: usable, or closed. -/
def Tracks (script : Script) (a : Account) (g : Guarded ScriptedSession) : Prop :=
  g.Serves script a ∨ (g.session = none ∧ g.status = .closed)

/-- A session that is idle, while the connection is set up again. -/
structure Idles (script : Script) (a : Account) (g : Guarded ScriptedSession) : Prop where
  session : ∃ s : ScriptedSession, g.session = some s ∧ s.Follows script a
  inFlight : g.inFlight = none
  idle : a.transaction = .idle

variable {script : Script} {a : Account} {g : Guarded ScriptedSession}

theorem Serves.isUsable (h : g.Serves script a) : g.status.isUsable := by
  cases h.agrees with
  | ready hstatus _ => rw [hstatus]; rfl
  | inBlock hstatus _ _ _ => rw [hstatus]; rfl

theorem Serves.ne_closed (h : g.Serves script a) : g.status ≠ .closed :=
  Status.ne_closed_of_isUsable h.isUsable

theorem Serves.idle_of_ready (h : g.Serves script a) (hready : g.status = .ready) :
    a.transaction = .idle := by
  cases h.agrees with
  | ready _ hidle => exact hidle
  | inBlock hstatus _ _ _ => exact nomatch hready.symm.trans hstatus

theorem Serves.ready_of_autocommit (h : g.Serves script a) (hlevel : g.isolation = .autocommit) :
    g.status = .ready := by
  cases h.agrees with
  | ready hstatus _ => exact hstatus
  | inBlock _ _ hne _ => exact absurd hlevel hne

theorem Serves.isBlock_of_inBlock (h : g.Serves script a) (hblock : g.status = .inBlock) :
    a.transaction.IsBlock := by
  cases h.agrees with
  | ready hstatus _ => exact nomatch hblock.symm.trans hstatus
  | inBlock _ hin _ _ => exact hin

/-- Nothing changes with a session in the same transaction. -/
theorem Serves.on (h : g.Serves script a) {s : ScriptedSession} (hs : s.Follows script a) :
    (g.on s).Serves script a where
  session := ⟨s, rfl, hs⟩
  inFlight := h.inFlight
  agrees := by
    cases h.agrees with
    | ready hstatus hidle => exact .ready hstatus hidle
    | inBlock hstatus hin hlevel hbegun => exact .inBlock hstatus hin hlevel hbegun

/-- A statement that failed leaves the connection where it was. -/
theorem Serves.of_failed (h : g.Serves script a) {s : ScriptedSession} {a' : Account}
    (ha : a' = a ∨ a' = a.rejecting) (hs : s.Follows script a') : (g.on s).Serves script a' := by
  rcases ha with rfl | rfl
  · exact h.on hs
  · refine ⟨⟨s, rfl, hs⟩, h.inFlight, ?_⟩
    cases h.agrees with
    | ready hstatus hidle =>
      rw [Account.rejecting_of_idle hidle]
      exact .ready hstatus hidle
    | inBlock hstatus hin hlevel hbegun =>
      exact .inBlock hstatus (Account.isBlock_rejecting hin) hlevel
        ((Account.begun_rejecting a).trans hbegun)

/-- Taking over messages changes nothing. -/
theorem Serves.stashing (h : g.Serves script a) (stash : Batch) :
    (g.stashing stash).Serves script a where
  session := h.session
  inFlight := h.inFlight
  agrees := by
    cases h.agrees with
    | ready hstatus hidle => exact .ready hstatus hidle
    | inBlock hstatus hin hlevel hbegun => exact .inBlock hstatus hin hlevel hbegun

end Guarded

namespace Span

open Guarded

variable {script : Script} {sends : TransactionStatus → String → Prop} {a : Account}
  {g : Guarded ScriptedSession}

/-! ## Statements -/

/-- A statement in its place: it is accepted, or the account changes at most by a rejection. -/
theorem heeds_command (hhonest : script.IsHonest) {s : ScriptedSession} (hsession : g.session = some s)
    (hs : s.Follows script a) {sql : String} (hsends : sends a.transaction sql) :
    Heeds sends (command sql) a g fun r a' g' =>
      ∃ s', g' = g.on s' ∧ s'.Follows script a' ∧
        ((∃ x, r = .ok x ∧ a' = a.accepting sql) ∨
          ∃ f, r = .error f ∧ (a' = a ∨ a' = a.rejecting)) := by
  have hfollows := hs.respond (.exec sql) (by simp)
  have hafter := hs.after_exec hhonest sql rfl
  unfold command
  refine heeds_bind (heeds_ask hsession (fun _ h => by cases h; exact hsends) ⟨?_, by simp⟩)
  rintro answer ⟨⟩
  generalize (WireSession.respond (.exec sql) s).1 = answer at hfollows hafter
  cases answer with
  | error text =>
    refine heeds_bind_error (.sent_error text _) ⟨_, rfl, hfollows, Or.inr ⟨_, rfl, Or.inl rfl⟩⟩
  | ok result =>
    refine heeds_bind_silent (.sent_ok result _) ?_
    cases hrejection : result.rejection? with
    | some rejection =>
      simp only [verdict, hrejection] at hafter ⊢
      obtain ⟨x, hx, -⟩ | ⟨f, -, ha⟩ := hafter
      · cases hx
      · exact heeds_of_runs (.throw _ _) ⟨_, rfl, hfollows, Or.inr ⟨_, rfl, ha⟩⟩
    | none =>
      simp only [verdict, hrejection] at hafter ⊢
      obtain ⟨x, -, ha⟩ | ⟨f, hf, -⟩ := hafter
      · exact heeds_of_runs (.pure _ _) ⟨_, rfl, hfollows, Or.inl ⟨_, rfl, ha⟩⟩
      · cases hf

/-- A plain statement leaves the connection where it was. -/
theorem heeds_command_of_isPlain (hhonest : script.IsHonest) (h : g.Serves script a) {sql : String}
    (hplain : Sql.IsPlain sql) (hsends : sends a.transaction sql) :
    Heeds sends (command sql) a g fun _ a' g' => ∃ s', g' = g.on s' ∧ g'.Serves script a' := by
  obtain ⟨s, hsession, hs⟩ := h.session
  apply (heeds_command hhonest hsession hs hsends).mono
  rintro r a' g' ⟨s', rfl, hs', ⟨x, -, ha⟩ | ⟨f, -, ha⟩⟩
  · rw [Account.accepting_of_isPlain hplain] at ha
    exact ⟨s', rfl, h.of_failed (Or.inl ha) hs'⟩
  · exact ⟨s', rfl, h.of_failed ha hs'⟩

/-- A block is opened outside of one, and after that the server is in a block at a transactional
level. -/
theorem heeds_beginIfNeeded (hhonest : script.IsHonest) (h : g.Serves script a)
    (hbegin : ∀ statement, g.isolation.beginStatement = some statement → sends .idle statement) :
    Heeds sends beginIfNeeded a g fun r a' g' =>
      g'.Serves script a' ∧ g'.isolation = g.isolation ∧
        ∀ x, r = .ok x → g.isolation ≠ .autocommit → a'.transaction.IsBlock := by
  unfold beginIfNeeded
  refine heeds_bind_silent (.guarded g) ?_
  by_cases hready : g.status = .ready
  · rw [if_pos hready]
    have hidle := h.idle_of_ready hready
    cases hstatement : g.isolation.beginStatement with
    | none =>
      have hlevel : g.isolation = .autocommit := by
        cases hg : g.isolation with
        | autocommit => rfl
        | readCommitted | serializable => simp [hg, Isolation.beginStatement] at hstatement
      exact heeds_of_runs (.pure _ _) ⟨h, rfl, fun _ _ hne => absurd hlevel hne⟩
    | some statement =>
      have hlevel : g.isolation ≠ .autocommit := by
        rintro hlevel
        rw [hlevel] at hstatement
        cases hstatement
      obtain ⟨s, hsession, hs⟩ := h.session
      have hsends : sends a.transaction statement := hidle ▸ hbegin statement hstatement
      refine heeds_bind ((heeds_command hhonest hsession hs hsends).mono ?_)
      rintro r a' g' ⟨s', rfl, hs', ⟨x, rfl, rfl⟩ | ⟨f, rfl, ha⟩⟩
      · rw [Account.accepting_of_opensBlock (Sql.opensBlock_of_beginStatement hstatement)] at hs' ⊢
        refine ⟨fun _ _ => heeds_of_runs (.update _ _) ⟨?_, rfl, fun _ _ _ => Or.inl rfl⟩,
          fun f hf => by cases hf⟩
        exact
          { session := ⟨s', rfl, hs'⟩
            inFlight := h.inFlight
            agrees := .inBlock rfl (Or.inl rfl) hlevel hstatement.symm }
      · refine ⟨fun x hx => ?_, fun f _ => ⟨h.of_failed ha hs', rfl, fun x hx => ?_⟩⟩
        · cases hx
        · cases hx
  · rw [if_neg hready]
    refine heeds_of_runs (.pure _ _) ⟨h, rfl, fun _ _ _ => ?_⟩
    cases h.agrees with
    | ready hstatus _ => exact absurd hstatus hready
    | inBlock _ hin _ _ => exact hin

/-- A block is ended inside of one, and after that the connection is outside. -/
theorem heeds_endBlock (hhonest : script.IsHonest) (h : g.Serves script a) {statement : String}
    (hcloses : statement = Sql.commit ∨ statement = Sql.rollback)
    (hend : ∀ status, TransactionStatus.IsBlock status → sends status statement) :
    Heeds sends (endBlock statement) a g fun r a' g' =>
      g'.Serves script a' ∧ g'.info = g.info ∧ ∀ x, r = .ok x → g'.status = .ready := by
  unfold endBlock
  refine heeds_bind_silent (.guarded g) ?_
  by_cases hopen : g.isolation ≠ .autocommit ∧ g.status = .inBlock
  · rw [if_pos hopen]
    obtain ⟨s, hsession, hs⟩ := h.session
    have hsends : sends a.transaction statement := hend _ (h.isBlock_of_inBlock hopen.2)
    refine heeds_bind ((heeds_command hhonest hsession hs hsends).mono ?_)
    rintro r a' g' ⟨s', rfl, hs', ⟨x, rfl, rfl⟩ | ⟨f, rfl, ha⟩⟩
    · rw [Account.accepting_of_closesBlock hcloses] at hs' ⊢
      refine ⟨fun _ _ => heeds_of_runs (.update _ _) ⟨?_, rfl, fun _ _ => rfl⟩,
        fun f hf => nomatch hf⟩
      exact
        { session := ⟨s', rfl, hs'⟩
          inFlight := h.inFlight
          agrees := .ready rfl rfl }
    · exact ⟨fun x hx => (nomatch hx), fun f _ => ⟨h.of_failed ha hs', rfl, fun x hx => nomatch hx⟩⟩
  · rw [if_neg hopen]
    refine heeds_of_runs (.pure _ _) ⟨h, rfl, fun _ _ => ?_⟩
    cases h.agrees with
    | ready hstatus _ => exact hstatus
    | inBlock hstatus _ hlevel _ => exact absurd ⟨hlevel, hstatus⟩ hopen

/-- A statement of a caller is sent inside of a block, unless each statement commits on its own. -/
theorem heeds_execute (hhonest : script.IsHonest) (h : g.Serves script a) {sql : String}
    (hplain : Sql.IsPlain sql)
    (hbegin : ∀ statement, g.isolation.beginStatement = some statement → sends .idle statement)
    (hsql : ∀ status, (g.isolation ≠ .autocommit → TransactionStatus.IsBlock status) →
      sends status sql) :
    Heeds sends (execute sql) a g fun _ a' g' =>
      g'.Serves script a' ∧ g'.isolation = g.isolation := by
  unfold execute
  refine heeds_bind ((heeds_beginIfNeeded hhonest h hbegin).mono ?_)
  rintro r a' g' ⟨h', hlevel, hblock⟩
  refine ⟨fun x hx => ?_, fun f _ => ⟨h', hlevel⟩⟩
  apply (heeds_command_of_isPlain hhonest h' hplain (hsql _ (hblock x hx))).mono
  rintro r a'' g'' ⟨s, rfl, h''⟩
  exact ⟨h'', hlevel⟩

/-- The level changes outside of blocks only. -/
theorem heeds_setIsolation (hhonest : script.IsHonest) (h : g.Serves script a) (level : Int)
    (hend : ∀ status, TransactionStatus.IsBlock status → sends status Sql.rollback) :
    Heeds sends (setIsolation level) a g fun _ a' g' => g'.Serves script a' := by
  have hchange : ∀ {a : Account} {g : Guarded ScriptedSession}, g.Serves script a →
      g.status = .ready → ∀ target, Heeds sends (update ({ · with isolation := target })) a g
        fun _ a' g' => g'.Serves script a' := by
    intro a g h hready target
    refine heeds_of_runs (.update _ _) ?_
    exact
      { session := h.session
        inFlight := h.inFlight
        agrees := .ready hready (h.idle_of_ready hready) }
  unfold setIsolation
  cases htarget : Isolation.ofLevel level with
  | error fault => exact heeds_bind_error (.lift rfl g) h
  | ok target =>
    refine heeds_bind_silent (.lift rfl g) (heeds_bind_silent (.guarded g) ?_)
    by_cases hsame : target = g.isolation
    · rw [if_neg (not_not_intro hsame)]
      exact heeds_of_runs (.pure _ _) h
    · rw [if_pos hsame]
      by_cases hauto : g.isolation = .autocommit
      · rw [if_neg (not_not_intro hauto)]
        exact hchange h (h.ready_of_autocommit hauto) target
      · rw [if_pos hauto]
        refine heeds_bind ((heeds_endBlock hhonest h (Or.inr rfl) hend).mono ?_)
        rintro r a' g' ⟨h', -, hready⟩
        exact ⟨fun x hx => hchange h' (hready x hx) target, fun f _ => h'⟩

theorem isPlain_setClientEncoding (encoding : String) :
    Sql.IsPlain (Sql.setClientEncoding encoding) := by
  have hhead : "SET client_encoding = ".toList.head? = some 'S' := by decide
  exact Sql.isPlain_of_head? (Sql.head?_append hhead _) (by decide)

/-- The encoding changes outside of blocks only. -/
theorem heeds_setClientEncoding (hhonest : script.IsHonest) (h : g.Serves script a) (name : String)
    (hend : ∀ status, TransactionStatus.IsBlock status → sends status Sql.rollback)
    (hset : sends .idle (Sql.setClientEncoding (Encoding.normalize name))) :
    Heeds sends (setClientEncoding name) a g fun _ a' g' => g'.Serves script a' := by
  unfold setClientEncoding
  refine heeds_bind_silent (.guarded g) ?_
  by_cases hname : g.info.map (·.encoding) ≠ some (Encoding.normalize name)
  · rw [if_pos hname]
    refine heeds_bind ((heeds_endBlock hhonest h (Or.inr rfl) hend).mono ?_)
    rintro r a' g' ⟨h', -, hready⟩
    refine ⟨fun x hx => ?_, fun f _ => h'⟩
    have hsends : sends a'.transaction (Sql.setClientEncoding (Encoding.normalize name)) := by
      rw [h'.idle_of_ready (hready x hx)]
      exact hset
    refine heeds_bind ((heeds_command_of_isPlain hhonest h' (isPlain_setClientEncoding _) hsends).mono ?_)
    rintro r a'' g'' ⟨s, rfl, h''⟩
    refine ⟨fun _ _ => heeds_of_runs (.update _ _) ?_, fun f _ => h''⟩
    refine ⟨h''.session, h''.inFlight, ?_⟩
    cases h''.agrees with
    | ready hstatus hidle => exact .ready hstatus hidle
    | inBlock hstatus hin hlevel hbegun => exact .inBlock hstatus hin hlevel hbegun
  · rw [if_neg hname]
    exact heeds_of_runs (.pure _ _) h

/-! ## Setting the session up again -/

theorem isPlain_statement (q : SetupQuery) : Sql.IsPlain q.statement := by
  cases q with
  | dateStyle | clientEncoding => exact ⟨by decide, by decide, by decide⟩

theorem heeds_recordHandshake (h : g.Idles script a) :
    Heeds sends recordHandshake a g fun _ a' g' => g'.Idles script a' := by
  obtain ⟨s, hsession, hs⟩ := h.session
  unfold recordHandshake
  refine heeds_bind (heeds_ask hsession (by simp) ⟨?_, by simp⟩)
  rintro standard -
  refine heeds_bind (heeds_ask rfl (by simp) ⟨?_, by simp⟩)
  rintro serverVersion -
  refine heeds_bind (heeds_ask rfl (by simp) ⟨?_, by simp⟩)
  rintro protocolVersion -
  exact heeds_of_runs (.update _ _) ⟨⟨s, rfl, hs⟩, h.inFlight, h.idle⟩

theorem heeds_noteAnswer (h : g.Idles script a) (q : SetupQuery) (answer : Option QueryResult) :
    Heeds sends (noteAnswer q answer) a g fun _ a' g' => g'.Idles script a' := by
  unfold noteAnswer
  refine heeds_bind_silent (.guarded g) ?_
  cases hnote : q.note answer g.progress with
  | error fault => exact heeds_bind_error (.lift rfl g) h
  | ok progress =>
    refine heeds_bind_silent (.lift rfl g) ?_
    exact heeds_of_runs (.update _ _) ⟨h.session, h.inFlight, h.idle⟩

theorem heeds_askQuery (h : g.Idles script a) (q : SetupQuery) (hshow : sends .idle q.statement) :
    Heeds sends (askQuery q) a g fun _ a' g' => g'.Idles script a' := by
  obtain ⟨s, hsession, hs⟩ := h.session
  have hsends : sends a.transaction q.statement := by
    rw [h.idle]
    exact hshow
  have hfollows := hs.respond (.exec q.statement) (by simp)
  rw [Account.after_exec_of_idle (isPlain_statement q) h.idle] at hfollows
  unfold askQuery
  refine heeds_bind (heeds_ask hsession (fun _ heq => by cases heq; exact hsends) ⟨?_, by simp⟩)
  rintro answer -
  rw [Account.after_exec_of_idle (isPlain_statement q) h.idle]
  have hidles : (g.on (WireSession.respond (.exec q.statement) s).2).Idles script a :=
    ⟨⟨_, rfl, hfollows⟩, h.inFlight, h.idle⟩
  cases answer with
  | error text => exact heeds_bind_error (.sent_error text _) hidles
  | ok result => exact heeds_bind_silent (.sent_ok result _) (heeds_noteAnswer hidles q _)

/-- The setup sends its questions to an idle session, and leaves it idle. -/
theorem heeds_runSetup (h : g.Idles script a) (level : Isolation)
    (hshow : ∀ q : SetupQuery, sends .idle q.statement) :
    Heeds sends (runSetup level) a g fun r a' g' =>
      g'.Idles script a' ∧ ∀ x, r = .ok x → g'.status = .ready := by
  have hquestions : ∀ (qs : List SetupQuery) {a : Account} {g : Guarded ScriptedSession},
      g.Idles script a →
        Heeds sends (qs.forM askQuery) a g fun _ a' g' => g'.Idles script a' := by
    intro qs
    induction qs with
    | nil => exact fun h => heeds_of_runs (.pure () _) h
    | cons q qs ih =>
      intro a g h
      refine heeds_bind ((heeds_askQuery h q (hshow q)).mono fun r a' g' h' => ?_)
      exact ⟨fun _ _ => ih h', fun f _ => h'⟩
  unfold runSetup
  refine heeds_bind ((heeds_recordHandshake h).mono fun r a₁ g₁ h₁ => ?_)
  refine ⟨fun _ _ => ?_, fun f _ => ⟨h₁, fun x hx => nomatch hx⟩⟩
  refine heeds_bind ((hquestions _ h₁).mono fun r a₂ g₂ h₂ => ?_)
  refine ⟨fun _ _ => ?_, fun f _ => ⟨h₂, fun x hx => nomatch hx⟩⟩
  unfold completeSetup
  refine heeds_bind_silent (.guarded g₂) (heeds_bind_silent (.update _ _) ?_)
  cases hinfo : g₂.progress.toInfo with
  | error fault =>
    refine heeds_bind_error (.lift rfl _) ⟨?_, fun x hx => nomatch hx⟩
    exact ⟨h₂.session, h₂.inFlight, h₂.idle⟩
  | ok info =>
    refine heeds_bind_silent (.lift rfl _) (heeds_bind_silent (.update _ _) ?_)
    refine heeds_of_runs (.update _ _) ⟨?_, fun _ _ => rfl⟩
    exact ⟨h₂.session, h₂.inFlight, h₂.idle⟩

theorem heeds_orTearDown_of_idles {span : Span ScriptedSession Unit}
    (h : Heeds sends span a g fun r a' g' =>
      g'.Idles script a' ∧ ∀ x, r = .ok x → g'.status = .ready) :
    Heeds sends (orTearDown span) a g fun r a' g' =>
      g'.Tracks script a' ∧ ∀ f, r = .error f → g'.session = none ∧ g'.status = .closed := by
  refine heeds_orTearDown (h.mono fun r a' g' ⟨hidles, hready⟩ => ⟨fun x hx => ?_, fun f _ => ?_⟩)
  · refine ⟨Or.inl ⟨hidles.session, hidles.inFlight, ?_⟩, fun f hf => nomatch hf⟩
    exact .ready (hready x hx) hidles.idle
  · obtain ⟨s, hsession, -⟩ := hidles.session
    exact ⟨s, hsession, fun stash => ⟨Or.inr ⟨rfl, rfl⟩, fun _ _ => ⟨rfl, rfl⟩⟩⟩

/-- The setup of a session that has just been made; where it fails, the connection is closed. -/
theorem heeds_establish (h : g.Idles script a) (level : Isolation)
    (hshow : ∀ q : SetupQuery, sends .idle q.statement) :
    Heeds sends (establish level) a g fun r a' g' =>
      g'.Tracks script a' ∧ ∀ f, r = .error f → g'.session = none ∧ g'.status = .closed :=
  heeds_orTearDown_of_idles (heeds_runSetup h level hshow)

/-- A reset leaves the session idle, whatever the connection was in before. -/
theorem heeds_reopen (h : g.Serves script a) (level : Isolation)
    (hshow : ∀ q : SetupQuery, sends .idle q.statement) :
    Heeds sends (reopen level) a g fun _ a' g' => g'.Tracks script a' := by
  obtain ⟨s, hsession, hs⟩ := h.session
  have hfollows := hs.respond .reset (by simp)
  have hidles : (g.on (WireSession.respond .reset s).2).Idles script
      { a with transaction := .idle } := ⟨⟨_, rfl, hfollows⟩, h.inFlight, rfl⟩
  have hsetup : Heeds sends (do
      sent (← ask .reset)
      runSetup level) a g
      fun r a' g' => g'.Idles script a' ∧ ∀ x, r = .ok x → g'.status = .ready := by
    refine heeds_bind (heeds_ask hsession (by simp) ⟨?_, by simp⟩)
    rintro answer -
    cases answer with
    | error text => exact heeds_bind_error (.sent_error text _) ⟨hidles, fun x hx => nomatch hx⟩
    | ok _ => exact heeds_bind_silent (.sent_ok _ _) (heeds_runSetup hidles level hshow)
  exact (heeds_orTearDown_of_idles hsetup).mono fun _ _ _ h' => h'.1

/-! ## Other operations -/

/-- A call that is no statement and that leaves the transaction alone. -/
theorem heeds_ask_aside (h : g.Serves script a) {call : Call} (hexec : ∀ sql, call ≠ .exec sql)
    (hsend : ∀ sql, call ≠ .send sql) (hreset : call ≠ .reset) :
    Heeds sends (ask call) a g fun r a' g' => (∃ x, r = .ok x) ∧ g'.Serves script a' := by
  obtain ⟨s, hsession, hs⟩ := h.session
  have hsame : ∀ answer, a.after { call, answer } = a := by
    intro answer
    cases call with
    | exec sql => exact absurd rfl (hexec sql)
    | reset => exact absurd rfl hreset
    | _ => rfl
  have hfollows := hs.respond call hsend
  refine heeds_ask hsession (fun sql heq => absurd heq (hexec sql)) ⟨⟨_, rfl⟩, ?_⟩
  rw [hsame] at hfollows ⊢
  exact h.on hfollows

/-- A poll of a blocking connection only reads input. -/
theorem heeds_poll (h : g.Serves script a) (level : Isolation) :
    Heeds sends (poll false level) a g fun _ a' g' => g'.Serves script a' := by
  have hready : Heeds sends stepReady a g fun _ a' g' => g'.Serves script a' := by
    unfold stepReady
    refine heeds_bind_silent (.guarded g) ?_
    rw [h.inFlight]
    refine heeds_bind ((heeds_ask_aside h (by simp) (by simp) (by simp)).mono ?_)
    rintro r a' g' ⟨⟨answer, rfl⟩, h'⟩
    refine ⟨fun _ hx => ?_, fun f hf => nomatch hf⟩
    cases hx
    cases answer with
    | error text => exact heeds_bind_error (.sent_error text _) h'
    | ok _ => exact heeds_bind_silent (.sent_ok _ _) (heeds_of_runs (.pure _ _) h')
  unfold poll
  refine heeds_bind_silent (.guarded g) ?_
  rw [Bool.false_and, if_neg Bool.false_ne_true]
  unfold step
  refine heeds_bind_silent (.guarded g) ?_
  have husable := h.isUsable
  cases hstatus : g.status with
  | ready | inBlock => exact hready
  | _ =>
    rw [hstatus] at husable
    exact nomatch husable

end Span

/-! ## Operations -/

/-- An operation with which a caller does not open or end a block behind the connection's back. -/
def Operation.IsPlain : Operation → Prop
  | .execute sql => Sql.IsPlain sql
  | _ => True

/-- An operation that runs a statement, or only asks whether something may be made. -/
def Operation.KeepsLevel : Operation → Prop
  | .execute _ | .admitCursor | .admitLargeObject => True
  | _ => False

/-- The statements that an operation sends at an isolation level, each with the status of the
transaction in which it sends it. -/
def Operation.Sends (level : Isolation) : Operation → TransactionStatus → String → Prop
  | .execute statement, status, sql =>
    (level.beginStatement = some sql ∧ status = .idle) ∨
      (sql = statement ∧ (level ≠ .autocommit → status.IsBlock))
  | .commit, status, sql => sql = Sql.commit ∧ status.IsBlock
  | .rollback, status, sql | .setIsolation _, status, sql => sql = Sql.rollback ∧ status.IsBlock
  | .setClientEncoding name, status, sql =>
    (sql = Sql.rollback ∧ status.IsBlock) ∨
      (sql = Sql.setClientEncoding (Encoding.normalize name) ∧ status = .idle)
  | .reset, status, sql => (∃ q : SetupQuery, sql = q.statement) ∧ status = .idle
  | _, _, _ => False

/-- No plain operation opens a block inside of one, or ends one outside. -/
theorem Operation.allows_of_sends {level : Isolation} {op : Operation} (hplain : op.IsPlain)
    {status : TransactionStatus} {sql : String} (h : op.Sends level status sql) :
    status.Allows sql := by
  cases op with
  | execute statement =>
    obtain ⟨hbegin, hidle⟩ | ⟨rfl, -⟩ := h
    · exact allows_of_beginStatement hbegin hidle
    · exact allows_of_isPlain hplain status
  | commit => exact allows_of_closesBlock (Or.inl h.1) h.2
  | rollback | setIsolation level => exact allows_of_closesBlock (Or.inr h.1) h.2
  | setClientEncoding name =>
    obtain ⟨hrollback, hin⟩ | ⟨rfl, -⟩ := h
    · exact allows_of_closesBlock (Or.inr hrollback) hin
    · exact allows_of_isPlain (Span.isPlain_setClientEncoding _) status
  | reset =>
    obtain ⟨⟨q, rfl⟩, -⟩ := h
    exact allows_of_isPlain (Span.isPlain_statement q) status
  | _ => exact h.elim

namespace Connection

open Guarded SessionLayer.Span

variable {script : Script} {sends : TransactionStatus → String → Prop} {a : Account}
  {g : Guarded ScriptedSession} {c : Connection ScriptedSession}

theorem heeds_blocking (hblocking : c.asynchronous = false) (h : g.Tracks script a) {α : Type}
    {operation : String} {span : Span ScriptedSession α}
    (hspan : g.Serves script a → Heeds sends span a g fun _ a' g' => g'.Tracks script a') :
    Heeds sends (c.blocking operation span) a g fun _ a' g' => g'.Tracks script a' := by
  unfold blocking ensureBlocking
  refine heeds_bind_ensureOpen (fun _ => h) fun hopen => ?_
  rw [if_neg (by simp [hblocking])]
  refine heeds_bind_silent (.pure () g) (hspan ?_)
  exact h.resolve_right fun hclosed => hopen hclosed.2

theorem heeds_query (h : g.Tracks script a) {call : Call} (hexec : ∀ sql, call ≠ .exec sql)
    (hsend : ∀ sql, call ≠ .send sql) (hreset : call ≠ .reset) :
    Heeds sends (query call) a g fun _ a' g' => g'.Tracks script a' := by
  unfold query
  refine heeds_bind_ensureOpen (fun _ => h) fun hopen => ?_
  have hserves := h.resolve_right fun hclosed => hopen hclosed.2
  exact (heeds_ask_aside hserves hexec hsend hreset).mono fun _ _ _ h' => Or.inl h'.2

/-- An operation sends what it may send, and keeps the connection in step with its server. -/
theorem heeds_span (hhonest : script.IsHonest) (hblocking : c.asynchronous = false)
    (h : g.Tracks script a) (op : Operation) (hplain : op.IsPlain) :
    Heeds (op.Sends g.isolation) (c.span op) a g fun _ a' g' => g'.Tracks script a' := by
  have husable : Heeds (fun _ _ => False) (do
      if !(← Span.guarded).status.isUsable then throw .setupUnderway : Span ScriptedSession Unit) a g
      fun _ a' g' => g'.Tracks script a' := by
    refine heeds_bind_silent (.guarded g) ?_
    split
    · exact heeds_of_runs (.throw _ g) h
    · exact heeds_of_runs (.pure () g) h
  cases op with
  | poll =>
    rcases h with hserves | ⟨hsession, hstatus⟩
    · show Heeds _ (Span.poll c.asynchronous c.setupIsolation) a g _
      rw [hblocking]
      exact (heeds_poll hserves _).mono fun _ _ _ h' => Or.inl h'
    · show Heeds _ (Span.poll c.asynchronous c.setupIsolation) a g _
      rw [hblocking]
      refine heeds_of_runs (r := .error .closed) (.bind_silent (.guarded g) ?_) (Or.inr ⟨hsession, hstatus⟩)
      rw [Bool.false_and, if_neg Bool.false_ne_true]
      refine .bind_silent (.guarded g) ?_
      rw [hstatus]
      exact .throw _ g
  | close =>
    refine heeds_bind_silent (.guarded g) ?_
    rcases h with hserves | ⟨hsession, hstatus⟩
    · obtain ⟨s, hs, -⟩ := hserves.session
      rw [if_pos (by simpa [Guarded.isClosed] using hserves.ne_closed)]
      refine ⟨_, _, _, .tearDown hs, inPlace_farewell s, Or.inr ⟨rfl, rfl⟩⟩
    · rw [if_neg (by simp [Guarded.isClosed, hstatus])]
      exact heeds_of_runs (.pure () g) (Or.inr ⟨hsession, hstatus⟩)
  | reset =>
    refine heeds_blocking hblocking h fun hserves => ?_
    exact heeds_reopen hserves _ fun q => ⟨⟨q, rfl⟩, rfl⟩
  | commit =>
    refine heeds_blocking hblocking h fun hserves => ?_
    refine (heeds_endBlock hhonest hserves (Or.inl rfl) fun status hin => ⟨rfl, hin⟩).mono ?_
    exact fun _ _ _ h' => Or.inl h'.1
  | rollback =>
    refine heeds_blocking hblocking h fun hserves => ?_
    refine (heeds_endBlock hhonest hserves (Or.inr rfl) fun status hin => ⟨rfl, hin⟩).mono ?_
    exact fun _ _ _ h' => Or.inl h'.1
  | setIsolation level =>
    refine heeds_blocking hblocking h fun hserves => ?_
    refine (heeds_setIsolation hhonest hserves level fun status hin => ⟨rfl, hin⟩).mono ?_
    exact fun _ _ _ h' => Or.inl h'
  | setClientEncoding name =>
    refine heeds_blocking hblocking h fun hserves => ?_
    refine (heeds_setClientEncoding hhonest hserves name (fun status hin => Or.inl ⟨rfl, hin⟩)
      (Or.inr ⟨rfl, rfl⟩)).mono ?_
    exact fun _ _ _ h' => Or.inl h'
  | execute sql =>
    refine heeds_blocking hblocking h fun hserves => ?_
    refine (heeds_execute hhonest hserves hplain (fun statement hbegin => Or.inl ⟨hbegin, rfl⟩)
      (fun status hin => Or.inr ⟨rfl, hin⟩)).mono ?_
    exact fun _ _ _ h' => Or.inl h'.1
  | submit sql owner =>
    refine heeds_bind_ensureOpen (fun _ => h) fun hopen => ?_
    rw [hblocking]
    exact heeds_of_runs (.throw _ g) h
  | transactionStatus => exact heeds_query h (by simp) (by simp) (by simp)
  | parameterStatus name => exact heeds_query h (by simp) (by simp) (by simp)
  | backendPid => exact heeds_query h (by simp) (by simp) (by simp)
  | socket => exact heeds_query h (by simp) (by simp) (by simp)
  | isExecuting =>
    refine heeds_bind_ensureOpen (fun _ => h) fun hopen => heeds_bind_silent (.guarded g) ?_
    exact heeds_of_runs (.pure _ g) h
  | admitCursor => exact heeds_bind_ensureOpen (fun _ => h) fun hopen => husable
  | admitLargeObject => exact heeds_blocking hblocking h fun _ => husable

/-- What a span leaves behind is in step with the server if the span ends in step with it. -/
theorem tracks_run {α : Type} {span : Span ScriptedSession α}
    (h : Heeds sends span a g fun _ a' g' => g'.Tracks script a') :
    InPlace sends a (span.run g).exchanges ∧
      (span.run g).guarded.Tracks script (a.along (span.run g).exchanges) := by
  obtain ⟨hplaced, g', htracks, ⟨hnone, hguarded⟩ | ⟨s, hsome, hguarded⟩⟩ := h.run
  · rw [hguarded]
    obtain hserves | ⟨-, hstatus⟩ := htracks
    · obtain ⟨s, hsession, -⟩ := hserves.session
      exact nomatch hnone.symm.trans hsession
    · exact ⟨hplaced, Or.inr ⟨hnone, hstatus⟩⟩
  · rw [hguarded]
    obtain hserves | ⟨hnone, -⟩ := htracks
    · obtain ⟨s', hs', hfollows⟩ := hserves.session
      cases hsome.symm.trans hs'
      have hrelieved : (relieved s).Follows script (a.along (span.run g).exchanges) :=
        ⟨hfollows.script, hfollows.transaction⟩
      exact ⟨hplaced, Or.inl ((hserves.on hrelieved).stashing .empty)⟩
    · exact nomatch hnone.symm.trans hsome

/-- An operation keeps a blocking connection in step with its server, and sends its statements in the
statuses of the transaction that `Operation.Sends` lists. -/
theorem tracks_perform (hhonest : script.IsHonest) (hblocking : c.asynchronous = false)
    (h : c.guarded.Tracks script a) (op : Operation) (hplain : op.IsPlain) :
    InPlace (op.Sends c.guarded.isolation) a (c.perform op).exchanges ∧
      (c.perform op).guarded.Tracks script (a.along (c.perform op).exchanges) :=
  tracks_run (heeds_span hhonest hblocking h op hplain)

/-- Statements leave the isolation level as it is. -/
theorem isolation_perform (h : c.guarded.Tracks script a) {op : Operation} (hop : op.KeepsLevel) :
    (c.perform op).guarded.isolation = c.guarded.isolation := by
  let s : SpanState ScriptedSession := { guarded := c.guarded }
  have hlevel : Ends (c.span op) s fun _ t => t.guarded.isolation = c.guarded.isolation := by
    have husable : Ends (do
        if !(← Span.guarded).status.isUsable then throw .setupUnderway : Span ScriptedSession Unit) s
        fun _ t => t.guarded.isolation = c.guarded.isolation := by
      apply ends_bind_ok (exec_guarded s)
      split <;> rfl
    cases op with
    | execute sql =>
      refine ends_blocking c (fun _ => rfl) (fun _ => rfl) fun hopen _ => ?_
      obtain ⟨session, hsession, -⟩ := (h.resolve_right fun hclosed => hopen hclosed.2).session
      have hsome : s.guarded.session.isSome := by
        show c.guarded.session.isSome
        rw [hsession]
        rfl
      apply (ends_execute hsome sql).mono
      rintro r t ⟨-, next, ht | ⟨-, -, ht⟩⟩
      · rw [ht]
        rfl
      · rw [ht]
        rfl
    | admitCursor => exact ends_bind_ensureOpen (fun _ => rfl) fun _ => husable
    | admitLargeObject => exact ends_blocking c (fun _ => rfl) (fun _ => rfl) fun _ _ => husable
    | _ => exact hop.elim
  obtain ⟨t, ht, -, hguarded | ⟨session, -, hguarded⟩⟩ := run_of_ends hlevel
  · show ((c.span op).run c.guarded).guarded.isolation = _
    rw [hguarded]
    exact ht
  · show ((c.span op).run c.guarded).guarded.isolation = _
    rw [hguarded]
    exact ht

end Connection

end SessionLayer
