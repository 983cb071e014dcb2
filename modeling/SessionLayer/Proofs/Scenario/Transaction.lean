import SessionLayer.Proofs.Connection.Transaction
import SessionLayer.Proofs.Scenario.Operations
import SessionLayer.Proofs.Wire.ScriptedSetup
import SessionLayer.Scenario.Act

/-!
# The transaction status along runs of requests

A `Request` is what a client may ask of one blocking connection, and `Request.Sends` lists the statements
that a request sends, each with the status of the transaction. No listener calls back into the connection.
Along every run of requests the status of the connection agrees with the transaction of the server.
-/

set_option autoImplicit false

namespace SessionLayer

namespace Scenario

/-- What a client asks of a connection. -/
inductive Request where
  | perform (op : Operation)
  | makeCursor (name : Option String)
  | executeCursor (cursor : Nat) (query : String)
  | makeLargeObject (demand : LargeObjectDemand)
  | observe (id : String) (limit : Nat) (steps : List Step)

namespace Request

/-- Runs a request on the connection of the given key. -/
def run {κ σ : Type} [WireSession σ] (react : Reactor κ σ) (key : Nat) : Request → Play κ σ Unit
  | perform op => do let _ ← World.perform react key op
  | makeCursor name => do let _ ← World.makeCursor react key name
  | executeCursor cursor query => do let _ ← World.executeCursor react cursor query
  | makeLargeObject demand => do let _ ← World.makeLargeObject react key demand
  | observe id limit steps => do let _ ← World.observe key id limit steps

/-- A request in which the caller does not open or end a block behind the connection's back. -/
def IsPlain : Request → Prop
  | perform op => op.IsPlain
  | executeCursor _ query => Sql.IsPlain query
  | _ => True

/-- The statement is the one that opens a block at the isolation level, and no block is open. -/
def Begins (level : Isolation) (status : TransactionStatus) (sql : String) : Prop :=
  level.beginStatement = some sql ∧ status = .idle

/-- A statement that a large object is created or opened with. -/
def IsLargeObjectStatement (sql : String) : Prop :=
  ∃ request : LargeObjectRequest,
    request.creation = some sql ∨ ∃ oid, request.opening oid = some sql

/-- The statements that a request sends where the cursors and the isolation level are the given ones,
each with the status of the transaction in which it sends it. -/
def Sends (cursors : List Cursor) (level : Isolation) :
    Request → TransactionStatus → String → Prop
  | perform op, status, sql => op.Sends level status sql
  | executeCursor key query, status, sql =>
    Begins level status sql ∨ ∃ cursor, cursors[key]? = some cursor ∧ sql = cursor.statement query ∧
      (level ≠ .autocommit ∨ cursor.name.isSome → status.IsBlock)
  | makeLargeObject _, status, sql =>
    Begins level status sql ∨ (IsLargeObjectStatement sql ∧ status.IsBlock)
  | _, _, _ => False

end Request

namespace World

/-- A blocking connection of the world, in step with its server. -/
structure Standing (script : Script) (key : Nat) (a : Account) (c : Connection ScriptedSession)
    (w : World Script ScriptedSession) : Prop where
  connection : w.connections[key]? = some c
  blocking : c.asynchronous = false
  tracks : c.guarded.Tracks script a

/-- The second world is further than the first one by exchanges in place, and the connection is still in
step with its server. -/
def Advances (script : Script) (key : Nat) (sends : TransactionStatus → String → Prop) (a : Account)
    (Q : Connection ScriptedSession → Prop) (w w' : World Script ScriptedSession) : Prop :=
  ∃ c xs, Standing script key (a.along xs) c w' ∧ w'.exchanges key = w.exchanges key ++ xs ∧
    InPlace sends a xs ∧ Q c

/-- Where the connection is at the given level, the second world is further than the first one, and
the connection is at the same level. -/
def LevelAdvances (script : Script) (key : Nat) (level : Isolation)
    (sends : TransactionStatus → String → Prop) (w w' : World Script ScriptedSession) : Prop :=
  ∀ a c, Standing script key a c w → c.guarded.isolation = level →
    Advances script key sends a (fun c => c.guarded.isolation = level) w w'

variable {script : Script} {key : Nat} {level : Isolation} {a : Account}
  {sends sends' : TransactionStatus → String → Prop} {c : Connection ScriptedSession}
  {w w' w₁ w₂ : World Script ScriptedSession} {react : Reactor Script ScriptedSession}

/-- Nothing has to happen for a connection to stay in step with its server. -/
theorem Standing.of_alikeAt (h : Standing script key a c w) (halike : AlikeAt key w w') :
    ∃ mailbox, Standing script key a { c with mailbox } w' := by
  obtain ⟨mailbox, hc⟩ := halike.connection c h.connection
  exact ⟨mailbox, hc, h.blocking, h.tracks⟩

theorem LevelAdvances.of_alikeAt (halike : AlikeAt key w w') :
    LevelAdvances script key level sends w w' := by
  intro a c h hlevel
  obtain ⟨mailbox, h'⟩ := h.of_alikeAt halike
  refine ⟨_, [], h', ?_, trivial, hlevel⟩
  rw [halike.exchanges, List.append_nil]

theorem LevelAdvances.trans (h : LevelAdvances script key level sends w w₁)
    (h' : LevelAdvances script key level sends w₁ w₂) :
    LevelAdvances script key level sends w w₂ := by
  intro a c hstanding hlevel
  obtain ⟨c₁, xs, hstanding₁, hexchanges₁, hplaced₁, hlevel₁⟩ := h a c hstanding hlevel
  obtain ⟨c₂, ys, hstanding₂, hexchanges₂, hplaced₂, hlevel₂⟩ := h' _ c₁ hstanding₁ hlevel₁
  refine ⟨c₂, xs ++ ys, ?_, ?_, inPlace_append.2 ⟨hplaced₁, hplaced₂⟩, hlevel₂⟩
  · rw [Account.along_append]
    exact hstanding₂
  · rw [hexchanges₂, hexchanges₁, List.append_assoc]

instance LevelAdvances.course (script : Script) (key : Nat) (level : Isolation)
    (sends : TransactionStatus → String → Prop) : Course (LevelAdvances script key level sends) where
  refl := fun w => .of_alikeAt (.refl key w)
  trans := .trans
  quiet := fun halike => .of_alikeAt (.of_alike halike key)

/-! ## Operations -/

/-- An operation on a connection into which no listener calls back. -/
theorem advances_perform (hhonest : script.IsHonest) (hreact : Spares react key)
    (h : Standing script key a c w) {op : Operation} (hplain : op.IsPlain) :
    Advances script key (op.Sends c.guarded.isolation) a
      (fun c' => op.KeepsLevel → c'.guarded.isolation = c.guarded.isolation)
      w ((perform react key op).run w).2 := by
  obtain ⟨w', mailbox, hrun, hc', hexchanges⟩ := perform_of_spares hreact h.connection op
  obtain ⟨hplaced, htracks⟩ := Connection.tracks_perform hhonest h.blocking h.tracks op hplain
  rw [hrun]
  exact ⟨_, _, ⟨hc', h.blocking, htracks⟩, hexchanges, hplaced,
    fun hop => Connection.isolation_perform h.tracks hop⟩

/-- Along a statement the connection stays at its level. -/
theorem keeps_perform_level (hhonest : script.IsHonest) (hreact : Spares react key) {op : Operation}
    (hplain : op.IsPlain) (hop : op.KeepsLevel)
    (hsends : ∀ status sql, op.Sends level status sql → sends status sql) :
    Keeps (LevelAdvances script key level sends) (perform react key op) := by
  rintro w a c h rfl
  obtain ⟨c', xs, h', hexchanges, hplaced, hlevel⟩ := advances_perform hhonest hreact h hplain
  exact ⟨c', xs, h', hexchanges, hplaced.mono hsends, hlevel hop⟩

/-! ## Requests -/

theorem isPlain_statement {cursor : Cursor} {query : String} (hquery : Sql.IsPlain query) :
    Sql.IsPlain (cursor.statement query) := by
  unfold Cursor.statement
  cases cursor.name with
  | none => exact hquery
  | some name =>
    have hhead : "DECLARE ".toList.head? = some 'D' := by decide
    exact Sql.isPlain_of_head? (Sql.head?_append (Sql.head?_append (Sql.head?_append hhead _) _) _)
      (by decide)

theorem isPlain_of_isLargeObjectStatement {sql : String} (h : Request.IsLargeObjectStatement sql) :
    Sql.IsPlain sql := by
  have himport : "SELECT lo_import(".toList.head? = some 'S' := by decide
  have hcreate : "SELECT lo_create(".toList.head? = some 'S' := by decide
  have hopen : "SELECT lo_open(".toList.head? = some 'S' := by decide
  suffices hhead : sql.toList.head? = some 'S' from Sql.isPlain_of_head? hhead (by decide)
  obtain ⟨request, hcreation | ⟨oid, hopening⟩⟩ := h
  · unfold LargeObjectRequest.creation at hcreation
    split at hcreation
    · exact nomatch hcreation
    · split at hcreation
      · cases hcreation
        exact Sql.head?_append (Sql.head?_append (Sql.head?_append (Sql.head?_append himport _) _) _) _
      · cases hcreation
        exact Sql.head?_append (Sql.head?_append hcreate _) _
  · unfold LargeObjectRequest.opening at hopening
    split at hopening
    · exact nomatch hopening
    · cases hopening
      exact Sql.head?_append (Sql.head?_append (Sql.head?_append (Sql.head?_append hopen _) _) _) _

theorem keeps_executeCursor_of_ne (hreact : Spares react key) {cursor : Nat} {query : String}
    (hcursor : ∀ made, w.cursors[cursor]? = some made → made.connection ≠ key) :
    AlikeAt key w ((executeCursor react cursor query).run w).2 := by
  have changed : ∀ f : Cursor → Cursor, Keeps (AlikeAt key)
      (modify (modifyCursor cursor f) : Play Script ScriptedSession Unit) :=
    fun f => .change fun w => .of_eq rfl rfl rfl
  unfold executeCursor
  rw [StateT.run_bind, StateT.run_get, pure_bind]
  dsimp only
  split
  · rename_i made connection hmade _
    have hperform := fun op => keeps_perform_of_ne hreact (hcursor made hmade) op
    split
    · refine Keeps.bind (changed _) (fun _ => .bind (hperform _) fun result => ?_) w
      split
      · exact .bind (changed _) fun _ => .pure _
      · exact .pure _
    · split
      · exact .refl key w
      · exact Keeps.bind (hperform _) (fun _ => .bind (changed _) fun _ => .pure _) w
  · exact .refl key w

/-- A statement on a cursor, which a named cursor runs inside of a block only. -/
theorem advances_executeCursor (hhonest : script.IsHonest) (hreact : Spares react key)
    (h : Standing script key a c w) {cursor : Nat} {query : String} (hquery : Sql.IsPlain query) :
    LevelAdvances script key c.guarded.isolation
      ((Request.executeCursor cursor query).Sends w.cursors c.guarded.isolation) w
      ((executeCursor react cursor query).run w).2 := by
  by_cases hcursor : ∃ made, w.cursors[cursor]? = some made ∧ made.connection = key
  · obtain ⟨made, hmade, rfl⟩ := hcursor
    unfold executeCursor
    rw [StateT.run_bind, StateT.run_get, pure_bind]
    simp only [hmade, Option.bind_some, h.connection, h.blocking]
    rw [if_neg Bool.false_ne_true]
    split
    · exact Course.refl w
    · rename_i hnamed
      have hplain : (Operation.execute (made.statement query)).IsPlain := isPlain_statement hquery
      have changed : ∀ f : Cursor → Cursor, Keeps (LevelAdvances script made.connection
          c.guarded.isolation ((Request.executeCursor cursor query).Sends w.cursors
            c.guarded.isolation)) (modify (modifyCursor cursor f)) :=
        fun f => .change fun w => .of_eq rfl rfl rfl
      refine Keeps.bind (keeps_perform_level hhonest hreact hplain trivial ?_)
        (fun _ => .bind (changed _) fun _ => .pure _) w
      rintro status sql (hbegins | ⟨rfl, hblock⟩)
      · exact Or.inl hbegins
      · refine Or.inr ⟨made, hmade, rfl, fun hneeds => hblock ?_⟩
        rcases hneeds with hlevel | hname
        · exact hlevel
        · exact fun hlevel => hnamed ⟨hname, hlevel⟩
  · exact .of_alikeAt (keeps_executeCursor_of_ne hreact fun made hmade hkey =>
      hcursor ⟨made, hmade, hkey⟩)

/-- The plain large-object factory runs its statements inside of a block only. -/
theorem keeps_openLargeObject_level (hhonest : script.IsHonest) (hreact : Spares react key)
    (demand : LargeObjectDemand) (cursors : List Cursor) (request : LargeObjectRequest) :
    Keeps (LevelAdvances script key level ((Request.makeLargeObject demand).Sends cursors level))
      (openLargeObject react key request) := by
  by_cases hlevel : level = .autocommit
  · intro w a c h hc
    have hrefused : (openLargeObject react key request).run w =
        (.error .largeObjectAutocommit, w) := by
      unfold openLargeObject
      rw [StateT.run_bind, StateT.run_get, pure_bind, h.connection, Option.any_some,
        if_pos (decide_eq_true (hc.trans hlevel))]
      rfl
    rw [hrefused]
    exact LevelAdvances.of_alikeAt (.refl key w) a c h hc
  · have hperform : ∀ statement, Request.IsLargeObjectStatement statement →
        Keeps (LevelAdvances script key level ((Request.makeLargeObject demand).Sends cursors level))
          (perform react key (.execute statement)) := by
      intro statement hstatement
      have hplain := isPlain_of_isLargeObjectStatement hstatement
      refine keeps_perform_level hhonest hreact hplain trivial ?_
      rintro status sql (hbegins | ⟨rfl, hblock⟩)
      · exact Or.inl hbegins
      · exact Or.inr ⟨hstatement, hblock hlevel⟩
    exact keeps_openLargeObject (fun statement h => hperform statement ⟨request, Or.inl h⟩)
      (fun oid statement h => hperform statement ⟨request, Or.inr ⟨oid, h⟩⟩)

/-- A request keeps a blocking connection in step with its server, and sends its statements in place. -/
theorem advances_request (hhonest : script.IsHonest) (hreact : Spares react key)
    (h : Standing script key a c w) (r : Request) (hplain : r.IsPlain) :
    Advances script key (r.Sends w.cursors c.guarded.isolation) a (fun _ => True) w
      ((r.run react key).run w).2 := by
  have hadmitted : ∀ op : Operation, op = .admitCursor ∨ op = .admitLargeObject → ∀ sends,
      Keeps (LevelAdvances script key c.guarded.isolation sends) (perform react key op) := by
    rintro op (rfl | rfl) sends
    · exact keeps_perform_level hhonest hreact trivial trivial fun _ _ => False.elim
    · exact keeps_perform_level hhonest hreact trivial trivial fun _ _ => False.elim
  have hany : ∀ {w' : World Script ScriptedSession}, LevelAdvances script key c.guarded.isolation
      (r.Sends w.cursors c.guarded.isolation) w w' →
      Advances script key (r.Sends w.cursors c.guarded.isolation) a (fun _ => True) w w' := by
    intro w' hlevel
    obtain ⟨c', xs, h', hexchanges, hplaced, -⟩ := hlevel a c h rfl
    exact ⟨c', xs, h', hexchanges, hplaced, trivial⟩
  cases r with
  | perform op =>
    obtain ⟨c', xs, h', hexchanges, hplaced, -⟩ := advances_perform hhonest hreact h hplain
    exact ⟨c', xs, h', hexchanges, hplaced, trivial⟩
  | makeCursor name => exact hany (keeps_makeCursor (hadmitted _ (Or.inl rfl) _) name w)
  | executeCursor cursor query => exact hany (advances_executeCursor hhonest hreact h hplain)
  | makeLargeObject demand =>
    exact hany (keeps_makeLargeObject (hadmitted _ (Or.inr rfl) _)
      (keeps_openLargeObject_level hhonest hreact demand w.cursors) demand w)
  | observe id limit steps =>
    have hmailbox := Alike.modifyConnection w key
      (f := fun c => { c with mailbox := c.mailbox.addObserver w.listeners.length })
      fun c => ⟨_, rfl⟩
    have halike : w.Alike ((Request.run react key (.observe id limit steps)).run w).2 :=
      hmailbox.trans (.of_eq rfl rfl rfl)
    exact hany (Course.quiet halike)

/-! ## Runs -/

theorem Advances.mono {Q R : Connection ScriptedSession → Prop} (h : Advances script key sends a Q w w')
    (hsends : ∀ status sql, sends status sql → sends' status sql) (hQR : ∀ c, Q c → R c) :
    Advances script key sends' a R w w' := by
  obtain ⟨c, xs, hstanding, hexchanges, hplaced, hQ⟩ := h
  exact ⟨c, xs, hstanding, hexchanges, hplaced.mono hsends, hQR c hQ⟩

/-- No plain request opens a block inside of one, or ends one outside. -/
theorem allows_of_sends {r : Request} (hplain : r.IsPlain) {cursors : List Cursor}
    {status : TransactionStatus} {sql : String} (h : r.Sends cursors level status sql) :
    status.Allows sql := by
  cases r with
  | perform op => exact Operation.allows_of_sends hplain h
  | executeCursor cursor query =>
    obtain ⟨hbegin, hidle⟩ | ⟨made, -, rfl, -⟩ := h
    · exact allows_of_beginStatement hbegin hidle
    · exact allows_of_isPlain (isPlain_statement hplain) status
  | makeLargeObject demand =>
    obtain ⟨hbegin, hidle⟩ | ⟨hstatement, -⟩ := h
    · exact allows_of_beginStatement hbegin hidle
    · exact allows_of_isPlain (isPlain_of_isLargeObjectStatement hstatement) status
  | makeCursor name | observe id limit steps => exact h.elim

/-- Plain requests one after the other keep a blocking connection in step with its server. -/
theorem advances_requests (hhonest : script.IsHonest) (hreact : Spares react key)
    (requests : List Request) (hplain : ∀ r ∈ requests, r.IsPlain) (h : Standing script key a c w) :
    Advances script key TransactionStatus.Allows a (fun _ => True) w
      ((requests.forM (Request.run react key)).run w).2 := by
  induction requests generalizing a c w with
  | nil => exact ⟨c, [], h, (List.append_nil _).symm, trivial, trivial⟩
  | cons r requests ih =>
    have hr := hplain r List.mem_cons_self
    obtain ⟨c₁, xs, h₁, hexchanges₁, hplaced₁, -⟩ := (advances_request hhonest hreact h r hr).mono
      (fun _ _ => allows_of_sends hr) fun _ => id
    obtain ⟨c₂, ys, h₂, hexchanges₂, hplaced₂, -⟩ :=
      ih (fun r hmem => hplain r (List.mem_cons_of_mem _ hmem)) h₁
    have hrun : ((r :: requests).forM (Request.run react key)).run w =
        (requests.forM (Request.run react key)).run ((r.run react key).run w).2 := rfl
    rw [hrun]
    refine ⟨c₂, xs ++ ys, ?_, ?_, inPlace_append.2 ⟨hplaced₁, hplaced₂⟩, trivial⟩
    · rw [Account.along_append]
      exact h₂
    · rw [hexchanges₂, hexchanges₁, List.append_assoc]

/-- A blocking connection is in step with its server from the beginning. -/
theorem advances_openConnection {dsn : String} {settings : Settings} {hooked : Bool} {key : Nat}
    {opened : World Script ScriptedSession}
    (hopen : (openConnection react dsn false settings hooked).run w = (.ok key, opened)) :
    key = w.connections.length ∧
      Advances w.connector key TransactionStatus.Allows {} (fun _ => True) w opened := by
  cases hfailure : w.connector.connectFailure with
  | some text =>
    have herror := openConnection_of_error react false (Script.connect_of_some hfailure true dsn)
      settings hooked
    rw [hopen] at herror
    exact nomatch herror
  | none =>
    let session := ScriptedSession.start w.connector []
    let c : Connection ScriptedSession :=
      .create w.connections.length dsn false hooked settings
    have hidles : (c.guarded.on session).Idles w.connector {} := ⟨⟨session, rfl, rfl, rfl⟩, rfl, rfl⟩
    have hheeds : Span.Heeds TransactionStatus.Allows (openingSpan session true c) {} c.guarded
        fun r a' g' => g'.Tracks w.connector a' ∧
          ∀ f, r = .error f → g'.session = none ∧ g'.status = .closed :=
      Span.heeds_bind_silent (.update _ _) (Span.heeds_establish hidles c.setupIsolation fun q =>
        allows_of_isPlain (Span.isPlain_statement q) _)
    have hcompletion : ((openingSpan session true c).run c.guarded).completion = none := by
      obtain ⟨xs, r, g', hruns, -⟩ := hheeds
      exact hruns.completion_run
    have hclosed : ∀ f, ((openingSpan session true c).run c.guarded).result = .error f →
        ((openingSpan session true c).run c.guarded).guarded.session = none ∧
          ((openingSpan session true c).run c.guarded).guarded.status = .closed := by
      intro f hf
      obtain ⟨-, g', ⟨-, hshut⟩, ⟨hnone, hguarded⟩ | ⟨s, hsome, hguarded⟩⟩ := hheeds.run
      · rw [hguarded]
        exact hshut f hf
      · exact nomatch hsome.symm.trans (hshut f hf).1
    obtain ⟨hplaced, htracks⟩ :=
      Connection.tracks_run (hheeds.mono fun r a' g' h => (h.1 : g'.Tracks w.connector a'))
    generalize houtcome : (openingSpan session true c).run c.guarded = outcome
      at hcompletion hclosed hplaced htracks
    obtain ⟨w', hrun, hc', hexchanges⟩ := openConnection_of_ok react false
      (Script.connect_of_none hfailure true dsn) settings hooked rfl houtcome hcompletion hclosed
    rw [hopen] at hrun
    cases hresult : outcome.result with
    | error f =>
      rw [hresult] at hrun
      exact nomatch hrun
    | ok _ =>
      rw [hresult] at hrun
      cases hrun
      exact ⟨rfl, _, _, ⟨hc' hresult, rfl, htracks⟩, hexchanges, hplaced, trivial⟩

/-- The status of a connection that is open tells in which transaction the server is. -/
theorem Standing.agrees (h : Standing script key a c w) (hopen : c.isClosed = false) :
    ∃ s : ScriptedSession, c.guarded.session = some s ∧ s.transaction = a.transaction ∧
      (c.guarded.status = .inBlock ↔ s.transaction.IsBlock) ∧
      (c.guarded.status = .ready ↔ s.transaction = .idle) ∧
      (c.guarded.status = .inBlock → a.begun = c.guarded.isolation.beginStatement) := by
  have hstatus : c.guarded.status ≠ .closed := by
    intro hclosed
    rw [Connection.isClosed, Guarded.isClosed, hclosed] at hopen
    cases hopen
  have hserves := h.tracks.resolve_right fun hclosed => hstatus hclosed.2
  obtain ⟨s, hsession, hfollows⟩ := hserves.session
  refine ⟨s, hsession, hfollows.transaction, ?_⟩
  rw [hfollows.transaction]
  cases hserves.agrees with
  | ready hready hidle =>
    have hno : ¬ a.transaction.IsBlock := by
      rw [hidle]
      rintro (hin | hin) <;> cases hin
    have hnot : Status.ready ≠ .inBlock := by decide
    rw [hready]
    exact ⟨⟨fun hin => absurd hin hnot, fun hin => absurd hin hno⟩, ⟨fun _ => hidle, fun _ => rfl⟩,
      fun hin => absurd hin hnot⟩
  | inBlock hblock hin _ hbegun =>
    have hno : a.transaction ≠ .idle := by
      rintro hidle
      rw [hidle] at hin
      rcases hin with hin | hin <;> cases hin
    have hnot : Status.inBlock ≠ .ready := by decide
    rw [hblock]
    exact ⟨⟨fun _ => hin, fun _ => rfl⟩,
      ⟨fun hready => absurd hready hnot, fun hidle => absurd hidle hno⟩, fun _ => hbegun⟩

/-- The status of a blocking connection tracks the transaction of the server. Whatever plain requests
are made of the connection from its opening on, as long as it is open it is inside of a block exactly
when the server is, and the block is one of its isolation level. No block is opened inside of one, none
is ended outside, and the statements of each request are sent in the statuses that `Request.Sends` lists. -/
theorem status_tracks_transaction (react : Reactor Script ScriptedSession) (dsn : String)
    (settings : Settings) (hooked : Bool) (w opened : World Script ScriptedSession) (key : Nat)
    (hhonest : w.connector.IsHonest) (hreact : Spares react key)
    (hopen : (openConnection react dsn false settings hooked).run w = (.ok key, opened))
    (requests : List Request) (hplain : ∀ r ∈ requests, r.IsPlain) :
    ∃ c log,
      let w' := ((requests.forM (Request.run react key)).run opened).2
      let a := Account.along {} log
      w'.connections[key]? = some c ∧ w'.exchanges key = w.exchanges key ++ log ∧
      (c.isClosed = false → ∃ s, c.guarded.session = some s ∧ s.transaction = a.transaction ∧
        (c.guarded.status = .inBlock ↔ s.transaction.IsBlock) ∧
        (c.guarded.status = .ready ↔ s.transaction = .idle) ∧
        (c.guarded.status = .inBlock → a.begun = c.guarded.isolation.beginStatement)) ∧
      InPlace TransactionStatus.Allows {} log ∧
      ∀ r : Request, r.IsPlain → ∃ xs,
        ((r.run react key).run w').2.exchanges key = w'.exchanges key ++ xs ∧
        InPlace (r.Sends w'.cursors c.guarded.isolation) a xs := by
  obtain ⟨-, c₁, xs, h₁, hexchanges₁, hplaced₁, -⟩ := advances_openConnection hopen
  obtain ⟨c, ys, h, hexchanges, hplaced, -⟩ :=
    advances_requests hhonest hreact requests hplain h₁
  rw [← Account.along_append] at h
  refine ⟨c, xs ++ ys, h.connection, ?_, h.agrees, inPlace_append.2 ⟨hplaced₁, hplaced⟩, ?_⟩
  · rw [hexchanges, hexchanges₁, List.append_assoc]
  · intro r hr
    obtain ⟨-, zs, -, hexchanges', hplaced', -⟩ := advances_request hhonest hreact h r hr
    exact ⟨zs, hexchanges', hplaced'⟩

theorem eq_ok_of_toOption {α β : Type} {p : Except Fault α × β} {x : α}
    (h : p.1.toOption = some x) : p = (.ok x, p.2) := by
  obtain ⟨result, rest⟩ := p
  cases result with
  | error fault => cases h
  | ok y =>
    cases h
    rfl

/-- After a statement at the strictest level the server is in a block of that level. -/
theorem status_tracks_transaction_serializable :
    let w : World Script ScriptedSession := { connector := {}, hook := fun _ => 1 }
    let react : Reactor Script ScriptedSession := fun _ _ => pure ()
    let opened := ((openConnection react "" false .standard false).run w).2
    let requests : List Request := [.perform (.setIsolation 2), .perform (.execute "SELECT 1")]
    w.connector.IsHonest ∧ Spares react 0 ∧
      (openConnection react "" false .standard false).run w = (.ok 0, opened) ∧
      (∀ r ∈ requests, r.IsPlain) ∧
      ∃ log, ((requests.forM (Request.run react 0)).run opened).2.exchanges 0 = log ∧
        (Account.along {} log).transaction.IsBlock ∧
        (Account.along {} log).begun = some "BEGIN; SET TRANSACTION ISOLATION LEVEL SERIALIZABLE" := by
  intro w react opened requests
  have hhonest : w.connector.IsHonest := Script.isHonest_of_forall_mem (by decide)
  have hreact : Spares react 0 := fun _ _ => .pure ()
  have hkey : ((openConnection react "" false .standard false).run w).1.toOption = some 0 := by
    decide +kernel
  have hopen : (openConnection react "" false .standard false).run w = (.ok 0, opened) :=
    eq_ok_of_toOption hkey
  have hplain : ∀ r ∈ requests, r.IsPlain := by
    have hselect : Sql.IsPlain "SELECT 1" := Sql.isPlain_of_head? (c := 'S') (by decide) (by decide)
    simp [requests, Request.IsPlain, Operation.IsPlain, hselect]
  obtain ⟨c, log, hc, hexchanges, hagrees, -⟩ := status_tracks_transaction react "" .standard false w
    opened 0 hhonest hreact hopen requests hplain
  have hstate : ((requests.forM (Request.run react 0)).run opened).2.connections[0]?.map
      (fun c => (c.guarded.status, c.guarded.isolation)) = some (.inBlock, .serializable) := by
    decide +kernel
  rw [hc] at hstate
  have hstatus : c.guarded.status = .inBlock := congrArg Prod.fst (Option.some.inj hstate)
  have hlevel : c.guarded.isolation = .serializable := congrArg Prod.snd (Option.some.inj hstate)
  have hclosed : c.isClosed = false := by
    rw [Connection.isClosed, Guarded.isClosed, hstatus]
    rfl
  obtain ⟨s, -, htransaction, hblock, -, hbegun⟩ := hagrees hclosed
  refine ⟨hhonest, hreact, hopen, hplain, log, hexchanges, ?_, ?_⟩
  · rw [← htransaction]
    exact hblock.1 hstatus
  · rw [hbegun hstatus, hlevel]
    rfl

end World

end Scenario

end SessionLayer
