import SessionLayer.Proofs.Connection.Asks
import SessionLayer.Proofs.Scenario.Refusal
import SessionLayer.Proofs.Sql.Token

/-!
# Quoted texts reach the server as they are

Three statements of the library hold a text between quotes: the one that switches to an encoding, the one
that imports a file as a large object, and the declaration of a cursor with a name. Whatever the text is,
a server that reads the statement finds it right after the start of the statement and goes on where the
library does. That holds of what is sent, whatever listeners say before and after.
-/

set_option autoImplicit false

namespace SessionLayer.Scenario.World

variable {κ σ : Type} [WireSession σ] {w w' : World κ σ} {key : Nat} {c : Connection σ}
  {react : Reactor κ σ}

/-! ## What is said first -/

/-- The first that a computation says to the session of a connection. -/
def SaysFirst {α : Type} (p : Play κ σ α) (w : World κ σ) (key : Nat) (xs : List Exchange) : Prop :=
  w.exchanges key ++ xs <+: (p.run w).2.exchanges key

omit [WireSession σ] in
theorem prefix_exchanges (h : w.trace <+: w'.trace) (key : Nat) : w.exchanges key <+: w'.exchanges key := by
  obtain ⟨events, htrace⟩ := h
  rw [exchanges_append htrace.symm]
  exact List.prefix_append _ _

section Course

variable {α β : Type} {xs : List Exchange} [Connector κ σ]

theorem SaysFirst.bind {p : Play κ σ α} {next : α → Play κ σ β} (h : SaysFirst p w key xs)
    (hnext : ∀ x, Keeps Reached (next x)) : SaysFirst (p >>= next) w key xs :=
  List.IsPrefix.trans h (prefix_exchanges (hnext _ _).prefix_trace key)

variable (hreact : ∀ listener signal, Keeps Reached (react listener signal))

include hreact

/-- The span of an operation comes before whatever the listeners do that are told of it. -/
theorem saysFirst_perform (hc : w.connections[key]? = some c) (op : Operation) :
    SaysFirst (perform react key op) w key (c.perform op).exchanges := by
  obtain ⟨hooked, hrun⟩ := perform_run react key op w
  have hconcluded : Reached (w.operating key hooked op) ((perform react key op).run w).2 := by
    have hkept := keeps_conclude hreact key (detached key hooked (runSpan key (·.span op)) w).1
      (w.operating key hooked op)
    rw [hrun]
    dsimp only
    split
    · exact hkept.trans (Reached.of_alike (Idle.clearMailbox _ key).alike)
    · exact hkept
  have hspan := exchanges_operating_self hc hooked op
  rw [SaysFirst, ← hspan]
  exact prefix_exchanges hconcluded.prefix_trace key

theorem saysFirst_number (hc : w.connections[key]? = some c) (statement : String)
    (read : QueryResult → Option α) :
    SaysFirst (number react key statement read) w key (c.perform (.execute statement)).exchanges := by
  refine (saysFirst_perform hreact hc _).bind fun result => ?_
  split
  · exact .pure _
  · split <;> exact .pure _

/-- A large object that does not exist is created before anything else is done. -/
theorem saysFirst_openLargeObject (hc : w.connections[key]? = some c)
    (hlevel : c.guarded.isolation ≠ .autocommit) {request : LargeObjectRequest} {statement : String}
    (hcreation : request.creation = some statement) :
    SaysFirst (openLargeObject react key request) w key (c.perform (.execute statement)).exchanges := by
  have hoid : SaysFirst (resolveOid react key request) w key (c.perform (.execute statement)).exchanges := by
    rw [resolveOid, hcreation]
    exact saysFirst_number hreact hc statement _
  have hdescriptor : ∀ oid, Keeps Reached (resolveDescriptor react key request oid) := by
    intro oid
    unfold resolveDescriptor
    split
    · exact .pure _
    · exact .bind (keeps_number (keeps_perform hreact key _) _) fun _ => .pure _
  unfold openLargeObject
  rw [SaysFirst, Play.run_bind, Play.run_get, hc]
  dsimp only
  rw [Option.any_some, decide_eq_false hlevel, if_neg Bool.false_ne_true]
  refine hoid.bind fun result => ?_
  split
  · exact .pure _
  · refine .bind (hdescriptor _) fun result => ?_
    split <;> exact .pure _

theorem saysFirst_executeCursor (hc : w.connections[key]? = some c) (ha : c.asynchronous = false)
    (hlevel : c.guarded.isolation ≠ .autocommit) {k : Nat} {cursor : Cursor}
    (hcursor : w.cursors[k]? = some cursor) (hconnection : cursor.connection = key) (query : String) :
    SaysFirst (executeCursor react k query) w key
      (c.perform (.execute (cursor.statement query))).exchanges := by
  subst hconnection
  rw [SaysFirst]
  unfold executeCursor
  simp only [Play.run_bind, Play.run_get, hcursor, Option.bind_some, hc, ha, Bool.false_eq_true, hlevel,
    and_false, if_false, Play.run_modify]
  exact saysFirst_perform hreact hc _

/-- A cursor with a name is made only on a blocking connection. -/
theorem blocking_of_makeCursor (hc : w.connections[key]? = some c) {name : String} {k : Nat}
    (hmade : ((makeCursor react key (some name)).run w).1 = .ok k) : c.asynchronous = false := by
  cases ha : c.asynchronous with
  | false => rfl
  | true =>
    have hreached : Reached w ((perform react key .admitCursor).run w).2 := keeps_perform hreact key _ w
    obtain ⟨c', hc', hsame⟩ := hreached.asynchronous_eq hc
    unfold makeCursor at hmade
    rw [Play.run_bind] at hmade
    cases hadmitted : ((perform react key .admitCursor).run w).1 with
    | error fault =>
      rw [cursorWith_of_error hadmitted] at hmade
      cases hmade
    | ok admitted =>
      rw [cursorWith_of_named hadmitted rfl (by rw [hc', Option.any_some, hsame, ha])] at hmade
      cases hmade

end Course

/-! ## The statement -/

/-- An operation sends `front` and then a statement of a kind, as far as it gets, and both if it
succeeds; and it is the first that a computation does. -/
structure SendsFirst {α : Type} (p : Play κ σ α) (w : World κ σ) (key : Nat) (c : Connection σ)
    (op : Operation) (front : List String) (sql : String) : Prop where
  sends : ∃ asks : List Ask,
    (c.perform op).exchanges.filter Exchange.isStatement = asks.map Ask.exchange ∧
      asks.map (·.statement) <+: front ++ [sql] ∧
      ((∃ x, (c.perform op).result = .ok x) → asks.map (·.statement) = front ++ [sql])
  first : SaysFirst p w key (c.perform op).exchanges

theorem sendsFirst_execute (h : c.guarded.Settled c.asynchronous) (sql : String) {α : Type}
    {p : Play κ σ α} (hfirst : SaysFirst p w key (c.perform (.execute sql)).exchanges) :
    SendsFirst p w key c (.execute sql) (c.guarded.entering.map (·.statement)) sql where
  sends := by
    have hasks := Connection.asks_perform h (.execute sql) rfl rfl
    rwa [List.map_append] at hasks
  first := hfirst

variable [Connector κ σ]

/-- In every state of a connection whose session was made, and for all texts: the statement by which an
encoding is set, a file imported or a cursor with a name declared is read back as its start, the text
between quotes, and its end. It is sent after the statement that ends or opens a block, if there is to be
one, as far as the server accepts them; and only where it is due: not for the encoding that is in use, not
at autocommit, and a cursor with a name is made on blocking connections only. -/
theorem quoted_texts_are_read_back (connector : κ) (hook : Nat → Nat) (w : World κ σ)
    (hreached : Reached { connector, hook } w) {key : Nat} {c : Connection σ}
    (hc : w.connections[key]? = some c) (hopened : w.Opened key) (react : Reactor κ σ)
    (hreact : ∀ listener signal, Keeps Reached (react listener signal)) :
    (∀ name : String,
      (c.guarded.info.map (·.encoding) ≠ some (Encoding.normalize name) → ∃ sql,
        Sql.Quotes Sql.singleQuote "SET client_encoding = " (Encoding.normalize name) "" sql ∧
          SendsFirst (perform react key (.setClientEncoding name)) w key c (.setClientEncoding name)
            ((c.guarded.leaving Sql.rollback).map (·.statement)) sql) ∧
      (c.guarded.info.map (·.encoding) = some (Encoding.normalize name) →
        (c.perform (.setClientEncoding name)).exchanges.filter Exchange.isStatement = [])) ∧
    (∀ (request : LargeObjectRequest) (file : String), request.oid = 0 → request.newFile = some file →
      (c.guarded.isolation ≠ .autocommit → ∃ sql,
        Sql.Quotes Sql.singleQuote "SELECT lo_import(" file (", " ++ toString request.newOid ++ ")") sql ∧
          SendsFirst (openLargeObject react key request) w key c (.execute sql)
            (c.guarded.entering.map (·.statement)) sql) ∧
      (c.guarded.isolation = .autocommit →
        (openLargeObject react key request).run w = (.error .largeObjectAutocommit, w))) ∧
    (∀ (k : Nat) (cursor : Cursor) (name query : String), w.cursors[k]? = some cursor →
      cursor.connection = key → cursor.name = some name → c.asynchronous = false →
        (c.guarded.isolation ≠ .autocommit → ∃ sql,
          Sql.Quotes Sql.doubleQuote "DECLARE " name (" CURSOR WITHOUT HOLD FOR " ++ query) sql ∧
            SendsFirst (executeCursor react k query) w key c (.execute sql)
              (c.guarded.entering.map (·.statement)) sql) ∧
        (c.guarded.isolation = .autocommit →
          (executeCursor react k query).run w = (.error .namedCursorAutocommit, w))) ∧
    ∀ (name : String) (k : Nat), ((makeCursor react key (some name)).run w).1 = .ok k →
      c.asynchronous = false := by
  have hsound := hreached.preserves (fun _ _ => Move.sound) (sound_start connector hook)
  have hsettled := hsound.settled key c hc hopened
  refine ⟨fun name => ⟨fun hother => ?_, fun hsame => ?_⟩,
    fun request file hoid hfile => ⟨fun hlevel => ?_, fun hlevel => ?_⟩,
    fun k cursor name query hcursor hconnection hname ha => ⟨fun hlevel => ?_, fun hlevel => ?_⟩,
    fun name k hmade => blocking_of_makeCursor hreact hc hmade⟩
  · refine ⟨_, Sql.quotes_setClientEncoding _, ?_, saysFirst_perform hreact hc _⟩
    have hasks := Connection.asks_perform hsettled (.setClientEncoding name) rfl rfl
    rwa [if_neg hother, List.map_append] at hasks
  · obtain ⟨asks, hexchanges, hsent, -⟩ :=
      Connection.asks_perform hsettled (.setClientEncoding name) rfl rfl
    rw [if_pos hsame] at hsent
    rw [hexchanges, List.map_eq_nil_iff.1 (List.prefix_nil.1 hsent)]
    rfl
  · have hcreation : request.creation = some (Sql.importLargeObject file request.newOid) := by
      rw [LargeObjectRequest.creation, if_neg (not_not_intro hoid), hfile]
    exact ⟨_, Sql.quotes_importLargeObject file request.newOid,
      sendsFirst_execute hsettled _ (saysFirst_openLargeObject hreact hc hlevel hcreation)⟩
  · unfold openLargeObject
    rw [Play.run_bind, Play.run_get, hc]
    dsimp only
    rw [Option.any_some, decide_eq_true hlevel]
    rfl
  · have hstatement : cursor.statement query = Sql.declareCursor name query := by
      rw [Cursor.statement, hname]
    have hfirst := saysFirst_executeCursor hreact hc ha hlevel hcursor hconnection query
    rw [hstatement] at hfirst
    exact ⟨_, Sql.quotes_declareCursor name query, sendsFirst_execute hsettled _ hfirst⟩
  · subst hconnection
    unfold executeCursor
    simp only [Play.run_bind, Play.run_get, hcursor, Option.bind_some, hc, ha, Bool.false_eq_true, hlevel,
      hname, Option.isSome_some, and_self, if_true, if_false]
    rfl

/-- Names that are made of quotes, and a file whose name ends with one. -/
theorem quoted_texts_are_read_back_of_quotes :
    let start : World Script ScriptedSession := { connector := {}, hook := fun _ => 1 }
    let name := "\x22\x22c\x22"
    let steps : List Step := [.on "db" (.openConnection "" false .standard .withSettings),
      .on "db" (.makeCursor "c" (some name))]
    let w := ((runSteps (fire 0) "" 0 steps).run start).2
    let request : LargeObjectRequest :=
      { oid := 0, mode := .read, newOid := 7, newFile := some "o\x27clock\x27" }
    Reached start w ∧ w.Opened 0 ∧ ∃ c cursor, w.connections[0]? = some c ∧
      w.cursors[0]? = some cursor ∧ cursor.name = some name ∧ c.asynchronous = false ∧
      (c.perform (.setClientEncoding "utf-8")).exchanges.filter Exchange.isStatement = [] ∧
      (∃ sql, Sql.Quotes Sql.singleQuote "SET client_encoding = " "\x27\x27" "" sql ∧
        SendsFirst (perform (fire 0) 0 (.setClientEncoding "-\x27\x27")) w 0 c
          (.setClientEncoding "-\x27\x27") ((c.guarded.leaving Sql.rollback).map (·.statement)) sql) ∧
      (∃ sql, Sql.Quotes Sql.singleQuote "SELECT lo_import(" "o\x27clock\x27" (", " ++ toString 7 ++ ")")
          sql ∧
        SendsFirst (openLargeObject (fire 0) 0 request) w 0 c (.execute sql)
          (c.guarded.entering.map (·.statement)) sql) ∧
      ∃ sql, Sql.Quotes Sql.doubleQuote "DECLARE " name (" CURSOR WITHOUT HOLD FOR " ++ "SELECT 1") sql ∧
        SendsFirst (executeCursor (fire 0) 0 "SELECT 1") w 0 c (.execute sql)
          (c.guarded.entering.map (·.statement)) sql := by
  intro start name steps w request
  have hreached : Reached start w :=
    keeps_runSteps (conducts_of_attends (attends_fire (fun _ => conducts_of_attends) 0)) "" 0 steps start
  have hopened : w.Opened 0 := by decide +kernel
  have hstate : w.connections.map (fun c => (c.asynchronous, decide (c.guarded.isolation = .autocommit),
      c.guarded.info.map (·.encoding))) = [(false, false, some "UTF8")] := by
    decide +kernel
  have hcursors : w.cursors.map (fun cursor => (cursor.connection, cursor.name)) = [(0, some name)] := by
    decide +kernel
  obtain ⟨c, hc, hfacts⟩ := exists_connection_of_map hstate
  simp only [Prod.mk.injEq, decide_eq_false_iff_not] at hfacts
  obtain ⟨ha, hlevel, hencoding⟩ := hfacts
  obtain ⟨cursor, hcursor, hpair⟩ := List.map_eq_singleton_iff.1 hcursors
  obtain ⟨hconnection, hname⟩ := Prod.mk.inj hpair
  have hcursor : w.cursors[0]? = some cursor := by rw [hcursor]; rfl
  obtain ⟨hencodings, hfiles, hnames, -⟩ := quoted_texts_are_read_back start.connector start.hook w
    hreached hc hopened (fire 0) (keeps_fire 0)
  have hsame : Encoding.normalize "utf-8" = "UTF8" := by decide +kernel
  have hquotes : Encoding.normalize "-\x27\x27" = "\x27\x27" := by decide +kernel
  obtain ⟨sql, hread, hsent⟩ := (hencodings "-\x27\x27").1 (by rw [hencoding, hquotes]; decide)
  rw [hquotes] at hread
  refine ⟨hreached, hopened, c, cursor, hc, hcursor, hname, ha, ?_, ⟨sql, hread, hsent⟩, ?_, ?_⟩
  · exact (hencodings "utf-8").2 (by rw [hencoding, hsame])
  · exact (hfiles request _ rfl rfl).1 hlevel
  · exact (hnames 0 cursor name "SELECT 1" hcursor hconnection hname ha).1 hlevel

end SessionLayer.Scenario.World
