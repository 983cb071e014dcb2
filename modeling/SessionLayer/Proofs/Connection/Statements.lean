import SessionLayer.Proofs.Connection.Invariant
import SessionLayer.Proofs.Span.Runs

/-!
# The statements of an operation

`Operation.plan` lists the statements that an operation runs on a blocking connection, and what the
connection becomes once the server has accepted them. `Span.Carries` says that a span runs such
statements one after the other, up to the first one that is not accepted; what comes after it is not run,
and the connection stays what the statements before it have made of it.
-/

set_option autoImplicit false

namespace SessionLayer

/-- A statement of an operation, with the status and the client encoding of the connection once it has
been accepted, where it changes them. -/
structure Plan.Stage where
  statement : String
  status : Option Status := none
  encoding : Option String := none

/-- The statements of an operation, and the isolation level of the connection once all were accepted,
where the operation changes it. -/
structure Plan where
  stages : List Plan.Stage
  isolation : Option Isolation := none

namespace Plan.Stage

variable {σ : Type}

def advance (stage : Plan.Stage) (g : Guarded σ) : Guarded σ :=
  { g with
    status := stage.status.getD g.status
    info := stage.encoding.elim g.info fun encoding => g.info.map ({ · with encoding }) }

/-- The exchange in which the statement is answered. -/
def exchange (stage : Plan.Stage) (answer : Except String QueryResult) : Exchange where
  call := .exec stage.statement
  answer

end Plan.Stage

namespace Guarded

variable {σ : Type}

/-- The state of the connection once some statements have been accepted. -/
def advanced (g : Guarded σ) (stages : List Plan.Stage) : Guarded σ :=
  stages.foldl (fun g stage => stage.advance g) g

/-- The state of the connection once all statements of a plan have been accepted. -/
def concluded (g : Guarded σ) (plan : Plan) : Guarded σ :=
  let g := g.advanced plan.stages
  { g with isolation := plan.isolation.getD g.isolation }

/-- What opens a block where the isolation level asks for one and none is open. -/
def entering (g : Guarded σ) : List Plan.Stage :=
  if g.status = .ready then
    g.isolation.beginStatement.toList.map fun statement => { statement, status := some .inBlock }
  else []

/-- What ends the block, if one is open. -/
def leaving (g : Guarded σ) (statement : String) : List Plan.Stage :=
  if g.isolation ≠ .autocommit ∧ g.status = .inBlock then [{ statement, status := some .ready }] else []

theorem advanced_append (g : Guarded σ) (stages rest : List Plan.Stage) :
    g.advanced (stages ++ rest) = (g.advanced stages).advanced rest :=
  List.foldl_append ..

/-- Accepted statements leave the session to itself. -/
theorem advanced_on (g : Guarded σ) (session : σ) (stages : List Plan.Stage) :
    (g.on session).advanced stages = (g.advanced stages).on session := by
  induction stages generalizing g with
  | nil => rfl
  | cons stage stages ih => exact ih (stage.advance g)

end Guarded

/-- The statements that an operation runs, `none` for one that runs no statements of its own. -/
def Operation.plan {σ : Type} (g : Guarded σ) : Operation → Option Plan
  | .execute sql => some { stages := g.entering ++ [{ statement := sql }] }
  | .commit => some { stages := g.leaving Sql.commit }
  | .rollback => some { stages := g.leaving Sql.rollback }
  | .setIsolation level =>
    (Isolation.ofLevel level).toOption.map fun target =>
      { stages := if target = g.isolation then [] else g.leaving Sql.rollback
        isolation := some target }
  | .setClientEncoding name =>
    let encoding := Encoding.normalize name
    some
      { stages :=
          if g.info.map (·.encoding) = some encoding then []
          else g.leaving Sql.rollback ++
            [{ statement := Sql.setClientEncoding encoding, encoding := some encoding }] }
  | _ => none

/-- What an operation yields that has run its statements: a query yields its own result. -/
def Operation.yield : (op : Operation) → List QueryResult → Option op.Answer
  | .execute _, results => results.getLast?
  | .commit, _ | .rollback, _ | .setIsolation _, _ | .setClientEncoding _, _ => some ()
  | _, _ => none

namespace Span

variable {σ α β : Type} [WireSession σ] {g : Guarded σ}

/-- The exchanges in which statements are accepted. -/
def acceptances (accepted : List (Plan.Stage × QueryResult)) : List Exchange :=
  accepted.map fun x => x.1.exchange (.ok x.2)

/-- How the statements of a plan can go: all are accepted, or up to the first one that is not. -/
inductive Carried (g : Guarded σ) (plan : Plan) (read : List QueryResult → Option α) :
    List Exchange → Except Fault α → Guarded σ → Prop
  | accepted (accepted : List (Plan.Stage × QueryResult)) (x : α) (session : σ) :
      (∀ entry ∈ accepted, entry.2.rejection? = none) → accepted.map Prod.fst = plan.stages →
      read (accepted.map Prod.snd) = some x →
      Carried g plan read (acceptances accepted) (.ok x) ((g.concluded plan).on session)
  | refused (accepted : List (Plan.Stage × QueryResult)) (stage : Plan.Stage) (rest : List Plan.Stage)
      (answer : Except String QueryResult) (fault : Fault) (session : σ) :
      (∀ entry ∈ accepted, entry.2.rejection? = none) →
      accepted.map Prod.fst ++ stage :: rest = plan.stages → verdict answer = .error fault →
      Carried g plan read (acceptances accepted ++ [stage.exchange answer]) (.error fault)
        ((g.advanced (accepted.map Prod.fst)).on session)

/-- The span runs the statements of a plan. -/
def Carries (span : Span σ α) (g : Guarded σ) (plan : Plan) (read : List QueryResult → Option α) :
    Prop :=
  ∃ xs r g', Runs span g xs r g' ∧ Carried g plan read xs r g'

theorem runs_command {session : σ} (h : g.session = some session) (stage : Plan.Stage) :
    Runs (command stage.statement) g
      [stage.exchange (WireSession.respond (.exec stage.statement) session).1]
      (verdict (WireSession.respond (.exec stage.statement) session).1)
      (g.on (WireSession.respond (.exec stage.statement) session).2) := by
  rintro s rfl
  exact exec_command h stage.statement

/-- A result that is not rejected is taken for a success, whatever its status is. -/
theorem verdict_eq_ok_iff {answer : Except String QueryResult} {result : QueryResult} :
    verdict answer = .ok result ↔ answer = .ok result ∧ result.rejection? = none := by
  cases answer with
  | error text =>
    constructor
    · intro h
      cases h
    · rintro ⟨h, -⟩
      cases h
  | ok given =>
    cases hrejection : given.rejection? with
    | some rejection =>
      rw [verdict, hrejection]
      constructor
      · intro h
        cases h
      · rintro ⟨hsame, hnone⟩
        cases hsame
        cases hrejection.symm.trans hnone
    | none =>
      rw [verdict, hrejection]
      refine ⟨fun h => ?_, fun h => by rw [Except.ok.inj h.1]⟩
      cases h
      exact ⟨rfl, hrejection⟩

omit [WireSession σ] in
/-- A span that runs no statement. -/
theorem carries_of_runs {span : Span σ α} {session : σ} (hsession : g.session = some session)
    {plan : Plan} {read : List QueryResult → Option α} {x : α} (hstages : plan.stages = [])
    (hread : read [] = some x) (h : Runs span g [] (.ok x) (g.concluded plan)) :
    Carries span g plan read := by
  refine ⟨[], .ok x, (g.concluded plan).on session, ?_, .accepted [] x session nofun hstages.symm hread⟩
  rwa [Guarded.on_eq_self (g := g.concluded plan)]
  rw [Guarded.concluded, hstages]
  exact hsession

/-- One statement, and what the connection becomes once it has been accepted. -/
theorem carries_stage {session : σ} (hsession : g.session = some session) (stage : Plan.Stage)
    {next : QueryResult → Span σ α} {read : List QueryResult → Option α}
    (hnext : ∀ result session, ∃ x, read [result] = some x ∧
      Runs (next result) (g.on session) [] (.ok x) ((stage.advance g).on session)) :
    Carries (command stage.statement >>= next) g { stages := [stage] } read := by
  have hcommand := runs_command hsession stage
  generalize WireSession.respond (.exec stage.statement) session = answered at hcommand
  obtain ⟨answer, session'⟩ := answered
  cases hverdict : verdict answer with
  | error fault =>
    rw [hverdict] at hcommand
    refine ⟨_, _, _, hcommand.bind_error, ?_⟩
    exact .refused [] stage [] answer fault session' nofun rfl hverdict
  | ok result =>
    rw [hverdict] at hcommand
    obtain ⟨rfl, haccepted⟩ := verdict_eq_ok_iff.1 hverdict
    obtain ⟨x, hread, hruns⟩ := hnext result session'
    refine ⟨_, _, _, hcommand.bind hruns, ?_⟩
    refine .accepted [(stage, result)] x session' ?_ rfl hread
    intro entry hentry
    rw [List.mem_singleton.1 hentry]
    exact haccepted

omit [WireSession σ] in
/-- What comes first runs no statement and changes nothing. -/
theorem carries_bind_silent {span : Span σ β} {next : β → Span σ α} {x : β} {plan : Plan}
    {read : List QueryResult → Option α} (h : Runs span g [] (.ok x) g)
    (hnext : Carries (next x) g plan read) : Carries (span >>= next) g plan read := by
  obtain ⟨xs, r, g', hruns, hcarried⟩ := hnext
  exact ⟨xs, r, g', h.bind_silent hruns, hcarried⟩

omit [WireSession σ] in
/-- Statements after statements. -/
theorem carries_bind {span : Span σ Unit} {next : Unit → Span σ α} {stages more : List Plan.Stage}
    {isolation : Option Isolation} {read readAll : List QueryResult → Option α}
    (h : Carries span g { stages } fun _ => some ())
    (hread : ∀ results rest x, read rest = some x → readAll (results ++ rest) = some x)
    (hnext : ∀ session,
      Carries (next ()) ((g.advanced stages).on session) { stages := more, isolation } read) :
    Carries (span >>= next) g { stages := stages ++ more, isolation } readAll := by
  obtain ⟨xs, r, g₁, hruns, hcarried⟩ := h
  cases hcarried with
  -- Nothing of the second span is run, but its statements belong to the plan.
  | refused accepted stage rest answer fault session haccepted hstages hverdict =>
    refine ⟨_, _, _, hruns.bind_error, ?_⟩
    refine .refused accepted stage (rest ++ more) answer fault session haccepted ?_ hverdict
    show _ = stages ++ more
    rw [← show accepted.map Prod.fst ++ stage :: rest = stages from hstages, List.append_assoc]
    rfl
  | accepted accepted x session haccepted hstages _ =>
    obtain ⟨ys, r', g₂, hruns', hcarried'⟩ := hnext session
    refine ⟨_, _, _, hruns.bind hruns', ?_⟩
    have hstages : accepted.map Prod.fst = stages := hstages
    have hboth : ∀ {others : List (Plan.Stage × QueryResult)},
        (∀ entry ∈ others, entry.2.rejection? = none) →
          ∀ entry ∈ accepted ++ others, entry.2.rejection? = none := by
      intro others hothers entry hentry
      rcases List.mem_append.1 hentry with hentry | hentry
      · exact haccepted entry hentry
      · exact hothers entry hentry
    cases hcarried' with
    | accepted others y session' hothers hrest hyield =>
      have hguarded :
          (((g.advanced stages).on session).concluded { stages := more, isolation }).on session' =
            (g.concluded { stages := stages ++ more, isolation }).on session' := by
        rw [Guarded.concluded, Guarded.concluded, Guarded.advanced_on, Guarded.advanced_append]
        rfl
      rw [hguarded, acceptances, acceptances, ← List.map_append]
      refine .accepted (accepted ++ others) y session' (hboth hothers) ?_ ?_
      · rw [List.map_append, hstages, hrest]
      · rw [List.map_append]
        exact hread _ _ y hyield
    | refused others stage rest answer fault session' hothers hrest hverdict =>
      have hguarded : (((g.advanced stages).on session).advanced (others.map Prod.fst)).on session' =
          (g.advanced ((accepted ++ others).map Prod.fst)).on session' := by
        rw [List.map_append, hstages, Guarded.advanced_on, Guarded.advanced_append]
        rfl
      rw [hguarded, ← List.append_assoc, acceptances, acceptances, ← List.map_append]
      refine .refused (accepted ++ others) stage rest answer fault session' (hboth hothers) ?_ hverdict
      rw [List.map_append, hstages, List.append_assoc, hrest]

namespace Carried

variable {plan : Plan} {read : List QueryResult → Option α} {xs : List Exchange} {r : Except Fault α}
  {g' : Guarded σ}

omit [WireSession σ] in
theorem eq_of_mem_acceptances {accepted : List (Plan.Stage × QueryResult)}
    (haccepted : ∀ entry ∈ accepted, entry.2.rejection? = none) {sql : String}
    {answer : Except String QueryResult}
    (hmem : ({ call := .exec sql, answer } : Exchange) ∈ acceptances accepted) :
    ∃ result, answer = .ok result ∧ result.rejection? = none := by
  obtain ⟨⟨stage, result⟩, hentry, hsame⟩ := List.mem_map.1 hmem
  cases hsame
  exact ⟨result, rfl, haccepted _ hentry⟩

omit [WireSession σ] in
/-- The statements of a plan have run if each one was accepted. -/
theorem eq_ok_iff (h : Carried g plan read xs r g') :
    (∃ x, r = .ok x) ↔ ∀ (sql : String) (answer : Except String QueryResult),
      { call := .exec sql, answer } ∈ xs → ∃ result, answer = .ok result ∧ result.rejection? = none := by
  cases h with
  | accepted accepted x session haccepted hstages hread =>
    exact ⟨fun _ sql answer hmem => eq_of_mem_acceptances haccepted hmem, fun _ => ⟨x, rfl⟩⟩
  | refused accepted stage rest answer fault session haccepted hstages hverdict =>
    refine ⟨fun ⟨x, hx⟩ => (nomatch hx), fun hall => ?_⟩
    obtain ⟨result, hanswer, hnone⟩ :=
      hall stage.statement answer (List.mem_append_right _ (List.mem_singleton.2 rfl))
    rw [verdict_eq_ok_iff.2 ⟨hanswer, hnone⟩] at hverdict
    exact nomatch hverdict

omit [WireSession σ] in
/-- A rejection is passed on. -/
theorem eq_rejected (h : Carried g plan read xs r g') {sql : String} {result : QueryResult}
    {rejection : ServerError} (hmem : { call := .exec sql, answer := .ok result } ∈ xs)
    (hrejection : result.rejection? = some rejection) :
    r = .error (.rejected rejection.state rejection.message) := by
  have hother : ∀ accepted : List (Plan.Stage × QueryResult),
      (∀ entry ∈ accepted, entry.2.rejection? = none) →
        ({ call := .exec sql, answer := .ok result } : Exchange) ∉ acceptances accepted := by
    intro accepted haccepted hmem
    obtain ⟨given, hsame, hnone⟩ := eq_of_mem_acceptances haccepted hmem
    cases hsame
    exact nomatch hrejection.symm.trans hnone
  cases h with
  | accepted accepted x session haccepted hstages hread => exact absurd hmem (hother accepted haccepted)
  | refused accepted stage rest answer fault session haccepted hstages hverdict =>
    rcases List.mem_append.1 hmem with hmem | hmem
    · exact absurd hmem (hother accepted haccepted)
    · cases List.mem_singleton.1 hmem
      rw [verdict, hrejection] at hverdict
      cases hverdict
      rfl

end Carried

/-! ## The spans of operations -/

theorem carries_command {session : σ} (hsession : g.session = some session) (sql : String) :
    Carries (command sql) g { stages := [{ statement := sql }] } List.getLast? := by
  have h : Carries (command sql >>= pure) g { stages := [{ statement := sql }] } List.getLast? :=
    carries_stage hsession { statement := sql } fun result session =>
      ⟨result, rfl, .pure result (g.on session)⟩
  rwa [bind_pure] at h

theorem carries_beginIfNeeded {session : σ} (hsession : g.session = some session) :
    Carries beginIfNeeded g { stages := g.entering } fun _ => some () := by
  unfold beginIfNeeded Guarded.entering
  refine carries_bind_silent (.guarded g) ?_
  by_cases hready : g.status = .ready
  · rw [if_pos hready, if_pos hready]
    cases g.isolation.beginStatement with
    | none => exact carries_of_runs hsession rfl rfl (.pure () g)
    | some statement =>
      exact carries_stage hsession { statement, status := some .inBlock } fun _ session =>
        ⟨(), rfl, .update _ (g.on session)⟩
  · rw [if_neg hready, if_neg hready]
    exact carries_of_runs hsession rfl rfl (.pure () g)

theorem carries_endBlock {session : σ} (hsession : g.session = some session) (statement : String) :
    Carries (endBlock statement) g { stages := g.leaving statement } fun _ => some () := by
  unfold endBlock Guarded.leaving
  refine carries_bind_silent (.guarded g) ?_
  by_cases hopen : g.isolation ≠ .autocommit ∧ g.status = .inBlock
  · rw [if_pos hopen, if_pos hopen]
    exact carries_stage hsession { statement, status := some .ready } fun _ session =>
      ⟨(), rfl, .update _ (g.on session)⟩
  · rw [if_neg hopen, if_neg hopen]
    exact carries_of_runs hsession rfl rfl (.pure () g)

theorem carries_execute {session : σ} (hsession : g.session = some session) (sql : String) :
    Carries (execute sql) g { stages := g.entering ++ [{ statement := sql }] } List.getLast? := by
  unfold execute
  refine carries_bind (carries_beginIfNeeded hsession) ?_ fun _ => carries_command rfl sql
  intro results rest x hlast
  rw [List.getLast?_append, hlast]
  rfl

theorem carries_setIsolation {session : σ} (hsession : g.session = some session) {level : Int}
    {target : Isolation} (htarget : Isolation.ofLevel level = .ok target) :
    Carries (setIsolation level) g
      { stages := if target = g.isolation then [] else g.leaving Sql.rollback
        isolation := some target } fun _ => some () := by
  unfold setIsolation
  refine carries_bind_silent (.lift htarget g) (carries_bind_silent (.guarded g) ?_)
  by_cases hsame : target = g.isolation
  · subst hsame
    rw [if_neg (not_not_intro rfl), if_pos rfl]
    exact carries_of_runs hsession rfl rfl (.pure () g)
  · rw [if_pos hsame, if_neg hsame]
    have hswitch : ∀ g : Guarded σ, g.session.isSome →
      Carries (update ({ · with isolation := target })) g
        { stages := [], isolation := some target } fun _ => some () := by
      intro g hg
      obtain ⟨session, hsession⟩ := Option.isSome_iff_exists.1 hg
      exact carries_of_runs hsession rfl rfl (.update _ g)
    by_cases hauto : g.isolation = .autocommit
    · rw [if_neg (not_not_intro hauto), Guarded.leaving, if_neg fun hopen => hopen.1 hauto]
      exact hswitch g (by rw [hsession]; rfl)
    · rw [if_pos hauto]
      have h : Carries (endBlock Sql.rollback >>= fun _ => update ({ · with isolation := target })) g
          { stages := g.leaving Sql.rollback ++ [], isolation := some target } fun _ => some () :=
        carries_bind (carries_endBlock hsession Sql.rollback) (fun _ _ _ => id) fun session =>
          hswitch ((g.advanced (g.leaving Sql.rollback)).on session) rfl
      rwa [List.append_nil] at h

theorem carries_setClientEncoding {session : σ} (hsession : g.session = some session) (name : String) :
    Carries (setClientEncoding name) g
      { stages :=
          if g.info.map (·.encoding) = some (Encoding.normalize name) then []
          else g.leaving Sql.rollback ++
            [{ statement := Sql.setClientEncoding (Encoding.normalize name)
               encoding := some (Encoding.normalize name) }] } fun _ => some () := by
  unfold setClientEncoding
  refine carries_bind_silent (.guarded g) ?_
  by_cases hsame : g.info.map (·.encoding) = some (Encoding.normalize name)
  · rw [if_neg (not_not_intro hsame), if_pos hsame]
    exact carries_of_runs hsession rfl rfl (.pure () g)
  · rw [if_pos hsame, if_neg hsame]
    let stage : Plan.Stage :=
      { statement := Sql.setClientEncoding (Encoding.normalize name)
        encoding := some (Encoding.normalize name) }
    have hset : ∀ (g : Guarded σ) (session : σ), Carries (do
        let _ ← command stage.statement
        update fun g => { g with info := g.info.map ({ · with encoding := Encoding.normalize name }) })
        (g.on session) { stages := [stage] } fun _ => some () := fun g session =>
      carries_stage rfl stage fun _ session => ⟨(), rfl, .update _ _⟩
    exact carries_bind (carries_endBlock hsession Sql.rollback) (fun _ _ _ => id) fun session =>
      hset (g.advanced (g.leaving Sql.rollback)) session

theorem not_mem_messageExchanges (session : σ) {sql : String} {answer : Except String QueryResult} :
    ({ call := .exec sql, answer } : Exchange) ∉ messageExchanges session := by
  intro hmem
  simp only [messageExchanges, List.mem_cons, List.not_mem_nil, or_false] at hmem
  rcases hmem with hsame | hsame
  · cases congrArg Exchange.call hsame
  · cases congrArg Exchange.call hsame

end Span

namespace Connection

open SessionLayer.Span

variable {σ : Type} [WireSession σ] {c : Connection σ}

/-- An operation on an open blocking connection runs the statements of its plan. -/
theorem carries_span (hblocking : c.asynchronous = false) (hopen : c.guarded.status ≠ .closed)
    {session : σ} (hsession : c.guarded.session = some session) {op : Operation} {plan : Plan}
    (hplan : op.plan c.guarded = some plan) : Carries (c.span op) c.guarded plan op.yield := by
  have hblocks : ∀ {α : Type} {operation : String} {span : Span σ α}
      {read : List QueryResult → Option α}, Carries span c.guarded plan read →
        Carries (c.blocking operation span) c.guarded plan read := by
    intro α operation span read h
    unfold blocking ensureBlocking
    have hensured : Runs ensureOpen c.guarded [] (.ok ()) c.guarded := .ensureOpen hopen
    have hblocks :
      Runs (if c.asynchronous then throw (.blockingOnly operation) else pure ()) c.guarded []
        (.ok ()) c.guarded := by
      rw [if_neg (by rw [hblocking]; exact Bool.false_ne_true)]
      exact .pure () c.guarded
    exact carries_bind_silent hensured (carries_bind_silent hblocks h)
  cases op with
  | commit =>
    cases hplan
    exact hblocks (carries_endBlock hsession Sql.commit)
  | rollback =>
    cases hplan
    exact hblocks (carries_endBlock hsession Sql.rollback)
  | setIsolation level =>
    obtain ⟨target, htarget, rfl⟩ := Option.map_eq_some_iff.1 hplan
    have htarget : Isolation.ofLevel level = .ok target := by
      cases hlevel : Isolation.ofLevel level with
      | error fault => cases (hlevel ▸ htarget : (Except.error fault).toOption = some target)
      | ok given =>
        rw [hlevel] at htarget
        rw [Option.some.inj htarget]
    exact hblocks (carries_setIsolation hsession htarget)
  | setClientEncoding name =>
    cases hplan
    exact hblocks (carries_setClientEncoding hsession name)
  | execute sql =>
    cases hplan
    exact hblocks (carries_execute hsession sql)
  | _ => cases hplan

/-- What an operation on an open blocking connection comes to: its statements are run up to the first one
that is not accepted, and nothing else is said to the session but that its messages are taken over. -/
theorem carried_perform (h : c.guarded.Settled c.asynchronous) (hblocking : c.asynchronous = false)
    (hopen : c.guarded.status ≠ .closed) {op : Operation} {plan : Plan}
    (hplan : op.plan c.guarded = some plan) :
    ∃ xs g' session, Carried c.guarded plan op.yield xs (c.perform op).result g' ∧
      (c.perform op).exchanges = xs ++ messageExchanges session ∧
      (c.perform op).guarded = (g'.on (relieved session)).stashing .empty := by
  obtain ⟨session, hsession⟩ := Option.isSome_iff_exists.1 (h.1.session_iff.2 hopen)
  obtain ⟨xs, r, g', hruns, hcarried⟩ := carries_span hblocking hopen hsession hplan
  have hsome : ∃ session, g'.session = some session := by
    cases hcarried with
    | accepted => exact ⟨_, rfl⟩
    | refused => exact ⟨_, rfl⟩
  obtain ⟨session', hsession'⟩ := hsome
  have hperform := hruns.run_some session' hsession'
  unfold perform
  rw [hperform]
  exact ⟨xs, g', session', hcarried, rfl, rfl⟩

/-- An operation on an open blocking connection succeeds exactly if the server accepted every statement
that it ran. -/
theorem perform_eq_ok_iff (h : c.guarded.Settled c.asynchronous) (hblocking : c.asynchronous = false)
    (hopen : c.guarded.status ≠ .closed) {op : Operation} {plan : Plan}
    (hplan : op.plan c.guarded = some plan) :
    (∃ x, (c.perform op).result = .ok x) ↔ ∀ (sql : String) (answer : Except String QueryResult),
      { call := .exec sql, answer } ∈ (c.perform op).exchanges →
        ∃ result, answer = .ok result ∧ result.rejection? = none := by
  obtain ⟨xs, g', session, hcarried, hexchanges, -⟩ := carried_perform h hblocking hopen hplan
  rw [hcarried.eq_ok_iff, hexchanges]
  refine forall_congr' fun sql => forall_congr' fun answer => ?_
  rw [List.mem_append, or_iff_left (not_mem_messageExchanges session)]

end Connection

end SessionLayer
