import SessionLayer.Proofs.Connection.Metadata
import SessionLayer.Proofs.Connection.Refusal

/-!
# The statements that an operation sends

An `Ask` is a statement that was run at once, with the answer to it. On a blocking connection an operation
sends no other statements than those of its plan, in their order, and all of them if it succeeds. A query
is preceded by the statement that opens a block, if there is to be one, and is sent exactly if that one
was accepted.
-/

set_option autoImplicit false

namespace SessionLayer

theorem toOption_eq_some_iff {ε α : Type} {r : Except ε α} {x : α} : r.toOption = some x ↔ r = .ok x := by
  cases r <;> simp [Except.toOption]

/-- An exchange in which a statement is sent, be it to run it at once or to queue it. -/
def Exchange.isStatement (x : Exchange) : Bool :=
  match x.call with
  | .exec _ | .send _ => true
  | _ => false

/-- A statement that was run at once, and the answer to it. -/
structure Ask where
  statement : String
  answer : Except String QueryResult

namespace Ask

def exchange (ask : Ask) : Exchange where
  call := .exec ask.statement
  answer := ask.answer

/-- The result of a statement that has not failed. -/
def result? (ask : Ask) : Option QueryResult :=
  (Span.verdict ask.answer).toOption

/-- The statement has not failed. -/
def accepted (ask : Ask) : Bool :=
  ask.result?.isSome

variable {ask : Ask} {result : QueryResult}

theorem result?_eq_some_iff : ask.result? = some result ↔ Span.verdict ask.answer = .ok result :=
  toOption_eq_some_iff

/-- A statement fails in the transport, or by an error that the server gives for rejecting it. -/
theorem accepted_iff :
    ask.accepted = true ↔ ∃ result, ask.answer = .ok result ∧ result.rejection? = none := by
  rw [accepted, Option.isSome_iff_exists]
  exact exists_congr fun result => result?_eq_some_iff.trans Span.verdict_eq_ok_iff

theorem accepted_of_verdict_ok (h : Span.verdict ask.answer = .ok result) : ask.accepted = true := by
  rw [accepted, result?_eq_some_iff.2 h]
  rfl

theorem accepted_of_verdict_error {fault : Fault} (h : Span.verdict ask.answer = .error fault) :
    ask.accepted = false := by
  rw [accepted, result?, h]
  rfl

theorem filter_map_exchange (asks : List Ask) :
    (asks.map exchange).filter Exchange.isStatement = asks.map exchange := by
  rw [List.filter_eq_self]
  intro x hx
  obtain ⟨ask, -, rfl⟩ := List.mem_map.1 hx
  rfl

/-- The asks in which statements were accepted. -/
def ofAccepted (entry : Plan.Stage × QueryResult) : Ask where
  statement := entry.1.statement
  answer := .ok entry.2

theorem map_exchange_ofAccepted (accepted : List (Plan.Stage × QueryResult)) :
    (accepted.map ofAccepted).map exchange = Span.acceptances accepted := by
  rw [List.map_map]
  rfl

theorem map_statement_ofAccepted (accepted : List (Plan.Stage × QueryResult)) :
    (accepted.map ofAccepted).map statement = (accepted.map Prod.fst).map Plan.Stage.statement := by
  rw [List.map_map, List.map_map]
  rfl

end Ask

variable {σ : Type}

namespace Guarded

variable {g : Guarded σ}

/-- The messages of a session are no statements. -/
theorem filter_relief [WireSession σ] (g : Guarded σ) : g.relief.filter Exchange.isStatement = [] := by
  rw [List.filter_eq_nil_iff]
  intro x hx
  rcases call_of_mem_relief hx with hcall | hcall
  · simp [Exchange.isStatement, hcall]
  · simp [Exchange.isStatement, hcall]

/-- A block is opened for a statement on a connection that is ready, at a level that has blocks. -/
theorem map_entering (g : Guarded σ) :
    g.entering.map (·.statement) = if g.status = .ready then g.isolation.beginStatement.toList else [] := by
  unfold entering
  split
  · rw [List.map_map]
    exact List.map_id _
  · rfl

end Guarded

namespace Span

variable {α : Type} {g g' : Guarded σ} {xs : List Exchange}

theorem filter_messageExchanges [WireSession σ] (session : σ) :
    (messageExchanges session).filter Exchange.isStatement = [] :=
  rfl

/-- The statements of a plan are sent in their order, and all of them if the plan succeeds. -/
theorem Carried.asks {plan : Plan} {read : List QueryResult → Option α} {r : Except Fault α}
    (h : Carried g plan read xs r g') :
    ∃ asks : List Ask, xs = asks.map Ask.exchange ∧
      asks.map (·.statement) <+: plan.stages.map (·.statement) ∧
      ((∃ x, r = .ok x) → asks.map (·.statement) = plan.stages.map (·.statement)) := by
  cases h with
  | accepted accepted x session haccepted hstages hread =>
    have hall : (accepted.map Ask.ofAccepted).map (·.statement) = plan.stages.map (·.statement) := by
      rw [← hstages]
      exact Ask.map_statement_ofAccepted accepted
    exact ⟨_, (Ask.map_exchange_ofAccepted accepted).symm, hall ▸ List.prefix_rfl, fun _ => hall⟩
  | refused accepted stage rest answer fault session haccepted hstages hverdict =>
    refine ⟨accepted.map Ask.ofAccepted ++ [⟨stage.statement, answer⟩], ?_, ?_, fun ⟨x, hx⟩ => nomatch hx⟩
    · rw [List.map_append, Ask.map_exchange_ofAccepted]
      rfl
    · rw [← hstages, List.map_append, List.map_append]
      refine ⟨rest.map (·.statement), ?_⟩
      rw [List.append_assoc]
      congr 1
      exact Ask.map_statement_ofAccepted accepted

/-- How a query goes: `begun` is what opens a block for it, and `asked` the query itself. -/
structure Queried (g : Guarded σ) (sql : String) (begun asked : List Ask) (r : Except Fault QueryResult)
    (g' : Guarded σ) : Prop where
  begins : begun.map (·.statement) = g.entering.map (·.statement)
  asks : asked.map (·.statement) = if begun.all (·.accepted) then [sql] else []
  result : r.toOption = asked.head?.bind Ask.result?
  status : g'.status = if begun ≠ [] ∧ begun.all (·.accepted) then .inBlock else g.status
  isolation : g'.isolation = g.isolation

namespace Queried

variable {sql : String} {begun : List Ask} {answer : Except String QueryResult}
  {r : Except Fault QueryResult}

/-- What opens the block was accepted, and the query comes to what is made of its answer. -/
theorem of_answer (hbegins : begun.map (·.statement) = g.entering.map (·.statement))
    (hbegun : begun.all (·.accepted) = true) (hr : verdict answer = r)
    (hstatus : g'.status = if begun ≠ [] then .inBlock else g.status)
    (hisolation : g'.isolation = g.isolation) :
    Queried g sql begun [⟨sql, answer⟩] r g' where
  begins := hbegins
  asks := by rw [hbegun]; rfl
  result := by rw [← hr]; rfl
  status := by simpa only [hbegun, and_true] using hstatus
  isolation := hisolation

/-- What opens the block failed, and the query was not sent. -/
theorem of_refusal {statement : String} {fault : Fault}
    (hbegins : [statement] = g.entering.map (·.statement)) (hverdict : verdict answer = .error fault)
    (hr : r = .error fault) (hstatus : g'.status = g.status) (hisolation : g'.isolation = g.isolation) :
    Queried g sql [⟨statement, answer⟩] [] r g' where
  begins := hbegins
  asks := by rw [List.all_cons, Ask.accepted_of_verdict_error hverdict]; rfl
  result := by rw [hr]; rfl
  status := by
    rw [List.all_cons, Ask.accepted_of_verdict_error hverdict, if_neg (by simp)]
    exact hstatus
  isolation := hisolation

end Queried

/-- Where only one statement is left, no other one can have been accepted or refused before it. -/
theorem refused_of_single {accepted : List (Plan.Stage × QueryResult)} {stage only : Plan.Stage}
    {rest : List Plan.Stage} (h : accepted.map Prod.fst ++ stage :: rest = [only]) :
    accepted = [] ∧ stage = only := by
  rcases List.append_eq_singleton_iff.1 h with ⟨hnil, hcons⟩ | ⟨-, hnil⟩
  · exact ⟨List.map_eq_nil_iff.1 hnil, (List.cons.inj hcons).1⟩
  · cases hnil

theorem Carried.queried {sql : String} {r : Except Fault QueryResult}
    (h : Carried g { stages := g.entering ++ [{ statement := sql }] } List.getLast? xs r g') :
    ∃ begun asked : List Ask, xs = (begun ++ asked).map Ask.exchange ∧ Queried g sql begun asked r g' := by
  have hverdict : ∀ {result : QueryResult}, result.rejection? = none → verdict (.ok result) = .ok result :=
    fun hnone => verdict_eq_ok_iff.2 ⟨rfl, hnone⟩
  rcases g.entering_eq with hentering | ⟨statement, -, -, hentering⟩
  · -- the query is the only statement
    rw [hentering] at h
    have hbegins : [] = g.entering.map (·.statement) := by rw [hentering]; rfl
    cases h with
    | accepted accepted x session haccepted hstages hread =>
      obtain ⟨⟨stage, result⟩, rfl, rfl⟩ := List.map_eq_singleton_iff.1 hstages
      cases hread
      have hresult := hverdict (haccepted _ (List.mem_singleton_self _))
      exact ⟨[], [⟨sql, .ok result⟩], rfl, .of_answer hbegins rfl hresult rfl rfl⟩
    | refused accepted stage rest answer fault session haccepted hstages hrefused =>
      obtain ⟨rfl, rfl⟩ := refused_of_single hstages
      exact ⟨[], [⟨sql, answer⟩], rfl, .of_answer hbegins rfl hrefused rfl rfl⟩
  · -- the query comes after the statement that opens a block
    rw [hentering] at h
    have hbegins : [statement] = g.entering.map (·.statement) := by rw [hentering]; rfl
    have hbegun : ∀ {begun : QueryResult}, begun.rejection? = none →
        [(⟨statement, .ok begun⟩ : Ask)].all (·.accepted) = true := by
      intro begun hnone
      rw [List.all_cons, Ask.accepted_of_verdict_ok (hverdict hnone)]
      rfl
    cases h with
    | accepted accepted x session haccepted hstages hread =>
      obtain ⟨⟨first, begun⟩, tail, rfl, rfl, htail⟩ := List.map_eq_cons_iff.1 hstages
      obtain ⟨⟨stage, result⟩, rfl, rfl⟩ := List.map_eq_singleton_iff.1 htail
      cases hread
      have hresult := hverdict (haccepted _ (List.mem_cons_of_mem _ (List.mem_singleton_self _)))
      exact ⟨[⟨statement, .ok begun⟩], [⟨sql, .ok result⟩], rfl,
        .of_answer hbegins (hbegun (haccepted _ List.mem_cons_self)) hresult rfl rfl⟩
    | refused accepted stage rest answer fault session haccepted hstages hrefused =>
      rcases accepted with _ | ⟨⟨first, begun⟩, accepted⟩
      · cases hstages
        exact ⟨[⟨statement, answer⟩], [], rfl, .of_refusal hbegins hrefused rfl rfl rfl⟩
      · obtain ⟨rfl, hrest⟩ := List.cons.inj hstages
        obtain ⟨rfl, rfl⟩ := refused_of_single hrest
        exact ⟨[⟨statement, .ok begun⟩], [⟨sql, answer⟩], rfl,
          .of_answer hbegins (hbegun (haccepted _ List.mem_cons_self)) hrefused rfl rfl⟩

end Span

namespace Connection

open SessionLayer.Span

variable [WireSession σ] {c : Connection σ}

/-- An operation that answers at once sends no statement. -/
theorem AtOnce.filter_exchanges {op : Operation} {r : Except Fault op.Answer} (h : c.AtOnce op r) :
    (c.perform op).exchanges.filter Exchange.isStatement = [] := by
  rw [h.exchanges, Guarded.filter_relief]

/-- An operation of blocking connections sends the statements of its plan as far as it gets, whatever
connection it is asked of. -/
theorem asks_perform (h : c.guarded.Settled c.asynchronous) (op : Operation) {plan : Plan} {name : String}
    (hname : op.blockingName? = some name) (hplan : op.plan c.guarded = some plan) :
    ∃ asks : List Ask, (c.perform op).exchanges.filter Exchange.isStatement = asks.map Ask.exchange ∧
      asks.map (·.statement) <+: plan.stages.map (·.statement) ∧
      ((∃ x, (c.perform op).result = .ok x) →
        asks.map (·.statement) = plan.stages.map (·.statement)) := by
  have hrefused : ∀ {fault : Fault}, c.Refuses op fault →
      ∃ asks : List Ask, (c.perform op).exchanges.filter Exchange.isStatement = asks.map Ask.exchange ∧
        asks.map (·.statement) <+: plan.stages.map (·.statement) ∧
        ((∃ x, (c.perform op).result = .ok x) →
          asks.map (·.statement) = plan.stages.map (·.statement)) := by
    intro fault hrefuses
    refine ⟨[], hrefuses.filter_exchanges, List.nil_prefix, fun ⟨x, hx⟩ => ?_⟩
    rw [hrefuses.result] at hx
    cases hx
  by_cases hclosed : c.guarded.status = .closed
  · refine hrefused (refuses_of_closed hclosed ?_)
    rintro rfl
    cases hname
  · cases ha : c.asynchronous with
    | true => exact hrefused (refuses_of_asynchronous hclosed ha hname)
    | false =>
      obtain ⟨xs, g', session, hcarried, hexchanges, -⟩ := carried_perform h ha hclosed hplan
      obtain ⟨asks, rfl, hsent, hall⟩ := hcarried.asks
      refine ⟨asks, ?_, hsent, hall⟩
      rw [hexchanges, List.filter_append, filter_messageExchanges, Ask.filter_map_exchange, List.append_nil]

/-- A query on an open blocking connection. -/
theorem queried_perform (h : c.guarded.Settled c.asynchronous) (hblocking : c.asynchronous = false)
    (hopen : c.guarded.status ≠ .closed) (sql : String) :
    ∃ begun asked : List Ask,
      (c.perform (.execute sql)).exchanges.filter Exchange.isStatement =
        (begun ++ asked).map Ask.exchange ∧
      Queried c.guarded sql begun asked (c.perform (.execute sql)).result
        (c.perform (.execute sql)).guarded := by
  have hplan : (Operation.execute sql).plan c.guarded =
      some { stages := c.guarded.entering ++ [{ statement := sql }] } :=
    rfl
  obtain ⟨xs, g', session, hcarried, hexchanges, hguarded⟩ := carried_perform h hblocking hopen hplan
  obtain ⟨begun, asked, rfl, hqueried⟩ := Carried.queried hcarried
  refine ⟨begun, asked, ?_, ?_⟩
  · rw [hexchanges, List.filter_append, filter_messageExchanges, Ask.filter_map_exchange, List.append_nil]
  · rw [hguarded]
    exact { hqueried with status := hqueried.status, isolation := hqueried.isolation }

end Connection

end SessionLayer
