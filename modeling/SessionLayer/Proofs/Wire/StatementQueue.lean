import SessionLayer.Connection.Span.Lemmas
import SessionLayer.Wire.Script

/-!
# Sessions that queue statements

A session of the class `StatementQueue` queues the statements that it accepts, and hands out their
results in the order in which they were submitted. A call that fails keeps the queue as it is. Scripted
sessions are of this class.
-/

set_option autoImplicit false

namespace SessionLayer

open WireSession

/-- A call that neither runs nor submits a statement, and fetches no result. -/
def Call.isAside : Call → Bool
  | .send _ | .getResult | .exec _ | .reset => false
  | _ => true

class StatementQueue (σ : Type) [WireSession σ] where
  /-- What the session knows a statement by. -/
  Statement : Type
  /-- The statements whose results have not all been handed out, the oldest first. -/
  pending : σ → List Statement
  /-- The statement of the given text that the session would accept next. -/
  statement : σ → String → Statement
  Produces : Statement → QueryResult → Prop
  pending_accepted : ∀ (sql : String) (s : σ), (respond (.send sql) s).1 = .ok () →
    pending (respond (.send sql) s).2 = pending s ++ [statement s sql]
  pending_refused : ∀ (sql : String) (s : σ) (text : String),
    (respond (.send sql) s).1 = .error text → pending (respond (.send sql) s).2 = pending s
  /-- A result is one of the oldest statement, which may be done with it. -/
  pending_result : ∀ (s : σ) (r : QueryResult), (respond .getResult s).1 = some r →
    ∃ statement rest, pending s = statement :: rest ∧ Produces statement r ∧
      (pending (respond .getResult s).2 = statement :: rest ∨ pending (respond .getResult s).2 = rest)
  /-- That there is no result means that the oldest statement is done. -/
  pending_done : ∀ s : σ, (respond .getResult s).1 = none →
    pending (respond .getResult s).2 = (pending s).tail
  pending_aside : ∀ (call : Call) (s : σ), call.isAside → pending (respond call s).2 = pending s

namespace StatementQueue

variable {σ : Type} [WireSession σ] [StatementQueue σ]

/-- Whatever is fetched was produced by a statement that was pending. -/
theorem produces_of_mem_fetchAll (s : σ) {r : QueryResult} (hr : r ∈ (Span.fetchAll s).1) :
    ∃ statement ∈ pending s, Produces statement r := by
  cases hanswer : (respond .getResult s).1 with
  | none =>
    rw [Span.fetchAll_of_none hanswer] at hr
    exact nomatch hr
  | some result =>
    have hlt := backlog_lt s result hanswer
    obtain ⟨statement, rest, hpending, hproduces, hafter⟩ := pending_result s result hanswer
    rw [Span.fetchAll_of_some hanswer] at hr
    rcases List.mem_cons.1 hr with rfl | hr
    · exact ⟨statement, hpending ▸ List.mem_cons_self, hproduces⟩
    · obtain ⟨other, hother, hproduced⟩ := produces_of_mem_fetchAll _ hr
      refine ⟨other, ?_, hproduced⟩
      rw [hpending]
      rcases hafter with hafter | hafter
      · exact hafter ▸ hother
      · exact List.mem_cons_of_mem _ (hafter ▸ hother)
termination_by backlog s

/-- A statement that is the only one pending is done once its results have been fetched. -/
theorem pending_fetchAll (s : σ) (h : (pending s).length ≤ 1) :
    pending (Span.fetchAll s).2 = [] := by
  cases hanswer : (respond .getResult s).1 with
  | none =>
    rw [Span.fetchAll_of_none hanswer]
    refine (pending_done s hanswer).trans (List.eq_nil_of_length_eq_zero ?_)
    rw [List.length_tail]
    omega
  | some result =>
    have hlt := backlog_lt s result hanswer
    obtain ⟨statement, rest, hpending, -, hafter⟩ := pending_result s result hanswer
    rw [Span.fetchAll_of_some hanswer]
    refine pending_fetchAll _ ?_
    rcases hafter with hafter | hafter
    · rwa [hafter, ← hpending]
    · rw [hpending, List.length_cons] at h
      rw [hafter]
      omega
termination_by backlog s

end StatementQueue

namespace ScriptedSession

/-- A statement has one result, which is queued unless the transport fails. -/
theorem results_submit (s : ScriptedSession) (sql : String) :
    (∃ text, (s.submit sql).1 = .error text ∧ (s.submit sql).2.results = s.results) ∨
      ((s.submit sql).1 = .ok () ∧ (s.submit sql).2.results = s.results ++ [s.script.answer sql]) := by
  unfold submit run
  cases s.script.failures.lookup sql with
  | some text => exact Or.inl ⟨text, rfl, rfl⟩
  | none => exact Or.inr ⟨rfl, rfl⟩

/-- A call that neither submits nor fetches leaves the results that wait. -/
theorem results_respond {call : Call} (hcall : call.isAside) (s : ScriptedSession) :
    (respond call s).2.results = s.results := by
  cases call with
  | send _ | getResult | exec _ | reset => exact nomatch hcall
  | flush =>
    simp only [respond]
    split <;> rfl
  | _ => rfl

/-- A statement is known by its one result. -/
instance : StatementQueue ScriptedSession where
  Statement := QueryResult
  pending := results
  statement s sql := s.script.answer sql
  Produces := Eq
  pending_accepted sql s h := by
    rcases results_submit s sql with ⟨text, htext, -⟩ | ⟨-, hresults⟩
    · exact nomatch htext.symm.trans h
    · exact hresults
  pending_refused sql s text h := by
    rcases results_submit s sql with ⟨-, -, hresults⟩ | ⟨hok, -⟩
    · exact hresults
    · exact nomatch hok.symm.trans h
  pending_result s r h := by
    replace h : s.results.head? = some r := h
    obtain ⟨rest, hrest⟩ := List.head?_eq_some_iff.1 h
    refine ⟨r, rest, hrest, rfl, Or.inr ?_⟩
    show s.results.tail = rest
    rw [hrest, List.tail_cons]
  pending_done _ _ := rfl
  pending_aside _ s hcall := results_respond hcall s

end ScriptedSession

end SessionLayer
