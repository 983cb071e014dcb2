import SessionLayer.Proofs.Span.Talk

/-!
# Operations that do not wait for the server

An operation that may not block makes no call that may wait for the server. To close a connection
completes no statement.
-/

set_option autoImplicit false

namespace SessionLayer

variable {σ : Type} [WireSession σ]

namespace Span

/-- To make no call that may wait for the server. -/
def prompt : Discipline σ where
  relates s t := ∃ xs, t.exchanges = s.exchanges ++ xs ∧ ∀ x ∈ xs, x.call.blocks = false
  permits call := call.blocks = false
  refl := fun s => ⟨[], (List.append_nil _).symm, by simp⟩
  trans := by
    rintro s t u ⟨xs, ht, hxs⟩ ⟨ys, hu, hys⟩
    refine ⟨xs ++ ys, by rw [hu, ht, List.append_assoc], fun x hx => ?_⟩
    exact (List.mem_append.1 hx).elim (hxs x) (hys x)
  asked := fun hcall _ answer _ => ⟨[{ call := _, answer }], rfl, by simpa using hcall⟩
  touched := fun _ _ => ⟨[], (List.append_nil _).symm, by simp⟩
  tornDown := fun s => by
    rw [exec_tearDown]
    refine ⟨_, rfl, ?_⟩
    cases s.guarded.session with
    | none => simp
    | some session => simp [Runs.farewell, messageExchanges, Call.blocks]

/-- To take over the messages of a session in the end does not wait for the server either. -/
theorem prompt_run {α : Type} {span : Span σ α} {g : Guarded σ}
    (h : prompt.relates { guarded := g } (span.exec { guarded := g }).2) :
    ∀ x ∈ (span.run g).exchanges, x.call.blocks = false := by
  rcases hexec : span.exec { guarded := g } with ⟨r, t⟩
  rw [hexec] at h
  obtain ⟨xs, hxs, hprompt⟩ := h
  rw [List.nil_append] at hxs
  cases hs : t.guarded.session with
  | none =>
    rw [run_of_exec_none hexec hs, hxs]
    exact hprompt
  | some session =>
    rw [run_of_exec_some hexec hs, hxs]
    intro x hx
    rcases List.mem_append.1 hx with hx | hx
    · exact hprompt x hx
    · simp only [messageExchanges, List.mem_cons, List.not_mem_nil, or_false] at hx
      rcases hx with rfl | rfl
      · rfl
      · rfl

end Span

namespace Connection

theorem prompt_perform {c : Connection σ} {op : Operation} (hop : c.mayBlock op = false) :
    ∀ x ∈ (c.perform op).exchanges, x.call.blocks = false :=
  Span.prompt_run (Span.Discipline.relates_span_of_not_mayBlock (d := Span.prompt) (fun _ _ h => h)
    hop rfl)

theorem completion_close (c : Connection σ) : (c.perform .close).completion = none := by
  have hends : Span.Ends (c.span .close) { guarded := c.guarded } fun _ t => t.completion = none := by
    unfold Span.Ends span
    rw [Span.exec_bind_ok (Span.exec_guarded _)]
    split
    · rw [Span.exec_tearDown]
    · rfl
  obtain ⟨t, ht, hcompletion, -⟩ := Span.run_of_ends hends
  exact hcompletion.trans ht

end Connection

end SessionLayer
