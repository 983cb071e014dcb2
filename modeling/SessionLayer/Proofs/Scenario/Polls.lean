import SessionLayer.Proofs.Scenario.Operations
import SessionLayer.Proofs.Span.Runs

/-!
# Polling a connection whose observers do not call back

`Connection.Polls c answers c'` says that polls of the connection `c` answer `answers`, none of which
is that the operation is complete, and lead to `c'`. A drive goes through these polls in any world.
-/

set_option autoImplicit false

namespace SessionLayer

namespace Connection

variable {σ : Type} [WireSession σ]

/-- Polls of `c` answer that there is more to be done, and lead to `c'`. -/
inductive Polls : Connection σ → List Readiness → Connection σ → Prop
  | refl (c : Connection σ) : Polls c [] c
  | step {c c' : Connection σ} {readiness : Readiness} {answers : List Readiness} :
      (c.perform .poll).result = .ok readiness → readiness ≠ .complete →
      (c.perform .poll).completion = none → Span.finishes (c.perform .poll).exchanges = 0 →
      Polls (c.after (c.perform .poll)) answers c' → Polls c (readiness :: answers) c'

namespace Polls

variable {c c₁ c₂ : Connection σ} {answers answers' : List Readiness}

theorem trans (h : Polls c answers c₁) (h' : Polls c₁ answers' c₂) :
    Polls c (answers ++ answers') c₂ := by
  induction h with
  | refl c => exact h'
  | step hresult hreadiness hcompletion hfinishes _ ih =>
    exact .step hresult hreadiness hcompletion hfinishes (ih h')

theorem observers_eq (h : Polls c answers c₁) : c₁.mailbox.observers = c.mailbox.observers := by
  induction h with
  | refl c => rfl
  | step _ _ _ _ _ ih => exact ih

/-- Fewer polls answer the first of the answers. -/
theorem take (h : Polls c answers c₁) (n : Nat) : ∃ c', Polls c (answers.take n) c' := by
  induction h generalizing n with
  | refl c =>
    rw [List.take_nil]
    exact ⟨c, .refl c⟩
  | @step c _ _ _ hresult hreadiness hcompletion hfinishes _ ih =>
    cases n with
    | zero => exact ⟨c, .refl c⟩
    | succ n =>
      obtain ⟨c', hpolls⟩ := ih n
      exact ⟨c', .step hresult hreadiness hcompletion hfinishes hpolls⟩

theorem complete_notMem (h : Polls c answers c₁) : Readiness.complete ∉ answers := by
  induction h with
  | refl c => exact List.not_mem_nil
  | step _ hreadiness _ _ _ ih => simp [Ne.symm hreadiness, ih]

end Polls

end Connection

namespace Scenario.World

variable {κ σ : Type} [WireSession σ] {react : Reactor κ σ} {key : Nat} {c c' : Connection σ}

/-- A drive goes through polls that answer that there is more to be done. -/
theorem drive_of_polls {answers : List Readiness} (h : c.Polls answers c') {w : World κ σ}
    (hc : w.connections[key]? = some c)
    (hreact : Discreet react key c.mailbox.observers) :
    ∃ w', w'.connections[key]? = some c' ∧
      Span.finishes (w'.exchanges key) = Span.finishes (w.exchanges key) ∧ SameCursors w w' ∧
      ∀ n before, (drive react key (answers.length + n) before).run w =
        (drive react key n (before ++ answers)).run w' := by
  induction h generalizing w with
  | refl c =>
    refine ⟨w, hc, rfl, .refl w, fun n before => ?_⟩
    rw [List.length_nil, Nat.zero_add, List.append_nil]
  | @step c c' readiness answers hresult hreadiness hcompletion hfinishes _ ih =>
    obtain ⟨w₁, hperform, hc₁, hexchanges, hsame⟩ :=
      perform_of_discreet hreact hc .poll Operation.noConfusion
    rw [hcompletion] at hperform
    obtain ⟨w', hc', hfinishes', hsame', hdrive⟩ := ih hc₁ hreact
    refine ⟨w', hc', ?_, hsame.trans hsame', fun n before => ?_⟩
    · rw [hfinishes', hexchanges, Span.finishes_append, hfinishes, Nat.add_zero]
    · have hlength : (readiness :: answers).length + n = (answers.length + n) + 1 := by
        rw [List.length_cons]
        omega
      have hmore : (drive react key (answers.length + n + 1) before).run w =
          (drive react key (answers.length + n) (before ++ [readiness])).run w₁ := by
        rw [drive, StateT.run_bind, hperform, hresult]
        cases readiness with
        | complete => exact absurd rfl hreadiness
        | needRead | needWrite => rfl
      rw [hlength, hmore, hdrive, List.append_assoc]
      rfl

/-- A drive that stops before the last of the polls answers the first of the answers. -/
theorem drive_of_polls_take {answers : List Readiness} (h : c.Polls answers c') {w : World κ σ}
    (hc : w.connections[key]? = some c) (hreact : Discreet react key c.mailbox.observers) {n : Nat}
    (hn : n ≤ answers.length) :
    ∃ w', (drive react key n []).run w = (.driven (answers.take n) none, w') := by
  obtain ⟨c₁, hpolls⟩ := h.take n
  obtain ⟨w', -, -, -, hdrive⟩ := drive_of_polls hpolls hc hreact
  have hstop := hdrive 0 []
  rw [List.length_take_of_le hn, Nat.add_zero, List.nil_append] at hstop
  exact ⟨w', hstop⟩

theorem drive_of_complete {w w' : World κ σ}
    (h : (perform react key .poll).run w = (.ok .complete, w')) (n : Nat) (before : List Readiness) :
    (drive react key (n + 1) before).run w = (.driven (before ++ [.complete]) none, w') := by
  unfold drive
  simp only [StateT.run_bind, h]
  rfl

theorem drive_of_error {w w' : World κ σ} {fault : Fault}
    (h : (perform react key .poll).run w = (.error fault, w')) (n : Nat) (before : List Readiness) :
    (drive react key (n + 1) before).run w = (.driven before (some fault), w') := by
  unfold drive
  simp only [StateT.run_bind, h]
  rfl

end Scenario.World

end SessionLayer
