import SessionLayer.Proofs.Connection.Refusal
import SessionLayer.Proofs.Connection.Statements

/-!
# What operations that fail leave of the metadata

`Metadata` is what a connection knows about its session. An operation of a blocking connection runs its
statements one after the other, and each one changes the metadata only once it has been accepted; so one
that fails has changed them as the statements before the last one say, and for most operations there are
no others. An operation that is refused changes nothing at all.
-/

set_option autoImplicit false

namespace SessionLayer

variable {σ : Type}

/-- What a connection knows about its session. -/
structure Metadata where
  status : Status
  isolation : Isolation
  info : Option SessionInfo
  inFlight : Option InFlight
  deriving DecidableEq, Repr

namespace Guarded

def metadata (g : Guarded σ) : Metadata where
  status := g.status
  isolation := g.isolation
  info := g.info
  inFlight := g.inFlight

@[simp] theorem metadata_on (g : Guarded σ) (session : σ) : (g.on session).metadata = g.metadata :=
  rfl

@[simp] theorem metadata_stashing (g : Guarded σ) (stash : Batch) :
    (g.stashing stash).metadata = g.metadata :=
  rfl

@[simp] theorem metadata_relieved [WireSession σ] (g : Guarded σ) :
    g.relieved.metadata = g.metadata :=
  rfl

end Guarded

/-- Once the guard is released, the metadata are those that the span has left. -/
theorem Span.metadata_run_of_ends [WireSession σ] {α : Type} {span : Span σ α} {g : Guarded σ}
    {Q : Except Fault α → Option Completion → Metadata → Prop}
    (h : Ends span { guarded := g } fun r t => Q r t.completion t.guarded.metadata) :
    Q (span.run g).result (span.run g).completion (span.run g).guarded.metadata := by
  obtain ⟨t, ht, hcompletion, hrun⟩ := run_of_ends h
  have hmetadata : (span.run g).guarded.metadata = t.guarded.metadata := by
    rcases hrun with hrun | ⟨session, -, hrun⟩
    · rw [hrun, Guarded.metadata_stashing]
    · rw [hrun, Guarded.metadata_stashing, Guarded.metadata_on]
  rwa [hcompletion, hmetadata]

/-- The server accepted a statement in one of the exchanges. -/
def Accepts (xs : List Exchange) (sql : String) : Prop :=
  ∃ result : QueryResult, { call := .exec sql, answer := .ok result } ∈ xs ∧ result.rejection? = none

/-! ## Statements before the last one -/

namespace Plan

/-- The last statement of a plan changes nothing unless it is accepted: these are all that may have
changed the connection where the plan fails. -/
def before (plan : Plan) : List Stage :=
  plan.stages.dropLast

end Plan

namespace Guarded

variable {g : Guarded σ}

/-- At most one statement opens a block, and it does so outside of one. -/
theorem entering_eq (g : Guarded σ) :
    g.entering = [] ∨ ∃ statement, g.status = .ready ∧ g.isolation.beginStatement = some statement ∧
      g.entering = [{ statement, status := some .inBlock }] := by
  unfold entering
  by_cases hready : g.status = .ready
  · rw [if_pos hready]
    cases hbegin : g.isolation.beginStatement with
    | none => exact Or.inl rfl
    | some statement => exact Or.inr ⟨statement, hready, rfl, rfl⟩
  · exact Or.inl (if_neg hready)

end Guarded

namespace Connection

open SessionLayer.Span

variable [WireSession σ] {c : Connection σ}

/-! ## Operations that run statements -/

/-- An operation that answers at once changes no metadata. -/
theorem AtOnce.metadata {op : Operation} {r : Except Fault op.Answer} (h : c.AtOnce op r) :
    (c.perform op).guarded.metadata = c.guarded.metadata := by
  rw [h.guarded, Guarded.metadata_relieved]

end Connection

end SessionLayer
