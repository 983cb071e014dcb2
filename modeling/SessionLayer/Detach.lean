/-!
# Detached calls

An embedder may wrap every call that can block in a hook of its own, which is handed the call as
something to invoke. A hook should invoke it exactly once. `through` holds its promise for any other
hook as well: the first invocation runs the call, later ones do nothing, and a call that the hook never
invoked is run after the hook has returned.
-/

set_option autoImplicit false

namespace SessionLayer.Detach

variable {σ α : Type}

/-- A call on the way through a hook: what is left to run, what it yielded, and the state. -/
structure Attempt (σ α : Type) where
  waiting : Option (σ → α × σ)
  yielded : Option α
  state : σ

namespace Attempt

/-- A call that has not been invoked yet. -/
def start (f : σ → α × σ) (s : σ) : Attempt σ α :=
  { waiting := some f, yielded := none, state := s }

/-- One invocation: runs the call where it still waits. -/
def invoke (a : Attempt σ α) : Attempt σ α :=
  match a.waiting with
  | none => a
  | some f => { waiting := none, yielded := some (f a.state).1, state := (f a.state).2 }

/-- As many invocations as the hook makes. -/
def invokeTimes : Nat → Attempt σ α → Attempt σ α
  | 0, a => a
  | n + 1, a => invokeTimes n a.invoke

/-- A change of the state that is not made by the call. -/
def touch (f : σ → σ) (a : Attempt σ α) : Attempt σ α :=
  { a with state := f a.state }

/-- Whether the call still waits or has yielded something. -/
def Sound (a : Attempt σ α) : Prop :=
  a.waiting.isSome ∨ a.yielded.isSome

/-- What comes of a call once the hook has returned, `none` if it was used up without a yield. -/
def conclude (a : Attempt σ α) : Option (α × σ) :=
  match a.yielded, a.waiting with
  | some x, _ => some (x, a.state)
  | none, some f => some (f a.state)
  | none, none => none

theorem sound_start (f : σ → α × σ) (s : σ) : (start f s).Sound :=
  Or.inl rfl

theorem Sound.invoke {a : Attempt σ α} (h : a.Sound) : a.invoke.Sound := by
  unfold Attempt.invoke
  split
  · exact h
  · exact Or.inr rfl

theorem Sound.invokeTimes {a : Attempt σ α} (n : Nat) (h : a.Sound) :
    (a.invokeTimes n).Sound := by
  induction n generalizing a with
  | zero => exact h
  | succ n ih => exact ih h.invoke

theorem Sound.touch {a : Attempt σ α} (g : σ → σ) (h : a.Sound) : (a.touch g).Sound :=
  h

theorem Sound.isSome_conclude {a : Attempt σ α} (h : a.Sound) : a.conclude.isSome := by
  unfold conclude
  rcases a with ⟨_ | f, _ | x, s⟩ <;> simp_all [Sound]

end Attempt

/-- Runs a call through a hook that invokes it `times` times; `enter` and `leave` are what the hook
itself does to the state before and after its invocations. -/
def through (times : Nat) (enter leave : σ → σ) (f : σ → α × σ) (s : σ) : α × σ :=
  let attempt := ((Attempt.start f (enter s)).invokeTimes times).touch leave
  attempt.conclude.get
    (((Attempt.sound_start f (enter s)).invokeTimes times).touch leave).isSome_conclude

/-- A hook that never invokes the call has it run behind its back; any other one runs it once, within. -/
theorem through_eq (times : Nat) (enter leave : σ → σ) (f : σ → α × σ) (s : σ) :
    through times enter leave f s =
      if times = 0 then f (leave (enter s)) else ((f (enter s)).1, leave (f (enter s)).2) := by
  have used : ∀ n (x : α) (t : σ),
      Attempt.invokeTimes n { waiting := none, yielded := some x, state := t }
        = { waiting := none, yielded := some x, state := t } := by
    intro n x t
    induction n with
    | zero => rfl
    | succ n ih => exact ih
  apply Option.get_of_eq_some
  cases times with
  | zero => rfl
  | succ n =>
    show ((Attempt.invokeTimes n _).touch leave).conclude = _
    rw [Attempt.start, Attempt.invoke, used n]
    rfl

/-- A hook that leaves the state alone makes no difference, however often it invokes the call. -/
theorem through_id (times : Nat) (f : σ → α × σ) (s : σ) : through times id id f s = f s := by
  rw [through_eq]
  split <;> rfl

end SessionLayer.Detach
