import SessionLayer.Detach

/-!
# Guarded values

A value that is only touched under its guard. A span that may block goes through the embedder's hook,
which counts its calls.
-/

set_option autoImplicit false

namespace SessionLayer.Detach

/-- A guarded value with the hook for spans that may block. -/
structure Lock (α : Type) where
  value : α
  /-- How often the hook invokes the call that it is handed, by the number of the call. -/
  hook : Nat → Nat
  calls : Nat := 0

namespace Lock

variable {α β : Type}

/-- Runs a span that does not block. -/
def hold (f : α → β × α) (l : Lock α) : β × Lock α :=
  ((f l.value).1, { l with value := (f l.value).2 })

/-- Runs a span that may block. -/
def holdDetached (f : α → β × α) (l : Lock α) : β × Lock α :=
  through (l.hook l.calls) (fun l => { l with calls := l.calls + 1 }) id (hold f) l

/-- A guard in one line, for diagnostics. -/
def diagnostic (isHeld : Bool) : String :=
  "SessionLock \x7b locked: " ++ (if isHeld then "true" else "false") ++ ", .. \x7d"

end Lock

end SessionLayer.Detach
