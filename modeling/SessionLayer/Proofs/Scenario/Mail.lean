import SessionLayer.Proofs.Scenario.History
import SessionLayer.Proofs.Span.Talk

/-!
# What the trace tells of messages

`World.absorbed` lists the batches that went into the mailbox of a connection, `World.shown` whom they
were to be shown to, and `World.told` who was told of which notice. Spans leave all that alone
(`Spoken`), as everything that is idle does; it grows when a batch is absorbed and when an observer is
told.
-/

set_option autoImplicit false

namespace SessionLayer

/-- The messages of several batches, in order. -/
def Batch.join (batches : List Batch) : Batch :=
  { notices := batches.flatMap Batch.notices
    notifications := batches.flatMap Batch.notifications }

theorem Batch.join_append (batches more : List Batch) :
    join (batches ++ more) = join batches ++ join more := by
  simp only [join, List.flatMap_append]
  rfl

theorem Batch.join_singleton (batch : Batch) : join [batch] = batch := by
  simp [join]

namespace Scenario

namespace Event

/-- The batch that went into the mailbox of a connection. -/
def absorbedBy? (key : Nat) : Event → Option Batch
  | .absorbed k batch _ => if k = key then some batch else none
  | _ => none

/-- Who was told of which notice. -/
def told? : Event → Option (Nat × String)
  | .signalled listener _ (.notice notice) => some (listener, notice)
  | _ => none

/-- Who is to be told of which notice because a batch was absorbed. -/
def shown : Event → List (Nat × String)
  | .absorbed _ batch audience => Mailbox.showings audience batch
  | _ => []

/-- Whether a batch was absorbed or an observer was told. -/
def isMail : Event → Bool
  | .absorbed .. | .signalled _ _ (.notice _) => true
  | _ => false

variable {event : Event}

theorem isMail_of_isIdle (h : event.isIdle) : event.isMail = false := by
  unfold isMail
  split <;> simp_all [isIdle]

theorem absorbedBy?_of_not_isMail (h : event.isMail = false) (key : Nat) :
    event.absorbedBy? key = none := by
  cases event <;> simp_all [isMail, absorbedBy?]

theorem told?_of_not_isMail (h : event.isMail = false) : event.told? = none := by
  unfold told?
  split
  · simp [isMail] at h
  · rfl

theorem shown_of_not_isMail (h : event.isMail = false) : event.shown = [] := by
  cases event <;> simp_all [isMail, shown]

end Event

namespace World

variable {κ σ : Type} {w w₁ w₂ : World κ σ} {key : Nat}

/-- The batches that went into the mailbox of a connection so far. -/
def absorbed (w : World κ σ) (key : Nat) : List Batch :=
  w.trace.filterMap (Event.absorbedBy? key)

/-- The observers that were told so far, each with the notice. -/
def told (w : World κ σ) : List (Nat × String) :=
  w.trace.filterMap Event.told?

/-- The observers that were to be told so far, each with the notice. -/
def shown (w : World κ σ) : List (Nat × String) :=
  w.trace.flatMap Event.shown

section Trace

variable {events : List Event}

theorem absorbed_append (htrace : w₁.trace = w.trace ++ events) (key : Nat) :
    w₁.absorbed key = w.absorbed key ++ events.filterMap (Event.absorbedBy? key) := by
  rw [absorbed, htrace, List.filterMap_append]
  rfl

theorem told_append (htrace : w₁.trace = w.trace ++ events) :
    w₁.told = w.told ++ events.filterMap Event.told? := by
  rw [told, htrace, List.filterMap_append]
  rfl

theorem shown_append (htrace : w₁.trace = w.trace ++ events) :
    w₁.shown = w.shown ++ events.flatMap Event.shown := by
  rw [shown, htrace, List.flatMap_append]
  rfl

end Trace

/-- Nothing happened to mail. -/
structure Mailless (w w' : World κ σ) : Prop where
  absorbed : ∀ key, w'.absorbed key = w.absorbed key
  told : w'.told = w.told
  shown : w'.shown = w.shown

namespace Mailless

theorem trans (h : w.Mailless w₁) (h' : w₁.Mailless w₂) : w.Mailless w₂ where
  absorbed := fun key => (h'.absorbed key).trans (h.absorbed key)
  told := h'.told.trans h.told
  shown := h'.shown.trans h.shown

theorem of_trace {events : List Event} (htrace : w₁.trace = w.trace ++ events)
    (hevents : ∀ event ∈ events, event.isMail = false) : w.Mailless w₁ where
  absorbed := by
    intro key
    have hnone : events.filterMap (Event.absorbedBy? key) = [] :=
      List.filterMap_eq_nil_iff.2 fun event hmem => Event.absorbedBy?_of_not_isMail (hevents event hmem) key
    rw [absorbed_append htrace, hnone, List.append_nil]
  told := by
    have hnone : events.filterMap Event.told? = [] :=
      List.filterMap_eq_nil_iff.2 fun event hmem => Event.told?_of_not_isMail (hevents event hmem)
    rw [told_append htrace, hnone, List.append_nil]
  shown := by
    have hnone : events.flatMap Event.shown = [] :=
      List.flatMap_eq_nil_iff.2 fun event hmem => Event.shown_of_not_isMail (hevents event hmem)
    rw [shown_append htrace, hnone, List.append_nil]

theorem of_idle (h : w.Idle w₁) : w.Mailless w₁ := by
  obtain ⟨events, htrace, hidle⟩ := h.trace
  exact .of_trace htrace fun event hmem => Event.isMail_of_isIdle (hidle event hmem)

end Mailless

/-! ## Spans -/

/-- Connections are spoken to, but no mail arrives: mailboxes are what they were, and those of new
connections have no observers. -/
structure Spoken (w w' : World κ σ) : Prop where
  length_listeners : w'.listeners.length = w.listeners.length
  kept : ∀ (key : Nat) (c : Connection σ), w.connections[key]? = some c → ∃ c',
    w'.connections[key]? = some c' ∧ c'.mailbox = c.mailbox
  new : ∀ (key : Nat) (c : Connection σ), w.connections[key]? = none →
    w'.connections[key]? = some c → c.mailbox.observers = []
  mailless : w.Mailless w'

namespace Spoken

theorem of_connections {events : List Event} (hlisteners : w₁.listeners = w.listeners)
    (hconnections : w₁.connections = w.connections) (htrace : w₁.trace = w.trace ++ events)
    (hevents : ∀ event ∈ events, event.isMail = false) : w.Spoken w₁ where
  length_listeners := by rw [hlisteners]
  kept := fun key c hc => ⟨c, by rw [hconnections, hc], rfl⟩
  new := by
    intro key c hnone hc
    rw [hconnections, hnone] at hc
    exact nomatch hc
  mailless := .of_trace htrace hevents

theorem trans (h : w.Spoken w₁) (h' : w₁.Spoken w₂) : w.Spoken w₂ where
  length_listeners := h'.length_listeners.trans h.length_listeners
  kept := by
    intro key c hc
    obtain ⟨c₁, hc₁, hsame⟩ := h.kept key c hc
    obtain ⟨c₂, hc₂, hsame'⟩ := h'.kept key c₁ hc₁
    exact ⟨c₂, hc₂, hsame'.trans hsame⟩
  new := by
    intro key c hnone hc
    cases hc₁ : w₁.connections[key]? with
    | none => exact h'.new key c hc₁ hc
    | some c₁ =>
      obtain ⟨c₂, hc₂, hsame⟩ := h'.kept key c₁ hc₁
      cases hc₂.symm.trans hc
      rw [hsame]
      exact h.new key c₁ hnone hc₁
  mailless := h.mailless.trans h'.mailless

theorem detached {α : Type} {hooked : Bool} {call : World κ σ → α × World κ σ}
    (hcall : ∀ w : World κ σ, w.Spoken (call w).2) (w : World κ σ) :
    w.Spoken (World.detached key hooked call w).2 := by
  refine detached_of_trans (R := Spoken) trans (fun w => ?_) (fun w => ?_) hcall w
  · exact .of_connections rfl rfl rfl (by simp [Event.isMail])
  · exact .of_connections rfl rfl rfl (by simp [Event.isMail])

theorem creating (w : World κ σ) (dsn : String) (asynchronous : Bool) (settings : Settings)
    (hooked : Bool) : w.Spoken (w.creating dsn asynchronous settings hooked) where
  length_listeners := rfl
  kept := by
    intro key c hc
    refine ⟨c, ?_, rfl⟩
    rw [World.creating, List.getElem?_append_left (List.getElem?_eq_some_iff.1 hc).1, hc]
  new := by
    intro key c hnone hc
    rw [World.creating, List.getElem?_append_right (List.getElem?_eq_none_iff.1 hnone)] at hc
    rw [List.mem_singleton.1 (List.mem_of_getElem? hc)]
    rfl
  mailless := .of_trace (List.append_nil _).symm (by simp)

variable [WireSession σ]

theorem runSpan {α : Type} (w : World κ σ) (key : Nat) (span : Connection σ → Span σ α) :
    w.Spoken (w.runSpan key span).2 where
  length_listeners := by
    cases hc : w.connections[key]? with
    | none => rw [runSpan_of_none hc]
    | some c => rw [runSpan_of_some hc]; rfl
  kept := by
    intro k c hc
    by_cases hk : k = key
    · subst hk
      exact ⟨_, connection_runSpan_self hc span, rfl⟩
    · exact ⟨c, (connection_runSpan_of_ne w hk span).trans hc, rfl⟩
  new := by
    intro k c hnone hc
    have hlt := (List.getElem?_eq_some_iff.1 hc).1
    rw [length_connections_runSpan] at hlt
    exact absurd hlt (Nat.not_lt.2 (List.getElem?_eq_none_iff.1 hnone))
  mailless := by
    obtain ⟨xs, htrace⟩ := w.trace_runSpan key span
    refine .of_trace htrace fun event hmem => ?_
    obtain ⟨x, -, rfl⟩ := List.mem_map.1 hmem
    rfl

theorem operating (w : World κ σ) (key : Nat) (hooked : Bool) (op : Operation) :
    w.Spoken (w.operating key hooked op) :=
  detached (fun w => runSpan w key _) w

variable [Connector κ σ]

theorem establish (w : World κ σ) (key : Nat) (blocking : Bool) (dsn : String) :
    w.Spoken (w.establish key blocking dsn).2 := by
  refine establish_of_trans (R := Spoken) trans (fun w connector failure => ?_)
    (fun w span => runSpan w key span) w
  exact .of_connections rfl rfl rfl (by simp [Event.isMail])

theorem opening (w : World κ σ) (dsn : String) (asynchronous : Bool) (settings : Settings)
    (hooked : Bool) : w.Spoken (w.opening dsn asynchronous settings hooked).2 :=
  (creating w dsn asynchronous settings hooked).trans (detached (fun w => establish w _ _ _) _)

end Spoken

end World

end Scenario

end SessionLayer
