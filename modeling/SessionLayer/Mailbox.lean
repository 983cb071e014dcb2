import SessionLayer.Mailbox.Batch
import SessionLayer.Mailbox.Bounded

/-!
# Mailboxes

The mailbox of a connection buffers the messages of the server until a caller takes them, and knows who
observes notices. `absorb` buffers a whole batch first and then names the observers, so that an
observer finds every notice of the batch in the buffer, except for those that gave way to newer ones.
-/

set_option autoImplicit false

namespace SessionLayer

/-- Buffered messages, and observers by their keys in order of registration. -/
structure Mailbox (ω : Type) where
  notices : Bounded String
  notifications : Bounded Notification
  observers : List ω

namespace Mailbox

variable {ω : Type}

/-- A mailbox without messages and observers. -/
def create (noticeCapacity notificationCapacity : Capacity) : Mailbox ω :=
  { notices := .empty noticeCapacity
    notifications := .empty notificationCapacity
    observers := [] }

/-- Registers an observer for the notices that come from now on. -/
def addObserver (m : Mailbox ω) (key : ω) : Mailbox ω :=
  { m with observers := m.observers ++ [key] }

/-- Buffers a batch. -/
def store (m : Mailbox ω) (batch : Batch) : Mailbox ω :=
  { m with
    notices := m.notices.pushAll batch.notices
    notifications := m.notifications.pushAll batch.notifications }

/-- The observers that have to see the notices of a batch: all of them, or none for no notices. -/
def audience (m : Mailbox ω) (batch : Batch) : List ω :=
  if batch.notices.isEmpty then [] else m.observers

/-- Buffers a batch, and tells who has to see its notices. -/
def absorb (m : Mailbox ω) (batch : Batch) : List ω × Mailbox ω :=
  (m.audience batch, m.store batch)

/-- Who has to see which notice of a batch, in order: each notice goes to every observer before the
next one does. -/
def showings (audience : List ω) (batch : Batch) : List (ω × String) :=
  batch.notices.flatMap fun notice => audience.map fun key => (key, notice)

/-- Removes every message. -/
def clear (m : Mailbox ω) : Mailbox ω :=
  { m with notices := m.notices.clear, notifications := m.notifications.clear }

/-- Takes the notices out. -/
def drainNotices (m : Mailbox ω) : List String × Mailbox ω :=
  (m.notices.drain.1, { m with notices := m.notices.drain.2 })

/-- Takes the notifications out. -/
def drainNotifications (m : Mailbox ω) : List Notification × Mailbox ω :=
  (m.notifications.drain.1, { m with notifications := m.notifications.drain.2 })

/-- The sizes of a mailbox, as shown in diagnostics. -/
def diagnostic (m : Mailbox ω) : String :=
  "MessageQueues \x7b notices: " ++ toString m.notices.size ++ ", notifies: "
    ++ toString m.notifications.size ++ ", observers: " ++ toString m.observers.length ++ " \x7d"

theorem items_notices_store (m : Mailbox ω) (batch : Batch) :
    (m.store batch).notices.items
      = Bounded.newest m.notices.capacity (m.notices.items ++ batch.notices) :=
  m.notices.items_pushAll batch.notices

theorem items_notifications_store (m : Mailbox ω) (batch : Batch) :
    (m.store batch).notifications.items
      = Bounded.newest m.notifications.capacity (m.notifications.items ++ batch.notifications) :=
  m.notifications.items_pushAll batch.notifications

theorem mem_showings {audience : List ω} {batch : Batch} {key : ω} {notice : String} :
    (key, notice) ∈ showings audience batch ↔ key ∈ audience ∧ notice ∈ batch.notices := by
  simp only [showings, List.mem_flatMap, List.mem_map, Prod.mk.injEq]
  constructor
  · rintro ⟨_, hn, _, hk, rfl, rfl⟩
    exact ⟨hk, hn⟩
  · rintro ⟨hk, hn⟩
    exact ⟨notice, hn, key, hk, rfl, rfl⟩

end Mailbox

end SessionLayer
