import SessionLayer.Wire.Answer

/-!
# Batches of messages

The notices and notifications that one guarded span has taken out of a session, in order of arrival.
-/

set_option autoImplicit false

namespace SessionLayer

/-- Notices and notifications, each in order of arrival. -/
structure Batch where
  notices : List String := []
  notifications : List Notification := []
  deriving DecidableEq, Repr

namespace Batch

/-- A batch without messages. -/
def empty : Batch := {}

/-- Whether there is no message of either kind. -/
def isEmpty (b : Batch) : Bool :=
  b.notices.isEmpty && b.notifications.isEmpty

/-- The messages of `a` followed by those of `b`. -/
def append (a b : Batch) : Batch :=
  { notices := a.notices ++ b.notices, notifications := a.notifications ++ b.notifications }

instance : Append Batch := ⟨append⟩

@[simp] theorem notices_append (a b : Batch) : (a ++ b).notices = a.notices ++ b.notices :=
  rfl

@[simp] theorem notifications_append (a b : Batch) :
    (a ++ b).notifications = a.notifications ++ b.notifications :=
  rfl

theorem isEmpty_iff (b : Batch) : b.isEmpty ↔ b = .empty := by
  rcases b with ⟨notices, notifications⟩
  simp [isEmpty, empty]

end Batch

end SessionLayer
