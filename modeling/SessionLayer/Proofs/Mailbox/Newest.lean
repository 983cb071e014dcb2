import SessionLayer.Mailbox

/-!
# What buffers and mailboxes keep

A client may push into a buffer, drain it and clear it in any order. `Bounded.Tally` is the history that
matters for what the buffer holds: what was pushed since it was last emptied, and how many entries the
pushes since then said to have given way. At every time the buffer holds the newest of what was pushed,
as many as fit, and the tally accounts for all the others. A mailbox keeps two buffers of this kind, and
what happens to one of them makes no difference to the other.
-/

set_option autoImplicit false

namespace SessionLayer

namespace Bounded

/-- What can be done with a buffer. -/
inductive Command (α : Type) where
  | push (x : α)
  | drain
  | clear

/-- What was done with a buffer, and what it answered. -/
inductive Record (α : Type) where
  | pushed (x : α) (discarded : Nat)
  | drained (entries : List α)
  | cleared

/-- What was pushed into a buffer since it was last emptied, and how many entries gave way since then. -/
structure Tally (α : Type) where
  pushed : List α := []
  discarded : Nat := 0

variable {α : Type}

/-- Does one thing with a buffer. -/
def serve (b : Bounded α) : Command α → Record α × Bounded α
  | .push x => (.pushed x (b.push x).1, (b.push x).2)
  | .drain => (.drained b.drain.1, b.drain.2)
  | .clear => (.cleared, b.clear)

/-- Does one thing after the other with a buffer, and keeps a record of each. -/
def serveAll (b : Bounded α) : List (Command α) → List (Record α) × Bounded α
  | [] => ([], b)
  | command :: rest =>
    let (record, b) := b.serve command
    let (records, b) := b.serveAll rest
    (record :: records, b)

namespace Tally

/-- The tally after one more record. Whoever empties the buffer starts it anew. -/
def after (t : Tally α) : Record α → Tally α
  | .pushed x discarded =>
    { pushed := t.pushed ++ [x], discarded := t.discarded + discarded }
  | .drained _ | .cleared => {}

/-- The tally of some records. -/
def ofRecords (records : List (Record α)) : Tally α :=
  records.foldl after {}

end Tally

/-- The buffer holds the newest of what was pushed, and the tally accounts for the others. -/
structure Keeps (b : Bounded α) (t : Tally α) : Prop where
  items : b.items = newest b.capacity t.pushed
  discarded : t.discarded + b.items.length = t.pushed.length

theorem newest_suffix (capacity : Capacity) (xs : List α) : newest capacity xs <:+ xs :=
  List.drop_suffix _ _

theorem length_newest (capacity : Capacity) (xs : List α) :
    (newest capacity xs).length = min capacity.val xs.length := by
  rw [newest, List.length_drop]
  omega

/-- Of some entries the last ones are kept, as many as fit. -/
structure AreNewest (capacity : Capacity) (entries kept : List α) : Prop where
  suffix : kept <:+ entries
  length : kept.length = min capacity.val entries.length

theorem areNewest_newest (capacity : Capacity) (xs : List α) :
    AreNewest capacity xs (newest capacity xs) :=
  ⟨newest_suffix capacity xs, length_newest capacity xs⟩

@[simp] theorem newest_nil (capacity : Capacity) : newest capacity ([] : List α) = [] :=
  List.drop_nil

theorem keeps_empty (capacity : Capacity) : (empty capacity : Bounded α).Keeps {} where
  items := (newest_nil capacity).symm
  discarded := rfl

variable {b : Bounded α} {t : Tally α}

theorem Keeps.push (h : b.Keeps t) (x : α) :
    (b.push x).2.Keeps { pushed := t.pushed ++ [x], discarded := t.discarded + (b.push x).1 } where
  items := by rw [items_push, capacity_push, h.items, newest_newest_append]
  discarded := by
    have hcounted : (b.push x).1 + (b.push x).2.items.length = b.items.length + 1 :=
      b.push_fst_add_size x
    have hkept := h.discarded
    simp only [List.length_append, List.length_singleton]
    omega

theorem Keeps.serve (h : b.Keeps t) (command : Command α) :
    (b.serve command).2.Keeps (t.after (b.serve command).1) := by
  cases command with
  | push x => exact h.push x
  | drain | clear => exact keeps_empty b.capacity

theorem capacity_serve (b : Bounded α) (command : Command α) :
    (b.serve command).2.capacity = b.capacity := by
  cases command <;> rfl

/-- Whatever is done with a buffer, it keeps its capacity and the newest of what was pushed. -/
theorem Keeps.serveAll (h : b.Keeps t) (commands : List (Command α)) :
    (b.serveAll commands).2.capacity = b.capacity ∧
      (b.serveAll commands).2.Keeps ((b.serveAll commands).1.foldl Tally.after t) := by
  induction commands generalizing b t with
  | nil => exact ⟨rfl, h⟩
  | cons command rest ih =>
    obtain ⟨hcapacity, hkeeps⟩ := ih (h.serve command)
    exact ⟨hcapacity.trans (capacity_serve b command), hkeeps⟩

end Bounded

namespace Mailbox

/-- What can be done with a mailbox. -/
inductive Command (ω : Type) where
  | absorb (batch : Batch)
  | drainNotices
  | drainNotifications
  | clear
  | addObserver (key : ω)

variable {ω : Type}

/-- A mailbox after one thing was done with it. -/
def after (m : Mailbox ω) : Command ω → Mailbox ω
  | .absorb batch => (m.absorb batch).2
  | .drainNotices => m.drainNotices.2
  | .drainNotifications => m.drainNotifications.2
  | .clear => m.clear
  | .addObserver key => m.addObserver key

/-- A mailbox takes in a batch: each buffer keeps the newest of what it held and of what came, within its
capacity, and the observers stay. -/
structure TakesIn (m : Mailbox ω) (batch : Batch) (m' : Mailbox ω) : Prop where
  notices : Bounded.AreNewest m.notices.capacity (m.notices.items ++ batch.notices) m'.notices.items
  notifications : Bounded.AreNewest m.notifications.capacity
    (m.notifications.items ++ batch.notifications) m'.notifications.items
  capacity_notices : m'.notices.capacity = m.notices.capacity
  capacity_notifications : m'.notifications.capacity = m.notifications.capacity
  observers : m'.observers = m.observers

theorem takesIn_store (m : Mailbox ω) (batch : Batch) : m.TakesIn batch (m.store batch) where
  notices := by
    rw [items_notices_store]
    exact Bounded.areNewest_newest _ _
  notifications := by
    rw [items_notifications_store]
    exact Bounded.areNewest_newest _ _
  capacity_notices := Bounded.capacity_pushAll _ _
  capacity_notifications := Bounded.capacity_pushAll _ _
  observers := rfl

/-- The batches that were absorbed, joined in order, less what came before each buffer was last
emptied. -/
def absorbed (joined : Batch) : Command ω → Batch
  | .absorb batch => joined ++ batch
  | .drainNotices => { joined with notices := [] }
  | .drainNotifications => { joined with notifications := [] }
  | .clear => .empty
  | .addObserver _ => joined

/-- Each buffer holds the newest of what came in for it. -/
structure Keeps (m : Mailbox ω) (noticeCapacity notificationCapacity : Capacity) (joined : Batch) :
    Prop where
  capacity_notices : m.notices.capacity = noticeCapacity
  capacity_notifications : m.notifications.capacity = notificationCapacity
  items_notices : m.notices.items = Bounded.newest noticeCapacity joined.notices
  items_notifications :
    m.notifications.items = Bounded.newest notificationCapacity joined.notifications

theorem keeps_create (noticeCapacity notificationCapacity : Capacity) :
    (create noticeCapacity notificationCapacity : Mailbox ω).Keeps noticeCapacity
      notificationCapacity .empty where
  capacity_notices := rfl
  capacity_notifications := rfl
  items_notices := (Bounded.newest_nil _).symm
  items_notifications := (Bounded.newest_nil _).symm

variable {m : Mailbox ω} {noticeCapacity notificationCapacity : Capacity} {joined : Batch}

theorem Keeps.store (h : m.Keeps noticeCapacity notificationCapacity joined) (batch : Batch) :
    (m.store batch).Keeps noticeCapacity notificationCapacity (joined ++ batch) where
  capacity_notices := (Bounded.capacity_pushAll _ _).trans h.capacity_notices
  capacity_notifications := (Bounded.capacity_pushAll _ _).trans h.capacity_notifications
  items_notices := by
    rw [items_notices_store, h.capacity_notices, h.items_notices, Bounded.newest_newest_append]
    rfl
  items_notifications := by
    rw [items_notifications_store, h.capacity_notifications, h.items_notifications,
      Bounded.newest_newest_append]
    rfl

theorem Keeps.after (h : m.Keeps noticeCapacity notificationCapacity joined) (command : Command ω) :
    (m.after command).Keeps noticeCapacity notificationCapacity (absorbed joined command) := by
  obtain ⟨hnotice, hnotification, hnotices, hnotifications⟩ := h
  have hempty : ∀ (α : Type) (capacity : Capacity), ([] : List α) = Bounded.newest capacity [] :=
    fun _ capacity => (Bounded.newest_nil capacity).symm
  cases command with
  | absorb batch => exact Keeps.store ⟨hnotice, hnotification, hnotices, hnotifications⟩ batch
  | drainNotices => exact ⟨hnotice, hnotification, hempty _ _, hnotifications⟩
  | drainNotifications => exact ⟨hnotice, hnotification, hnotices, hempty _ _⟩
  | clear => exact ⟨hnotice, hnotification, hempty _ _, hempty _ _⟩
  | addObserver key => exact ⟨hnotice, hnotification, hnotices, hnotifications⟩

/-- Whatever is done with a mailbox, each buffer keeps the newest of what came in for it. -/
theorem Keeps.afterAll (h : m.Keeps noticeCapacity notificationCapacity joined)
    (commands : List (Command ω)) :
    (commands.foldl Mailbox.after m).Keeps noticeCapacity notificationCapacity
      (commands.foldl absorbed joined) := by
  induction commands generalizing m joined with
  | nil => exact h
  | cons command rest ih => exact ih (h.after command)

end Mailbox

/-- Buffers keep exactly the newest entries. Whatever is done with a buffer, it holds as many of the
entries pushed since it was last emptied as fit, namely the last ones in order, and the pushes since
then told how many gave way. In a mailbox, the notices and the notifications are each the last ones of
the batches absorbed since they were last removed, as many as their own capacity allows. -/
theorem buffers_keep_newest :
    (∀ (α : Type) (capacity : Capacity) (commands : List (Bounded.Command α)),
      let served := (Bounded.empty capacity).serveAll commands
      let tally := Bounded.Tally.ofRecords served.1
      served.2.items <:+ tally.pushed ∧
        served.2.items.length = min capacity.val tally.pushed.length ∧
        served.2.items.length ≤ capacity.val ∧
        tally.discarded + served.2.items.length = tally.pushed.length) ∧
    ∀ (ω : Type) (noticeCapacity notificationCapacity : Capacity)
      (commands : List (Mailbox.Command ω)),
      let mailbox := commands.foldl Mailbox.after (.create noticeCapacity notificationCapacity)
      let joined := commands.foldl Mailbox.absorbed .empty
      mailbox.notices.items <:+ joined.notices ∧
        mailbox.notices.items.length = min noticeCapacity.val joined.notices.length ∧
        mailbox.notifications.items <:+ joined.notifications ∧
        mailbox.notifications.items.length =
          min notificationCapacity.val joined.notifications.length := by
  refine ⟨fun α capacity commands => ?_, fun ω noticeCapacity notificationCapacity commands => ?_⟩
  · obtain ⟨hcapacity, hitems, hdiscarded⟩ := (Bounded.keeps_empty capacity).serveAll commands
    rw [hcapacity] at hitems
    have hlength := (congrArg List.length hitems).trans (Bounded.length_newest _ _)
    exact ⟨hitems ▸ Bounded.newest_suffix _ _, hlength, hlength ▸ Nat.min_le_left _ _, hdiscarded⟩
  · obtain ⟨-, -, hnotices, hnotifications⟩ :=
      (Mailbox.keeps_create noticeCapacity notificationCapacity).afterAll commands
    refine ⟨?_, ?_, ?_, ?_⟩
    · exact hnotices ▸ Bounded.newest_suffix _ _
    · exact (congrArg List.length hnotices).trans (Bounded.length_newest _ _)
    · exact hnotifications ▸ Bounded.newest_suffix _ _
    · exact (congrArg List.length hnotifications).trans (Bounded.length_newest _ _)

end SessionLayer
