/-!
# Bounded buffers

A buffer keeps the newest of the entries that were put into it, up to its capacity, oldest first. Its
type carries the bound, so no operation can exceed it. `push` also tells how many entries gave way.
-/

set_option autoImplicit false

namespace SessionLayer

/-- A number of entries that a buffer may hold; never zero. -/
abbrev Capacity := { n : Nat // 0 < n }

/-- At most `capacity` entries, oldest first. -/
structure Bounded (α : Type) where
  capacity : Capacity
  items : List α
  length_le : items.length ≤ capacity.val

namespace Bounded

variable {α : Type}

/-- A buffer without entries. -/
def empty (capacity : Capacity) : Bounded α :=
  { capacity, items := [], length_le := Nat.zero_le _ }

/-- The newest entries of a list, as many as fit. -/
def newest (capacity : Capacity) (xs : List α) : List α :=
  xs.drop (xs.length - capacity.val)

theorem length_newest_le (capacity : Capacity) (xs : List α) :
    (newest capacity xs).length ≤ capacity.val := by
  simp only [newest, List.length_drop]
  omega

/-- Appends an entry, and tells how many old entries gave way. -/
def push (b : Bounded α) (x : α) : Nat × Bounded α :=
  let grown := b.items ++ [x]
  (grown.length - b.capacity.val,
    { b with items := newest b.capacity grown, length_le := length_newest_le _ _ })

/-- Appends entries one after the other. -/
def pushAll (b : Bounded α) (xs : List α) : Bounded α :=
  xs.foldl (fun b x => (b.push x).2) b

/-- Removes every entry. -/
def clear (b : Bounded α) : Bounded α :=
  empty b.capacity

/-- Takes every entry out. -/
def drain (b : Bounded α) : List α × Bounded α :=
  (b.items, b.clear)

/-- The number of entries. -/
def size (b : Bounded α) : Nat :=
  b.items.length

/-- Whether there is no entry. -/
def isEmpty (b : Bounded α) : Bool :=
  b.items.isEmpty

theorem items_push (b : Bounded α) (x : α) :
    (b.push x).2.items = newest b.capacity (b.items ++ [x]) :=
  rfl

theorem capacity_push (b : Bounded α) (x : α) : (b.push x).2.capacity = b.capacity :=
  rfl

theorem newest_eq_self {capacity : Capacity} {xs : List α} (h : xs.length ≤ capacity.val) :
    newest capacity xs = xs := by
  simp [newest, Nat.sub_eq_zero_of_le h]

theorem newest_newest_append (capacity : Capacity) (xs ys : List α) :
    newest capacity (newest capacity xs ++ ys) = newest capacity (xs ++ ys) := by
  simp only [newest, List.length_append, List.length_drop, List.drop_append, List.drop_drop]
  congr 2 <;> omega

theorem capacity_pushAll (b : Bounded α) (xs : List α) :
    (b.pushAll xs).capacity = b.capacity := by
  induction xs generalizing b with
  | nil => rfl
  | cons x xs ih => exact ih (b.push x).2

theorem items_pushAll (b : Bounded α) (xs : List α) :
    (b.pushAll xs).items = newest b.capacity (b.items ++ xs) := by
  induction xs generalizing b with
  | nil => simp [pushAll, newest_eq_self b.length_le]
  | cons x xs ih =>
    have h := ih (b.push x).2
    rw [items_push, capacity_push, newest_newest_append, List.append_assoc] at h
    exact h

/-- No entry gets lost without being counted. -/
theorem push_fst_add_size (b : Bounded α) (x : α) :
    (b.push x).1 + (b.push x).2.size = b.size + 1 := by
  simp only [push, size, newest, List.length_append, List.length_drop, List.length_singleton]
  omega

@[simp] theorem items_clear (b : Bounded α) : b.clear.items = [] :=
  rfl

@[simp] theorem capacity_clear (b : Bounded α) : b.clear.capacity = b.capacity :=
  rfl

end Bounded

end SessionLayer
