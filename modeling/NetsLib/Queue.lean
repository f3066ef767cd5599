/-
NetsLib/Queue.lean

The send queue of the transport, `esp32_c3::objects::BufferedQueue<Packet,
MAX_QUEUE_SIZE>`.  The queue class belongs to a library that this repository uses but
does not contain, so it is modelled from the spec (§4.2): a FIFO of at most `N` entries,
held by copy, with the non-blocking `send(x, 0)` and `receive(x, 0)` that are the only
modes the transport uses, `waiting()` and `reset()`.

Design.  The capacity bound is a field of the structure, so no queue longer than `N`
can be built.  The entry type is a parameter: the transport queues packets, and the
analysis of packet identity queues packets with a ticket (`NetsLib.Transport.Tagged`);
`map` moves a queue between the two and commutes with every operation.
-/
import Mathlib.Data.List.Basic

namespace Net

/-- Modelled from the spec: `esp32_c3::objects::BufferedQueue<T, N>` (not in the
repository).  A FIFO of at most `N` entries, head first. -/
structure BufferedQueue (α : Type) (N : Nat) where
  items : List α
  length_le : items.length ≤ N

namespace BufferedQueue

variable {α β : Type} {N : Nat}

/-- The empty queue, as built by the transport's constructor. -/
def empty : BufferedQueue α N := ⟨[], Nat.zero_le N⟩

/-- `send(x, 0)`: append `x` at the tail, or fail at once when the queue is full. -/
def send (q : BufferedQueue α N) (x : α) : Bool × BufferedQueue α N :=
  if h : q.items.length < N then
    (true, ⟨q.items ++ [x], by rw [List.length_append, List.length_singleton]; omega⟩)
  else (false, q)

/-- `receive(x, 0)`: take the head, or fail at once when the queue is empty. -/
def receive : BufferedQueue α N → Option (α × BufferedQueue α N)
  | ⟨[], _⟩ => none
  | ⟨x :: xs, h⟩ => some (x, ⟨xs, Nat.le_of_succ_le h⟩)

/-- `waiting()`: the number of queued entries. -/
def waiting (q : BufferedQueue α N) : Nat := q.items.length

/-- `reset()`: drop every entry at once. -/
def reset (_ : BufferedQueue α N) : BufferedQueue α N := empty

/-- The queue with every entry renamed by `f`. -/
def map (f : α → β) (q : BufferedQueue α N) : BufferedQueue β N :=
  ⟨q.items.map f, by rw [List.length_map]; exact q.length_le⟩

/-! ### Computation lemmas -/

@[ext] theorem ext {q r : BufferedQueue α N} (h : q.items = r.items) : q = r := by
  cases q; cases r; cases h; rfl

@[simp] theorem empty_items : (empty : BufferedQueue α N).items = [] := rfl

@[simp] theorem reset_items (q : BufferedQueue α N) : q.reset.items = [] := rfl

@[simp] theorem map_items (f : α → β) (q : BufferedQueue α N) :
    (q.map f).items = q.items.map f := rfl

theorem send_of_lt {q : BufferedQueue α N} {x : α} (h : q.items.length < N) :
    (q.send x).1 = true ∧ (q.send x).2.items = q.items ++ [x] := by
  simp [send, h]

theorem send_of_full {q : BufferedQueue α N} {x : α} (h : N ≤ q.items.length) :
    q.send x = (false, q) := by
  simp [send, Nat.not_lt.mpr h]

/-- What `send` can do: append and report success, or report failure and change
nothing. -/
theorem send_cases (q : BufferedQueue α N) (x : α) :
    ((q.send x).1 = true ∧ (q.send x).2.items = q.items ++ [x]) ∨
    ((q.send x).1 = false ∧ (q.send x).2 = q) := by
  by_cases h : q.items.length < N
  · exact .inl (send_of_lt h)
  · exact .inr (by simp [send_of_full (Nat.not_lt.mp h)])

/-- `send` appends exactly when it reports success. -/
theorem send_items (q : BufferedQueue α N) (x : α) :
    (q.send x).2.items = q.items ++ if (q.send x).1 then [x] else [] := by
  rcases send_cases q x with ⟨h1, h2⟩ | ⟨h1, h2⟩ <;> simp [h1, h2]

theorem mem_send {q : BufferedQueue α N} {x y : α} (h : y ∈ (q.send x).2.items) :
    y ∈ q.items ∨ y = x := by
  rcases send_cases q x with ⟨-, hs⟩ | ⟨-, hs⟩
  · simpa [hs] using h
  · exact .inl (hs ▸ h)

theorem receive_eq_some {q : BufferedQueue α N} {x : α} {q' : BufferedQueue α N} :
    q.receive = some (x, q') ↔ q.items = x :: q'.items := by
  obtain ⟨_ | ⟨y, ys⟩, h⟩ := q
  · simp [receive]
  · constructor
    · intro hr
      simp only [receive, Option.some.injEq, Prod.mk.injEq] at hr
      obtain ⟨rfl, rfl⟩ := hr
      rfl
    · intro hq
      simp only [List.cons.injEq] at hq
      obtain ⟨rfl, hys⟩ := hq
      simp only [receive, Option.some.injEq, Prod.mk.injEq, true_and]
      exact ext hys

theorem receive_eq_none {q : BufferedQueue α N} : q.receive = none ↔ q.items = [] := by
  obtain ⟨_ | ⟨y, ys⟩, h⟩ := q <;> simp [receive]

theorem map_send (f : α → β) (q : BufferedQueue α N) (x : α) :
    (q.map f).send (f x) = ((q.send x).1, (q.send x).2.map f) := by
  by_cases h : q.items.length < N
  · simp only [send, map_items, List.length_map, h, dif_pos]
    exact congrArg _ (ext (by simp))
  · simp [send, h]

theorem map_receive (f : α → β) (q : BufferedQueue α N) :
    (q.map f).receive = q.receive.map fun p => (f p.1, p.2.map f) := by
  obtain ⟨_ | ⟨y, ys⟩, h⟩ := q <;> rfl

end BufferedQueue

end Net
