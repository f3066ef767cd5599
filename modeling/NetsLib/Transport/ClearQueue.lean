/-
NetsLib/Transport/ClearQueue.lean

What `clearQueue` does.  Its loop `while (mSendQueue.receive(packet, 0)) count++;`
counts the packets it takes out, and other contexts may push and pop meanwhile: the
count is of the packets this loop removed, not of the queue at the call.

Design.  The loop is `clearQueue`'s entry followed by one `clearStep` per `receive`.  For a
`clearQueue` that runs alone, the exact final state and events are computed by induction
on the queue.

Main result: `clearQueue_alone` (alone, it discards the whole queue, in order, and returns
`getQueueSize()`).
-/
import NetsLib.Transport.Run

namespace Net

namespace Transport

variable {α : Type} [HasPacket α]

/-! ### `clearQueue` alone -/

/-- The loop of `clearQueue`, run alone with `count = n` on a queue holding `l`: it takes
out `l` in order and returns `n + l.length`; nothing else changes. -/
theorem exec_clearSteps (l : List α) :
    ∀ (s : Transport α) (n : Nat), s.clearing = some n → s.sendQueue.items = l →
    s.exec (List.replicate (l.length + 1) .clearStep) =
      ({ s with sendQueue := .empty, clearing := none },
        l.map Event.cleared ++ [.clearReturned (n + l.length)]) := by
  induction l with
  | nil =>
    intro s n hclr hl
    have hq : s.sendQueue.receive = none := BufferedQueue.receive_eq_none.mpr hl
    have he : s.sendQueue = .empty := BufferedQueue.ext hl
    simp only [List.length_nil, List.replicate, exec_cons, exec_nil, step, hclr, clearStep, hq]
    simp [he]
  | cons x l ih =>
    intro s n hclr hl
    have hlen : l.length ≤ MAX_QUEUE_SIZE := by
      have := s.sendQueue.length_le
      rw [hl, List.length_cons] at this
      omega
    have hq : s.sendQueue.receive = some (x, ⟨l, hlen⟩) :=
      BufferedQueue.receive_eq_some.mpr hl
    rw [List.length_cons, List.replicate_succ, exec_cons]
    simp only [step, hclr, clearStep, hq]
    rw [ih _ (n + 1) rfl rfl]
    simp [Nat.add_assoc, Nat.add_comm 1]

/-- **`clearQueue` alone.**  From any state with no `clearQueue` in progress, a
`clearQueue` that no other context interleaves with discards every queued packet, in
order, returns `getQueueSize()`, and leaves the queue empty; nothing else changes. -/
theorem clearQueue_alone (s : Transport α) (hclr : s.clearing = none) :
    s.exec (.clearQueue :: List.replicate (s.sendQueue.waiting + 1) .clearStep) =
      ({ s with sendQueue := .empty },
        s.sendQueue.items.map Event.cleared ++ [.clearReturned s.sendQueue.waiting]) := by
  rw [exec_cons]
  simp only [step, hclr, Option.isNone_none, if_true, List.nil_append]
  rw [BufferedQueue.waiting,
    exec_clearSteps s.sendQueue.items { s with clearing := some 0 } 0 rfl rfl]
  simp [hclr]

set_option maxRecDepth 4000 in
/-- `clearQueue_alone` after one accepted packet: it is discarded and the count is 1. -/
theorem clearQueue_alone_onePacket :
    let p : Packet := { Packet.clear with size := 1 }
    let s := ((init true : Transport Packet).exec [.start, .send p, .push]).1
    (s.exec (.clearQueue :: List.replicate (s.sendQueue.waiting + 1) .clearStep)).2 =
      [.cleared p, .clearReturned 1] :=
  (congrArg Prod.snd (clearQueue_alone _ (by decide))).trans (by decide)

end Transport

end Net
