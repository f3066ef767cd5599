/-
NetsLib/Transport/Accounting.lean

Where every accepted packet is.  A packet `send` accepted is, at every point of every
run, in exactly one place: in the send queue, in the worker's tick, sent, dropped after a
fatal error, or discarded by `clearQueue` or `stop` — or lost.  The last place exists
because `handleSendError` re-enqueues a transiently failed packet with
`mSendQueue.send(packet, 0)` and ignores the result: when the slot the tick freed has been
refilled meanwhile (by another producer, or by the error callback, which runs first), the
packet is gone and nothing reports it.

Design.  Each event names the packets it moves into one of the final places.  One
transition moves a packet from one place to another, so the multiset identity
`accepted ~ queue + tick + sent + dropped + discarded + lost` is an invariant (`List.Perm`
is multiset equality: a packet accepted twice is counted twice).

The loss needs a refill: while the worker holds a popped packet, the queue keeps a slot
for it unless a `send` has been accepted since the pop (`pushesSincePop`), so a failed
re-enqueue always comes after such a `send`.

Main results: `accepted_perm_places` (the identity along every run),
`requeue_loses_accepted_packet` (a run in which the `lost` place is not empty) and
`requeue_fails_only_after_refill`.
-/
import NetsLib.Transport.Fifo

namespace Net

open scoped List

namespace Event

variable {α : Type}

/-- The packet a `send` call accepted. -/
@[simp] def accepted : Event α → List α
  | .sendReturned e ret => if ret = ESP_OK then [e] else []
  | _ => []

/-- The packet `handleSendError` dropped after a fatal error. -/
@[simp] def droppedPacket : Event α → List α
  | .dropped e _ => [e]
  | _ => []

/-- The packets `clearQueue` or `stop` discarded. -/
@[simp] def discarded : Event α → List α
  | .cleared e => [e]
  | .drained es => es
  | _ => []

/-- The packet whose re-enqueue failed because the queue was full. -/
@[simp] def lost : Event α → List α
  | .requeued e false => [e]
  | _ => []

end Event

namespace Transport

variable {α : Type}

/-- Where the packets accepted along `tr` ended, other than the queue and the tick. -/
def settled (tr : List (Event α)) : List α :=
  successes tr ++ tr.flatMap Event.droppedPacket ++ tr.flatMap Event.discarded ++
    tr.flatMap Event.lost

/-- Every place a packet can be in, or have ended in, after the events `tr`. -/
def places (s : Transport α) (tr : List (Event α)) : List α :=
  s.sendQueue.items ++ s.phase.entry.toList ++ settled tr

theorem count_settled_append [DecidableEq α] (x : α) (l r : List (Event α)) :
    (settled (l ++ r)).count x = (settled l).count x + (settled r).count x := by
  simp only [settled, successes, List.flatMap_append, List.count_append]
  omega

/-! ### One step -/

variable [HasPacket α] [DecidableEq α]

/-- One transition moves packets between places, and adds to them only the packet it
accepts. -/
theorem Transition.count_places {s s' : Transport α} {a : Action α} {evs : List (Event α)}
    (h : Transition s a s' evs) (x : α) :
    s'.sendQueue.items.count x + s'.phase.entry.toList.count x + (settled evs).count x =
      s.sendQueue.items.count x + s.phase.entry.toList.count x +
        (evs.flatMap Event.accepted).count x := by
  have hsettled : ∀ ev : Event α, settled [ev] =
      ev.succeeded ++ ev.droppedPacket ++ ev.discarded ++ ev.lost := by
    intro ev; simp only [settled, successes, List.flatMap_singleton]
  cases h with
  | push e _ =>
    cases hok : (s.sendQueue.send e).1
    · simp [hsettled, BufferedQueue.send_items, hok, ESP_OK, ESP_ERR_INVALID_STATE]
    · simp [hsettled, BufferedQueue.send_items, hok, ESP_OK]; omega
  | retry e err hph _ =>
    cases hok : (s.sendQueue.send e).1 <;>
      simp [hsettled, BufferedQueue.send_items, hok, hph, Phase.entry]
  | tick e q _ hidle _ hq =>
    simp [hsettled, BufferedQueue.receive_eq_some.mp hq, hidle, List.count_cons]
  | clearPop n e q _ hq =>
    simp [hsettled, BufferedQueue.receive_eq_some.mp hq, List.count_cons]; omega
  | stop => simp [hsettled]; omega
  | sent e hph => simp [hsettled, hph, Phase.entry]
  | drop e err hph _ => simp [hsettled, hph, Phase.entry]
  | failed e ret hph hret =>
    cases s.errorCallback <;> simp [settled, successes, hph, hret, Phase.entry]
  | _ => rfl

/-! ### Whole runs -/

theorem count_accepted_exec (installed : Bool) (as : List (Action α)) (x : α) :
    (((init installed : Transport α).exec as).2.flatMap Event.accepted).count x =
      (places ((init installed : Transport α).exec as).1
        ((init installed : Transport α).exec as).2).count x := by
  have h := exec_trace_invariant
    (fun s tr => ∀ x, (tr.flatMap Event.accepted).count x = (places s tr).count x)
    (fun hst hc x => by
      have := hst.count_places x
      simp only [places, List.flatMap_append, List.count_append, count_settled_append] at hc ⊢
      rw [hc x]
      omega)
    (init installed) [] (fun x => by simp [places, settled, successes, init]) as
  simpa using h x

/-- **Every accepted packet is in exactly one place.**  Along every run, the packets
`send` accepted are, as a multiset, the packets in the queue, the one in the worker's
tick, and those sent, dropped after a fatal error, discarded by `clearQueue` or `stop`,
or lost by a re-enqueue that found the queue full.  A failed re-enqueue is the only way
an accepted packet leaves without one of the other events. -/
theorem accepted_perm_places (installed : Bool) (as : List (Action Packet)) :
    List.Perm (((init installed : Transport Packet).exec as).2.flatMap Event.accepted)
      (places ((init installed : Transport Packet).exec as).1
        ((init installed : Transport Packet).exec as).2) :=
  List.perm_iff_count.mpr (count_accepted_exec installed as)

set_option maxRecDepth 8000 in
/-- Sixteen packets fill the queue; the first one fails with the transient
`ESP_ERR_TIMEOUT`; while its error callback runs, one more packet is accepted into the slot
the pop freed; the re-enqueue then finds the queue full.  The first packet was accepted,
is in no queue and no tick, and was neither sent, dropped nor discarded: it is lost. -/
theorem requeue_loses_accepted_packet :
    let p : Packet := { Packet.clear with id := 1, size := 1 }
    let q : Packet := { Packet.clear with id := 2, size := 1 }
    let run : List (Action Packet) :=
      [.start, .send p, .push] ++ (List.replicate 15 [Action.send q, .push]).flatten ++
        [.tick, .complete ESP_ERR_TIMEOUT, .send q, .push, .resume]
    let c := (init true : Transport Packet).exec run
    Event.sendReturned p ESP_OK ∈ c.2 ∧ p ∉ c.1.sendQueue.items ∧ c.1.phase = .idle ∧
      p ∉ successes c.2 ∧ c.2.flatMap Event.droppedPacket = [] ∧
      c.2.flatMap Event.discarded = [] ∧ c.2.flatMap Event.lost = [p] := by
  decide

/-! ### When a re-enqueue fails -/

/-- The `send`s accepted since the worker's last pop, after `tr` (`k` before it). -/
def pushesSincePop (k : Nat) : List (Event α) → Nat
  | [] => k
  | .attempt _ _ :: tr => pushesSincePop 0 tr
  | .sendReturned _ ret :: tr => pushesSincePop (if ret = ESP_OK then k + 1 else k) tr
  | _ :: tr => pushesSincePop k tr

/-- The re-enqueues along `tr` that failed although no `send` was accepted since the pop
of the packet they put back (`k` accepted before `tr`). -/
def unrefilledLosses (k : Nat) : List (Event α) → Nat
  | [] => 0
  | .attempt _ _ :: tr => unrefilledLosses 0 tr
  | .sendReturned _ ret :: tr => unrefilledLosses (if ret = ESP_OK then k + 1 else k) tr
  | .requeued _ ok :: tr => (if !ok && k == 0 then 1 else 0) + unrefilledLosses k tr
  | _ :: tr => unrefilledLosses k tr

omit [HasPacket α] [DecidableEq α] in
theorem pushesSincePop_append (k : Nat) (l r : List (Event α)) :
    pushesSincePop k (l ++ r) = pushesSincePop (pushesSincePop k l) r := by
  induction l generalizing k with
  | nil => rfl
  | cons x l ih => cases x <;> simp [pushesSincePop, ih]

omit [HasPacket α] [DecidableEq α] in
theorem unrefilledLosses_append (k : Nat) (l r : List (Event α)) :
    unrefilledLosses k (l ++ r) =
      unrefilledLosses k l + unrefilledLosses (pushesSincePop k l) r := by
  induction l generalizing k with
  | nil => simp [unrefilledLosses, pushesSincePop]
  | cons x l ih => cases x <;> simp [unrefilledLosses, pushesSincePop, ih, Nat.add_assoc]

omit [DecidableEq α] in
/-- While the worker holds a popped packet, the queue has a free slot for it unless a
`send` was accepted since the pop; so its re-enqueue fails only after such a `send`. -/
theorem Transition.refill {s s' : Transport α} {a : Action α} {evs : List (Event α)}
    (h : Transition s a s' evs) {k : Nat}
    (hk : s.phase ≠ .idle → s.sendQueue.items.length < MAX_QUEUE_SIZE + k) :
    unrefilledLosses k evs = 0 ∧
      (s'.phase ≠ .idle →
        s'.sendQueue.items.length < MAX_QUEUE_SIZE + pushesSincePop k evs) := by
  cases h with
  | tick e q _ _ _ hq =>
    have := s.sendQueue.length_le
    rw [BufferedQueue.receive_eq_some.mp hq, List.length_cons] at this
    exact ⟨rfl, fun _ => by simp only [pushesSincePop]; omega⟩
  | push e _ =>
    refine ⟨by simp [unrefilledLosses], fun hph => ?_⟩
    have := hk hph
    rcases BufferedQueue.send_cases s.sendQueue e with ⟨hok, hq⟩ | ⟨hok, hq⟩ <;>
      simp [pushesSincePop, hok, hq, ESP_ERR_INVALID_STATE, ESP_OK] <;> omega
  | retry e err hph _ =>
    have hfree := hk (by simp [hph])
    refine ⟨?_, fun h => absurd rfl h⟩
    by_cases hk0 : k = 0
    · have hok : (s.sendQueue.send e).1 = true :=
        (BufferedQueue.send_of_lt (by simpa [hk0] using hfree)).1
      simp [unrefilledLosses, hok]
    · simp [unrefilledLosses, hk0]
  | stop => exact ⟨rfl, fun _ => by simp only [pushesSincePop, BufferedQueue.reset_items,
      List.length_nil, MAX_QUEUE_SIZE]; omega⟩
  | clearPop n e q _ hq =>
    refine ⟨rfl, fun hph => ?_⟩
    have := hk hph
    rw [BufferedQueue.receive_eq_some.mp hq, List.length_cons] at this
    simp only [pushesSincePop]
    omega
  | sendReject e _ _ => exact ⟨by simp [unrefilledLosses, ESP_ERR_INVALID_ARG, ESP_OK],
      fun hph => by simpa [pushesSincePop, ESP_ERR_INVALID_ARG, ESP_OK] using hk hph⟩
  | failed e ret hph _ => cases s.errorCallback <;> exact ⟨rfl, fun _ => hk (by simp [hph])⟩
  | sent e _ | drop e err _ _ => exact ⟨rfl, fun h => absurd rfl h⟩
  | _ => exact ⟨rfl, hk⟩

/-- **A re-enqueue fails only after a refill.**  Along every run, interleaved with any
producers, error callbacks, `clearQueue` and `stop`, every re-enqueue in
`handleSendError` that fails (and so loses its packet) comes after at least one `send`
accepted since the worker popped that packet: the loss needs the slot the pop freed to be
refilled meanwhile. -/
theorem requeue_fails_only_after_refill (installed : Bool) (as : List (Action Packet)) :
    unrefilledLosses 0 ((init installed : Transport Packet).exec as).2 = 0 := by
  refine (exec_trace_invariant
    (fun s tr => unrefilledLosses 0 tr = 0 ∧
      (s.phase ≠ .idle → s.sendQueue.items.length < MAX_QUEUE_SIZE + pushesSincePop 0 tr))
    (fun hst ⟨hl, hk⟩ => ?_) (init installed) [] ⟨rfl, fun h => absurd rfl h⟩ as).1
  obtain ⟨hl', hk'⟩ := hst.refill hk
  rw [unrefilledLosses_append, pushesSincePop_append, hl, hl']
  exact ⟨rfl, hk'⟩

end Transport

end Net
