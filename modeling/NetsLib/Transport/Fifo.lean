/-
NetsLib/Transport/Fifo.lean

The order in which packets leave the transport.  The send queue is FIFO, so packets
leave it in the order they entered it — but a packet enters it again when
`handleSendError` re-enqueues it after a transient failure, behind every packet accepted
in the meantime.  Acceptance order is therefore not transmission order; insertion order
is.

Design.  Each event says what it puts into the queue (`Event.inserted`) and what it takes
out (`Event.removed`).  The queue law `removals tr ++ queue = queue₀ ++ insertions tr`
holds along every run (as for a FIFO with reset: `stop`'s `reset` removes the whole queue,
in order).  The worker's pops are among the removals, and a packet is reported sent only
right after its pop, so the successes are a subsequence of the insertions.

Main results: `retried_packet_overtaken` (a packet accepted first is sent second),
`successes_sublist_insertions` and `queued_served_in_order` (without `stop` or `clearQueue`,
the worker's pops are a prefix of the queue followed by the later insertions).
-/
import NetsLib.Transport.Run

namespace Net

open scoped List

/-- The packet a `sendImpl` call is working on, if the tick is inside one. -/
@[simp] def Phase.sending {α : Type} : Phase α → List α
  | .inSendImpl e => [e]
  | _ => []

namespace Event

variable {α : Type}

/-- What an event puts into the send queue: a packet `send` accepted, or one that
`handleSendError` put back. -/
@[simp] def inserted : Event α → List α
  | .sendReturned e ret => if ret = ESP_OK then [e] else []
  | .requeued e ok => if ok then [e] else []
  | _ => []

/-- What an event takes out of the send queue: the worker's pop, one `receive` of
`clearQueue`, or everything `reset` discards. -/
@[simp] def removed : Event α → List α
  | .attempt e _ => [e]
  | .cleared e => [e]
  | .drained es => es
  | _ => []

/-- The packet an event hands to `sendImpl`. -/
@[simp] def attempted : Event α → List α
  | .attempt e _ => [e]
  | _ => []

/-- The packet an event reports sent: a return of `sendImpl` with `ESP_OK`. -/
@[simp] def succeeded : Event α → List α
  | .returned e ret _ => if ret = ESP_OK then [e] else []
  | _ => []

theorem attempted_sublist_removed (x : Event α) : x.attempted <+ x.removed := by
  cases x <;> simp [attempted, removed]

end Event

namespace Transport

variable {α : Type}

/-- The packets entering the send queue along `tr`, in order. -/
def insertions (tr : List (Event α)) : List α := tr.flatMap Event.inserted

/-- The packets leaving the send queue along `tr`, in order. -/
def removals (tr : List (Event α)) : List α := tr.flatMap Event.removed

/-- The packets handed to `sendImpl` along `tr`, in order. -/
def attempts (tr : List (Event α)) : List α := tr.flatMap Event.attempted

/-- The packets `sendImpl` transmitted along `tr`, in order. -/
def successes (tr : List (Event α)) : List α := tr.flatMap Event.succeeded

theorem attempts_sublist_removals (tr : List (Event α)) : attempts tr <+ removals tr := by
  induction tr with
  | nil => exact List.Sublist.slnil
  | cons x tr ih =>
    simpa [attempts, removals] using (Event.attempted_sublist_removed x).append ih

/-! ### One step -/

variable [HasPacket α]

/-- The queue law of one transition. -/
theorem Transition.fifo {s s' : Transport α} {a : Action α} {evs : List (Event α)}
    (h : Transition s a s' evs) :
    evs.flatMap Event.removed ++ s'.sendQueue.items =
      s.sendQueue.items ++ evs.flatMap Event.inserted := by
  cases h with
  | sendReject e _ _ => simp [Event.removed, Event.inserted, ESP_OK, ESP_ERR_INVALID_ARG]
  | push e _ =>
    cases hok : (s.sendQueue.send e).1 <;>
      simp [BufferedQueue.send_items, hok, ESP_OK, ESP_ERR_INVALID_STATE]
  | retry e err _ _ => simp [Event.removed, Event.inserted, BufferedQueue.send_items]
  | clearPop n e q _ hq => simp [Event.removed, Event.inserted, BufferedQueue.receive_eq_some.mp hq]
  | tick e q _ _ _ hq => simp [Event.removed, Event.inserted, BufferedQueue.receive_eq_some.mp hq]
  | failed e ret _ _ => split <;> simp [Event.removed, Event.inserted]
  | _ => simp [Event.removed, Event.inserted]

/-- One transition reports sent only the packet it takes out of `sendImpl`, and puts into
`sendImpl` only the packet it hands to it. -/
theorem Transition.successes_sublist {s s' : Transport α} {a : Action α} {evs : List (Event α)}
    (h : Transition s a s' evs) :
    evs.flatMap Event.succeeded ++ s'.phase.sending <+
      s.phase.sending ++ evs.flatMap Event.attempted := by
  cases h with
  | tick e q _ hidle _ _ => simp [hidle]
  | sent e hph => simp [hph]
  | failed e ret hph hret => cases s.errorCallback <;> simp [hph, hret]
  | retry e err hph _ | drop e err hph _ => simp [hph]
  | _ => exact List.sublist_append_left _ _

/-! ### Whole runs -/

/-- **The queue law.**  Along every run from any state, the packets that left the queue,
followed by those still in it, are the packets that were in it, followed by those that
entered it. -/
theorem fifo_exec (s : Transport α) (as : List (Action α)) :
    removals (s.exec as).2 ++ (s.exec as).1.sendQueue.items =
      s.sendQueue.items ++ insertions (s.exec as).2 := by
  have h := exec_trace_invariant
    (fun s' tr => removals tr ++ s'.sendQueue.items = s.sendQueue.items ++ insertions tr)
    (fun hst hq => by
      simp only [removals, insertions, List.flatMap_append, List.append_assoc] at hq ⊢
      rw [hst.fifo, ← List.append_assoc, hq, List.append_assoc])
    s [] (by simp [removals, insertions]) as
  simpa using h

theorem successes_sublist_attempts (s : Transport α) (hs : s.phase = .idle)
    (as : List (Action α)) :
    successes (s.exec as).2 ++ (s.exec as).1.phase.sending <+ attempts (s.exec as).2 := by
  have h := exec_trace_invariant
    (fun s' tr => successes tr ++ s'.phase.sending <+ attempts tr)
    (fun {_ _ _ evs _} hst h => by
      have h' := h.append_right (evs.flatMap Event.attempted)
      simp only [successes, attempts, List.flatMap_append, List.append_assoc] at h' ⊢
      exact (hst.successes_sublist.append_left _).trans h')
    s [] (by simp [successes, attempts, hs]) as
  simpa using h

/-- From a state with an empty queue and no tick in progress, the successes are a
subsequence of the insertions. -/
theorem successes_sublist_insertions_of (s : Transport α) (hq : s.sendQueue.items = [])
    (hidle : s.phase = .idle) (as : List (Action α)) :
    successes (s.exec as).2 <+ insertions (s.exec as).2 := by
  have hfifo := fifo_exec s as
  rw [hq, List.nil_append] at hfifo
  rw [← hfifo]
  exact ((List.sublist_append_left _ _).trans (successes_sublist_attempts s hidle as)).trans
    ((attempts_sublist_removals _).trans (List.sublist_append_left _ _))

/-- **Packets are sent in queue order.**  Along every run from the constructors, the
packets `sendImpl` transmits successfully form a subsequence of the packets entering the
send queue, where a packet re-enqueued after a transient failure enters it again, at the
tail. -/
theorem successes_sublist_insertions (installed : Bool) (as : List (Action Packet)) :
    successes ((init installed : Transport Packet).exec as).2 <+
      insertions ((init installed : Transport Packet).exec as).2 :=
  successes_sublist_insertions_of _ rfl rfl as

set_option maxRecDepth 4000 in
/-- Two packets are accepted in the order `p`, `q`; `p` fails with `ESP_ERR_TIMEOUT` and is
re-enqueued behind `q`; both are then sent, `q` first. -/
theorem retried_packet_overtaken :
    let p : Packet := { Packet.clear with id := 1, size := 1 }
    let q : Packet := { Packet.clear with id := 2, size := 1 }
    let run : List (Action Packet) :=
      [.start, .send p, .push, .send q, .push, .tick, .complete ESP_ERR_TIMEOUT, .resume,
        .tick, .complete ESP_OK, .advance SEND_INTERVAL_US, .tick, .complete ESP_OK]
    [Event.sendReturned p ESP_OK, Event.sendReturned q ESP_OK] <+
      ((init true : Transport Packet).exec run).2 ∧
    successes ((init true : Transport Packet).exec run).2 = [q, p] := by
  decide

/-! ### Served in order -/

/-- Apart from `stop`'s `reset` and `clearQueue`'s `receive`s, only the worker's pop takes a
packet out of the queue. -/
theorem Transition.removed_eq_attempted {s s' : Transport α} {a : Action α}
    {evs : List (Event α)} (h : Transition s a s' evs) (hstop : a ≠ .stop)
    (hclear : a ≠ .clearStep) : evs.flatMap Event.removed = evs.flatMap Event.attempted := by
  cases h with
  | stop => exact absurd rfl hstop
  | clearPop => exact absurd rfl hclear
  | failed e ret _ _ => cases s.errorCallback <;> rfl
  | _ => rfl

/-- **Queued packets are served first, in order.**  From any state, along every run in
which neither `stop` nor `clearQueue` takes packets out of the queue, whatever producers,
error callbacks and re-enqueues do meanwhile, the packets handed to `sendImpl` are, in
order, a prefix of the packets queued at the start followed by those entering the queue
since.  So the packet at position `i` of the queue is the one handed to the `i+1`-th call
of `sendImpl`: no packet accepted later, and none re-enqueued after a failure, overtakes
it. -/
theorem queued_served_in_order (s : Transport α) (as : List (Action α)) (hstop : .stop ∉ as)
    (hclear : .clearStep ∉ as) :
    attempts (s.exec as).2 <+: s.sendQueue.items ++ insertions (s.exec as).2 := by
  have hrem : removals (s.exec as).2 = attempts (s.exec as).2 := by
    simpa using exec_trace_invariant_on (fun a => a ≠ .stop ∧ a ≠ .clearStep)
      (fun _ tr => removals tr = attempts tr)
      (fun ⟨h1, h2⟩ hst htr => by
        simp only [removals, attempts, List.flatMap_append] at htr ⊢
        rw [htr, hst.removed_eq_attempted h1 h2])
      s [] rfl as (fun a ha => ⟨fun h => hstop (h ▸ ha), fun h => hclear (h ▸ ha)⟩)
  rw [← fifo_exec, hrem]
  exact List.prefix_append _ _

set_option maxRecDepth 4000 in
/-- `queued_served_in_order` with `p` and `q` queued, while a producer sends `r` and `p`
fails with `ESP_ERR_TIMEOUT` and is put back: the next call of `sendImpl` takes `q`. -/
theorem queued_served_in_order_retry :
    let p : Packet := { Packet.clear with id := 1, size := 1 }
    let q : Packet := { Packet.clear with id := 2, size := 1 }
    let r : Packet := { Packet.clear with id := 3, size := 1 }
    let s : Transport Packet :=
      ((init true : Transport Packet).exec [.start, .send p, .push, .send q, .push]).1
    let as : List (Action Packet) :=
      [.send r, .push, .tick, .complete ESP_ERR_TIMEOUT, .resume, .tick]
    Action.stop ∉ as ∧ Action.clearStep ∉ as ∧
      attempts (s.exec as).2 <+: s.sendQueue.items ++ insertions (s.exec as).2 := by
  intro p q r s as
  exact ⟨by decide, by decide, queued_served_in_order s as (by decide) (by decide)⟩

end Transport

end Net
