/-
NetsLib/Transport/Validity.lean

Only valid packets ever sit in the send queue.  `send` checks `isValid()` before it
pushes; the re-enqueue of `handleSendError` pushes without checking, but what it pushes
is the packet the same tick popped, and `sendImpl` is handed that packet unchanged (as
`Uart::sendImpl` and `UsbJtag::sendImpl` leave it).  The inductive invariant
`HoldsValid` follows a packet through all three places it can be held.

Main result: `queued_packets_valid` — in every reachable state the queue holds only valid
packets, and every packet handed to `sendImpl` is valid, so the span
`(packet.buffer.data(), packet.size)` the adapters write is non-empty and inside the
buffer.
-/
import NetsLib.Transport.Run

namespace Net

namespace Transport

variable {α : Type} [HasPacket α]

/-- Every packet the transport holds — queued, checked by a `send` about to push it, or
in the worker's tick — is valid. -/
def HoldsValid (s : Transport α) : Prop :=
  (∀ e ∈ s.sendQueue.items, (HasPacket.packet e).isValid) ∧
  (∀ e ∈ s.pending, (HasPacket.packet e).isValid) ∧
  (∀ e ∈ s.phase.entry, (HasPacket.packet e).isValid)

theorem holdsValid_init (installed : Bool) : HoldsValid (init installed : Transport α) := by
  simp [HoldsValid, init, BufferedQueue.empty, Phase.entry]

/-! ### One step -/

theorem Transition.holdsValid {s s' : Transport α} {a : Action α} {evs : List (Event α)}
    (h : Transition s a s' evs) (hv : HoldsValid s) : HoldsValid s' := by
  obtain ⟨hq, hp, hph⟩ := hv
  cases h with
  | skip | sendReject | bind | start | clearQueue | clearDone | advance => exact ⟨hq, hp, hph⟩
  | sendCheck e _ hchk =>
    refine ⟨hq, ?_, hph⟩
    simp only [Option.mem_def, Option.some.injEq, forall_eq']
    simp only [Bool.and_eq_true] at hchk
    exact hchk.2
  | push e hpend =>
    refine ⟨fun x hx => ?_, by simp, hph⟩
    rcases BufferedQueue.mem_send hx with hx | rfl
    exacts [hq x hx, hp x hpend]
  | stop => exact ⟨by simp, hp, hph⟩
  | halt => exact ⟨hq, hp, hph⟩
  | clearPop n e q _ hrecv =>
    refine ⟨fun x hx => hq x ?_, hp, hph⟩
    simp [BufferedQueue.receive_eq_some.mp hrecv, hx]
  | tick e q _ _ _ hrecv =>
    have hitems := BufferedQueue.receive_eq_some.mp hrecv
    refine ⟨fun x hx => hq x (by simp [hitems, hx]), hp, ?_⟩
    simpa [Phase.entry] using hq e (by simp [hitems])
  | sent e hph' => exact ⟨hq, hp, by simp [Phase.entry]⟩
  | failed e ret hph' _ => exact ⟨hq, hp, by simpa [Phase.entry, hph'] using hph⟩
  | retry e err hph' _ =>
    have he : (HasPacket.packet e).isValid := hph e (by simp [hph', Phase.entry])
    refine ⟨fun x hx => ?_, hp, by simp [Phase.entry]⟩
    rcases BufferedQueue.mem_send hx with hx | rfl
    exacts [hq x hx, he]
  | drop => exact ⟨hq, hp, by simp [Phase.entry]⟩

/-- A transition hands `sendImpl` only a packet the transport held. -/
theorem Transition.attempt_valid {s s' : Transport α} {a : Action α} {evs : List (Event α)}
    (h : Transition s a s' evs) (hv : HoldsValid s) {e : α} {t : Int}
    (he : Event.attempt e t ∈ evs) : (HasPacket.packet e).isValid := by
  cases h with
  | tick e' q _ _ _ hrecv =>
    simp only [List.mem_singleton, Event.attempt.injEq] at he
    rw [he.1]
    exact hv.1 e' (by simp [BufferedQueue.receive_eq_some.mp hrecv])
  | failed e' ret _ _ => split at he <;> simp at he
  | _ => simp at he

/-! ### Whole runs -/

/-- The invariant, and every packet handed to `sendImpl` so far was valid. -/
theorem holdsValid_exec (installed : Bool) (as : List (Action α)) :
    HoldsValid ((init installed : Transport α).exec as).1 ∧
    ∀ e t, Event.attempt e t ∈ ((init installed : Transport α).exec as).2 →
      (HasPacket.packet e).isValid := by
  have h := exec_trace_invariant
    (fun s tr => HoldsValid s ∧
      ∀ e t, Event.attempt e t ∈ tr → (HasPacket.packet e).isValid)
    (fun hst ⟨hv, ha⟩ => ⟨hst.holdsValid hv, fun e t he => by
      rcases List.mem_append.mp he with he | he
      exacts [ha e t he, hst.attempt_valid hv he]⟩)
    (init installed) [] ⟨holdsValid_init installed, by simp⟩ as
  simpa using h

/-- **Only valid packets are queued and sent.**  In every state reachable from the
constructors, by any interleaving of sends, ticks with any outcomes, re-enqueues, replies,
`clearQueue` and `stop`, the queue holds only valid packets; and every packet handed to
`sendImpl` is valid, so the span of its first `size` bytes is non-empty and lies inside
the `MAX_MTU`-byte buffer. -/
theorem queued_packets_valid (installed : Bool) (as : List (Action Packet)) :
    (∀ p ∈ ((init installed : Transport Packet).exec as).1.sendQueue.items, p.isValid) ∧
    ∀ p t, Event.attempt p t ∈ ((init installed : Transport Packet).exec as).2 →
      p.isValid ∧ 0 < p.size.toNat ∧ p.size.toNat ≤ MAX_MTU := by
  obtain ⟨⟨hq, -, -⟩, ha⟩ := @holdsValid_exec Packet _ installed as
  exact ⟨hq, fun p t hp => ⟨ha p t hp, (Packet.isValid_iff p).mp (ha p t hp)⟩⟩

end Transport

end Net
