/-
NetsLib/Transport/Stop.lean

What `stop` leaves in the send queue.  `stop` is `mSendQueue.reset(); mThread.stop();`
with no lock, and `mThread.stop()` waits for the worker to finish its tick.  Between the
two statements the thread still runs, so `isInitialized()` still holds: a `send` can pass
its checks and push, and the tick in progress can re-enqueue a transiently failed packet.
Those packets are in the queue when `stop` returns.

Afterwards, until the next `start`, the worker does not tick and every `send` that starts
fails its `isInitialized()` check; only a `send` that had already passed its checks (at
most one: sends hold `mMutex` from the checks to the push) can still push.

Main results: `send_lands_after_stop` (a run in which `clearQueue` after `stop` returns 1)
and `queue_after_stop`.
-/
import NetsLib.Transport.Fifo

namespace Net

open scoped List

namespace Transport

variable {α : Type} [HasPacket α]

/-! ### While `stop` runs -/

theorem step_stop {s : Transport α} (h : s.stopping = false) :
    s.step .stop = ({ s with sendQueue := s.sendQueue.reset, stopping := true },
      [.drained s.sendQueue.items]) := by
  simp [step, h, stop]

theorem step_halt {s : Transport α} (h : s.stopping = true) (hidle : s.phase = .idle) :
    s.step .halt = ({ s with running := false, stopping := false }, [.halted]) := by
  simp [step, h, hidle, halt]

/-- Only `halt` ends a `stop` in progress. -/
theorem Transition.stopping_of_ne_halt {s s' : Transport α} {a : Action α}
    {evs : List (Event α)} (h : Transition s a s' evs) (ha : a ≠ .halt)
    (hs : s.stopping = true) : s'.stopping = true := by
  cases h with
  | halt => exact absurd rfl ha
  | _ => simp [hs]

theorem stopping_exec {s : Transport α} (hs : s.stopping = true) (as : List (Action α))
    (has : .halt ∉ as) : (s.exec as).1.stopping = true := by
  induction as generalizing s with
  | nil => exact hs
  | cons a as ih =>
    simp only [List.mem_cons, not_or] at has
    exact ih ((step_spec s a).stopping_of_ne_halt (Ne.symm has.1) hs) has.2

/-! ### After `stop` returned -/

/-- The transport after `stop` returned, seen from the state `h` it returned in: the worker
is halted and between ticks, the queue and the `send` holding the mutex only lose
packets, a `send` can succeed only if it was the one holding the mutex, and nothing is
handed to `sendImpl`. -/
def Halted (h s : Transport α) (tr : List (Event α)) : Prop :=
  s.running = false ∧ s.phase = .idle ∧
  s.sendQueue.items ++ s.pending.toList <+ h.sendQueue.items ++ h.pending.toList ∧
  (s.pending = none ∨ s.pending = h.pending) ∧
  (∀ e r, Event.sendReturned e r ∈ tr → r = ESP_OK → h.pending = some e) ∧
  (∀ e t, Event.attempt e t ∉ tr)

theorem Transition.halted {h s s' : Transport α} {a : Action α} {evs tr : List (Event α)}
    (hst : Transition s a s' evs) (ha : a ≠ .start) (hh : Halted h s tr) :
    Halted h s' (tr ++ evs) := by
  obtain ⟨hrun, hidle, hsub, hpend, hret, hatt⟩ := hh
  have keep : ∀ {s'' : Transport α}, s''.running = false → s''.phase = .idle →
      s''.sendQueue.items ++ s''.pending.toList <+ s.sendQueue.items ++ s.pending.toList →
      s''.pending = s.pending → (∀ e r, Event.sendReturned e r ∈ evs → r ≠ ESP_OK) →
      (∀ e t, Event.attempt e t ∉ evs) → Halted h s'' (tr ++ evs) :=
    fun hr hi hs hp hsr hat => ⟨hr, hi, hs.trans hsub, hp ▸ hpend,
      fun e r he hok => by
        rcases List.mem_append.mp he with he | he
        exacts [hret e r he hok, absurd hok (hsr e r he)],
      fun e t he => by
        rcases List.mem_append.mp he with he | he
        exacts [hatt e t he, hat e t he]⟩
  cases hst with
  | skip => exact keep hrun hidle (List.Sublist.refl _) rfl (by simp) (by simp)
  | sendReject e _ _ =>
    exact keep hrun hidle (List.Sublist.refl _) rfl
      (by simp [ESP_OK, ESP_ERR_INVALID_ARG]) (by simp)
  | sendCheck e _ hchk => simp [isInitialized, hrun] at hchk
  | push e hp =>
    refine ⟨hrun, hidle, ?_, .inl rfl, fun e' r he hok => ?_, fun e' t he => ?_⟩
    · refine List.Sublist.trans ?_ (hp ▸ hsub)
      simp only [BufferedQueue.send_items, Option.toList, List.append_nil]
      split <;> simp
    · rcases List.mem_append.mp he with he | he
      · exact hret e' r he hok
      · simp only [List.mem_singleton, Event.sendReturned.injEq] at he
        obtain ⟨rfl, -⟩ := he
        rcases hpend with hn | hs
        · simp [hn] at hp
        · rw [← hs, hp]
    · rcases List.mem_append.mp he with he | he
      · exact hatt e' t he
      · simp at he
  | start => exact absurd rfl ha
  | stop => exact keep hrun hidle (by simp) rfl (by simp) (by simp)
  | halt => exact keep rfl hidle (List.Sublist.refl _) rfl (by simp) (by simp)
  | clearPop n e q _ hq =>
    exact keep hrun hidle (by simp [BufferedQueue.receive_eq_some.mp hq]) rfl
      (by simp) (by simp)
  | tick e q hr => simp [hr] at hrun
  | sent e hph | failed e _ hph _ | retry e _ hph _ | drop e _ hph _ => simp [hph] at hidle
  | _ => exact keep hrun hidle (List.Sublist.refl _) rfl (by simp) (by simp)

theorem halted_exec_of {h : Transport α} (as : List (Action α)) (has : .start ∉ as) :
    ∀ (s : Transport α) tr, Halted h s tr → Halted h (s.exec as).1 (tr ++ (s.exec as).2) := by
  induction as with
  | nil => simp
  | cons a as ih =>
    simp only [List.mem_cons, not_or] at has
    intro s tr hs
    simpa using ih has.2 _ _ ((step_spec s a).halted (Ne.symm has.1) hs)

theorem halted_exec {h : Transport α} (hrun : h.running = false) (hidle : h.phase = .idle)
    (as : List (Action α)) (has : .start ∉ as) : Halted h (h.exec as).1 (h.exec as).2 := by
  simpa using halted_exec_of as has h []
    ⟨hrun, hidle, List.Sublist.refl _, .inr rfl, by simp, by simp⟩

/-! ### `stop` -/

/-- **What `stop` leaves in the queue.**  From any state with no `stop` in progress, call
`stop`; let any other actions happen (`mid`, in which `stop` has not returned); and let
`stop` return once the worker is between ticks.  Then the queue holds only packets that
entered it after the drain.  From then until the next `start` (`post`), the queue and the
`send` holding the mutex only lose packets, the only `send` that can still succeed is the
one that held the mutex when `stop` returned, and nothing is handed to `sendImpl`. -/
theorem queue_after_stop (s : Transport Packet) (mid post : List (Action Packet))
    (hfree : s.stopping = false) (hmid : .halt ∉ mid)
    (hidle : (s.exec (.stop :: mid)).1.phase = .idle) (hpost : .start ∉ post) :
    (s.exec (.stop :: mid ++ [.halt])).1.sendQueue.items <+
      insertions (s.exec (.stop :: mid)).2 ∧
    ((s.exec (.stop :: mid ++ [.halt])).1.exec post).1.sendQueue.items <+
      (s.exec (.stop :: mid ++ [.halt])).1.sendQueue.items ++
        (s.exec (.stop :: mid ++ [.halt])).1.pending.toList ∧
    (∀ e r, Event.sendReturned e r ∈ ((s.exec (.stop :: mid ++ [.halt])).1.exec post).2 →
      r = ESP_OK → (s.exec (.stop :: mid ++ [.halt])).1.pending = some e) ∧
    (∀ e t, Event.attempt e t ∉ ((s.exec (.stop :: mid ++ [.halt])).1.exec post).2) := by
  -- just before `stop` returns: still stopping, and the queue holds only later insertions
  have hstopping : (s.exec (.stop :: mid)).1.stopping = true := by
    rw [exec_cons, step_stop hfree]
    exact stopping_exec rfl mid hmid
  have hlate : (s.exec (.stop :: mid)).1.sendQueue.items <+
      insertions (s.exec (.stop :: mid)).2 := by
    have hfifo := fifo_exec { s with sendQueue := s.sendQueue.reset, stopping := true } mid
    simp only [BufferedQueue.reset_items, List.nil_append, insertions] at hfifo
    simp only [exec_cons, step_stop hfree, insertions, List.flatMap_append, List.flatMap_cons,
      Event.inserted, List.flatMap_nil, List.nil_append, List.append_nil, ← hfifo]
    exact List.sublist_append_right _ _
  have hhalt : (s.exec (.stop :: mid ++ [.halt])).1 =
      { (s.exec (.stop :: mid)).1 with running := false, stopping := false } := by
    rw [exec_append, exec_singleton, step_halt hstopping hidle]
  obtain ⟨-, -, hsub, -, hret, hatt⟩ := halted_exec
    (show (s.exec (.stop :: mid ++ [.halt])).1.running = false by rw [hhalt])
    (show (s.exec (.stop :: mid ++ [.halt])).1.phase = .idle by rw [hhalt]; exact hidle) post hpost
  exact ⟨by rw [hhalt]; exact hlate, (List.sublist_append_left _ _).trans hsub, hret, hatt⟩

set_option maxRecDepth 4000 in
/-- `queue_after_stop` where a `send` pushes between the drain and the return of `stop`:
that packet is what the queue holds, and nothing else enters it afterwards. -/
theorem queue_after_stop_late_send :
    let s := ((init true : Transport Packet).exec [.start]).1
    let mid : List (Action Packet) := [.send { Packet.clear with size := 1 }, .push]
    let post : List (Action Packet) := [.clearQueue, .clearStep, .clearStep]
    ((s.exec (.stop :: mid ++ [.halt])).1.exec post).1.sendQueue.items <+
      (s.exec (.stop :: mid ++ [.halt])).1.sendQueue.items ++
        (s.exec (.stop :: mid ++ [.halt])).1.pending.toList :=
  (queue_after_stop _ _ _ (by decide) (by decide) (by decide) (by decide)).2.1

set_option maxRecDepth 4000 in
/-- `stop` drains the queue, a `send` that passed its checks before the worker halted
pushes, `stop` returns, and `clearQueue` then returns 1. -/
theorem send_lands_after_stop :
    let p : Packet := { Packet.clear with size := 1 }
    let run : List (Action Packet) :=
      [.start, .stop, .send p, .push, .halt, .clearQueue, .clearStep, .clearStep]
    [Event.halted, Event.clearReturned 1] <+ ((init true : Transport Packet).exec run).2 := by
  decide

end Transport

end Net
