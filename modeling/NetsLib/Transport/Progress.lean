/-
NetsLib/Transport/Progress.lean

What the worker does when it runs alone.  Each iteration of its loop calls
`processSendQueue`: past the rate limit it pops the head of the queue and calls
`sendImpl`; a success moves `mNextSendTime` one interval on, and a failure goes through
`handleSendError`, which puts a transiently failed packet back at the tail and drops any
other.  Left alone, the worker makes one pass over the queue in order, one packet per
round, and what becomes of each packet depends only on that packet's outcome.  A failure
leaves `mNextSendTime` alone, so a transient failure is retried at once, with no back-off.

Design.  The worker's environment is the list of outcomes of `sendImpl`; `serveRounds`
is the worker's schedule for it: a tick and the outcome; after a success the clock reaches
the new `mNextSendTime`, after a failure the rest of `handleSendError` runs at once.  One
round is computed once for each kind of outcome (`exec_okRound`, `exec_failRound`), and
each result below is an induction on the queue or on the number of rounds.

Main results: `worker_serves_queue_once` (one pass: every queued packet handed to
`sendImpl` once, in order, then sent, dropped or put back as its outcome says),
`worker_drains_queue` (from every reachable state, against a driver that accepts every
packet, the queue goes out one packet per interval) and `transient_failures_rotate`
(against one that fails every packet transiently, the queue cycles with no back-off).
-/
import NetsLib.Transport.Throughput
import NetsLib.Transport.Accounting
import Mathlib.Data.List.Rotate

namespace Net

open scoped List

namespace Transport

variable {α : Type}

/-- The worker alone, one round per outcome of `sendImpl` in `rs`, from the reading `t`:
a tick and the outcome; after a success the clock reaches the new `mNextSendTime`, after
a failure the rest of `handleSendError` runs at once. -/
def serveRounds (t : Int) : List Int → List (Action α)
  | [] => []
  | r :: rs =>
    if r = ESP_OK then
      .tick :: .complete r :: .advance (t + SEND_INTERVAL_US) ::
        serveRounds (t + SEND_INTERVAL_US) rs
    else .tick :: .complete r :: .resume :: serveRounds t rs

theorem serveRounds_ok (t : Int) (rs : List Int) :
    (serveRounds t (ESP_OK :: rs) : List (Action α)) =
      [.tick, .complete ESP_OK, .advance (t + SEND_INTERVAL_US)] ++
        serveRounds (t + SEND_INTERVAL_US) rs := by
  rw [serveRounds, if_pos rfl]
  rfl

theorem serveRounds_fail (t : Int) {r : Int} (hr : r ≠ ESP_OK) (rs : List Int) :
    (serveRounds t (r :: rs) : List (Action α)) =
      [.tick, .complete r, .resume] ++ serveRounds t rs := by
  rw [serveRounds, if_neg hr]
  rfl

/-- The packets of `l` whose outcome in `rs` satisfies `p`, in order. -/
def fates (p : Int → Bool) : List α → List Int → List α
  | e :: l, r :: rs => if p r then e :: fates p l rs else fates p l rs
  | _, _ => []

@[simp] theorem fates_cons (p : Int → Bool) (e : α) (l : List α) (r : Int) (rs : List Int) :
    fates p (e :: l) (r :: rs) = if p r then e :: fates p l rs else fates p l rs := rfl

/-- The events of transmitting `l` in order, one packet per interval from the reading
`t`. -/
def transmissions (t : Int) : List α → List (Event α)
  | [] => []
  | e :: l => .attempt e t :: .returned e ESP_OK t :: transmissions (t + SEND_INTERVAL_US) l

/-- The readings at which `sendImpl` was called along `tr`, oldest first. -/
def attemptTimes (tr : List (Event α)) : List Int :=
  tr.flatMap fun | .attempt _ t => [t] | _ => []

theorem attemptTimes_append (l r : List (Event α)) :
    attemptTimes (l ++ r) = attemptTimes l ++ attemptTimes r :=
  List.flatMap_append _ _ _

/-- What a failed round's events give a projection that ignores the error callback's
call. -/
theorem flatMap_failRound {β : Type} (f : Event α → List β)
    (hf : ∀ e r, f (.report e r) = []) (cb : Bool) (e : α) (r t : Int)
    (rest : List (Event α)) :
    (Event.attempt e t :: .returned e r t :: ((if cb then [.report e r] else []) ++ rest)).flatMap
      f = f (.attempt e t) ++ f (.returned e r t) ++ rest.flatMap f := by
  cases cb <;> simp [hf]

/-- The rest of `handleSendError`, as one state: the packet goes back into the queue after
a temporary error. -/
theorem retryOrDrop_fst (s : Transport α) (e : α) (err : Int) :
    (s.retryOrDrop e err).1 =
      { s with sendQueue := if isTemporary err then (s.sendQueue.send e).2 else s.sendQueue,
               phase := .idle } := by
  unfold retryOrDrop
  split <;> simp [*]

variable [HasPacket α]

/-! ### One round -/

/-- One round of a due, idle, running worker with `e` at the head of the queue, against a
driver that accepts it. -/
theorem exec_okRound {s : Transport α} (hrun : s.running = true) (hidle : s.phase = .idle)
    (hdue : ¬BitVec.ofInt 64 s.clock < s.nextSendTime) {e : α}
    {q : BufferedQueue α MAX_QUEUE_SIZE} (hq : s.sendQueue.receive = some (e, q)) :
    s.exec [.tick, .complete ESP_OK, .advance (s.clock + SEND_INTERVAL_US)] =
      ({ s with sendQueue := q, clock := s.clock + SEND_INTERVAL_US,
                nextSendTime := BitVec.ofInt 64 (s.clock + SEND_INTERVAL_US) },
        [.attempt e s.clock, .returned e ESP_OK s.clock]) := by
  have hle : s.clock ≤ s.clock + SEND_INTERVAL_US := by omega
  simp [step, hrun, hidle, Phase.isIdle, processSendQueue, hdue, hq, sendImplReturned, hle]

/-- One round of a due, idle, running worker with `e` at the head of the queue, against a
driver that fails it with `r`: the error callback, then `handleSendError`'s retry or drop. -/
theorem exec_failRound {s : Transport α} (hrun : s.running = true) (hidle : s.phase = .idle)
    (hdue : ¬BitVec.ofInt 64 s.clock < s.nextSendTime) {r : Int} (hr : r ≠ ESP_OK) {e : α}
    {q : BufferedQueue α MAX_QUEUE_SIZE} (hq : s.sendQueue.receive = some (e, q)) :
    s.exec [.tick, .complete r, .resume] =
      (({ s with sendQueue := q, phase := .handling e r }.retryOrDrop e r).1,
        .attempt e s.clock :: .returned e r s.clock ::
          ((if s.errorCallback then [.report e r] else []) ++
            ({ s with sendQueue := q, phase := .handling e r }.retryOrDrop e r).2)) := by
  simp [step, hrun, hidle, Phase.isIdle, processSendQueue, hdue, hq, sendImplReturned, hr]

/-! ### One pass over the queue -/

/-- The worker alone makes one pass over the packets `l` ahead of `acc` in the queue, one
round per outcome in `rs`. -/
theorem exec_serveRounds (l : List α) :
    ∀ (t : Int) (rs : List Int) (acc : List α) (s : Transport α), s.clock = t →
    rs.length = l.length → s.running = true → s.phase = .idle →
    ¬BitVec.ofInt 64 s.clock < s.nextSendTime → s.sendQueue.items = l ++ acc →
    (s.exec (serveRounds t rs)).2.flatMap Event.attempted = l ∧
    (s.exec (serveRounds t rs)).2.flatMap Event.succeeded = fates (· == ESP_OK) l rs ∧
    (s.exec (serveRounds t rs)).2.flatMap Event.droppedPacket =
      fates (fun r => r != ESP_OK && !isTemporary r) l rs ∧
    (s.exec (serveRounds t rs)).1.sendQueue.items = acc ++ fates isTemporary l rs := by
  induction l with
  | nil =>
    rintro t (_ | ⟨r, rs⟩) acc s - hlen - - - hq
    · exact ⟨rfl, rfl, rfl, hq.trans (List.append_nil acc).symm⟩
    · simp at hlen
  | cons e l ih =>
    rintro t (_ | ⟨r, rs⟩) acc s rfl hlen hrun hidle hdue hq
    · simp at hlen
    simp only [List.length_cons, Nat.add_right_cancel_iff] at hlen
    have hfit : (l ++ acc).length < MAX_QUEUE_SIZE := by
      have := s.sendQueue.length_le
      rw [hq, List.cons_append, List.length_cons] at this
      omega
    have hpop : s.sendQueue.receive = some (e, ⟨l ++ acc, hfit.le⟩) :=
      BufferedQueue.receive_eq_some.mpr (by rw [hq, List.cons_append])
    by_cases hr : r = ESP_OK
    · subst hr
      rw [serveRounds_ok, exec_append, exec_okRound hrun hidle hdue hpop]
      obtain ⟨h1, h2, h3, h4⟩ := ih (s.clock + SEND_INTERVAL_US) rs acc
        { s with sendQueue := ⟨l ++ acc, hfit.le⟩, clock := s.clock + SEND_INTERVAL_US,
                 nextSendTime := BitVec.ofInt 64 (s.clock + SEND_INTERVAL_US) }
        rfl hlen hrun hidle (BitVec.lt_irrefl _) rfl
      simp only [List.flatMap_append, h1, h2, h3]
      exact ⟨rfl, rfl, rfl, h4⟩
    · rw [serveRounds_fail _ hr, exec_append, exec_failRound hrun hidle hdue hr hpop,
        retryOrDrop_fst]
      generalize hQ : (if isTemporary r then ((⟨l ++ acc, hfit.le⟩ : BufferedQueue α _).send e).2
        else ⟨l ++ acc, hfit.le⟩) = Q
      have hback : Q.items = l ++ (acc ++ if isTemporary r then [e] else []) := by
        rw [← hQ]
        split
        · exact (BufferedQueue.send_of_lt hfit).2.trans (List.append_assoc _ _ _)
        · simp
      obtain ⟨h1, h2, h3, h4⟩ := ih s.clock rs _ { s with sendQueue := Q, phase := .idle }
        rfl hlen hrun rfl hdue hback
      simp only [retryOrDrop, List.flatMap_append,
        flatMap_failRound Event.attempted (fun _ _ => rfl),
        flatMap_failRound Event.succeeded (fun _ _ => rfl),
        flatMap_failRound Event.droppedPacket (fun _ _ => rfl), h1, h2, h3, h4]
      have hfail : (r == ESP_OK) = false := beq_false_of_ne hr
      cases ht : isTemporary r <;> simp [hr, hfail, ht]

/-- **One pass over the queue.**  A running worker between ticks, past the rate limit and
left alone, given one outcome of `sendImpl` per queued packet, hands every queued packet to
`sendImpl` exactly once, in queue order, whatever the outcomes.  Then the packets sent are
those whose outcome was `ESP_OK`, the packets dropped those whose outcome was a fatal
error, and the queue holds exactly those whose outcome was transient, each in queue
order. -/
theorem worker_serves_queue_once (s : Transport α) (hrun : s.running = true)
    (hidle : s.phase = .idle) (hdue : ¬BitVec.ofInt 64 s.clock < s.nextSendTime)
    (rs : List Int) (hlen : rs.length = s.sendQueue.waiting) :
    attempts (s.exec (serveRounds s.clock rs)).2 = s.sendQueue.items ∧
    successes (s.exec (serveRounds s.clock rs)).2 = fates (· == ESP_OK) s.sendQueue.items rs ∧
    (s.exec (serveRounds s.clock rs)).2.flatMap Event.droppedPacket =
      fates (fun r => r != ESP_OK && !isTemporary r) s.sendQueue.items rs ∧
    (s.exec (serveRounds s.clock rs)).1.sendQueue.items =
      fates isTemporary s.sendQueue.items rs := by
  simpa using exec_serveRounds s.sendQueue.items s.clock rs [] s rfl hlen hrun hidle hdue
    (List.append_nil _).symm

set_option maxRecDepth 4000 in
/-- `worker_serves_queue_once` on two queued packets, the first failing with
`ESP_ERR_TIMEOUT`, the second sent: the first is back in the queue. -/
theorem worker_serves_queue_once_timeoutThenOk :
    let p : Packet := { Packet.clear with id := 1, size := 1 }
    let q : Packet := { Packet.clear with id := 2, size := 1 }
    let s : Transport Packet :=
      ((init true : Transport Packet).exec [.start, .send p, .push, .send q, .push]).1
    (s.exec (serveRounds s.clock [ESP_ERR_TIMEOUT, ESP_OK])).1.sendQueue.items = [p] := by
  intro p q s
  exact (worker_serves_queue_once s (by decide) (by decide) (by decide)
    [ESP_ERR_TIMEOUT, ESP_OK] (by decide)).2.2.2.trans (by decide)

/-! ### A driver that accepts every packet -/

/-- A due, idle, running worker alone against a driver that accepts every packet sends the
queue `l` in order, one packet per interval, and empties it. -/
theorem exec_serveRounds_ok (l : List α) : ∀ (s : Transport α), s.running = true →
    s.phase = .idle → ¬BitVec.ofInt 64 s.clock < s.nextSendTime → s.sendQueue.items = l →
    (s.exec (serveRounds s.clock (List.replicate l.length ESP_OK))).2 =
      transmissions s.clock l ∧
    (s.exec (serveRounds s.clock (List.replicate l.length ESP_OK))).1.sendQueue.items = [] := by
  induction l with
  | nil => exact fun s _ _ _ hl => ⟨rfl, hl⟩
  | cons e l ih =>
    intro s hrun hidle hdue hl
    have hlen : l.length ≤ MAX_QUEUE_SIZE := by
      have := s.sendQueue.length_le
      rw [hl, List.length_cons] at this
      omega
    have hq : s.sendQueue.receive = some (e, ⟨l, hlen⟩) := BufferedQueue.receive_eq_some.mpr hl
    rw [List.length_cons, List.replicate_succ, serveRounds_ok, exec_append,
      exec_okRound hrun hidle hdue hq]
    obtain ⟨hev, hemp⟩ := ih
      { s with sendQueue := ⟨l, hlen⟩, clock := s.clock + SEND_INTERVAL_US,
               nextSendTime := BitVec.ofInt 64 (s.clock + SEND_INTERVAL_US) }
      hrun hidle (BitVec.lt_irrefl _) rfl
    exact ⟨congrArg (fun x => [Event.attempt e s.clock, .returned e ESP_OK s.clock] ++ x) hev,
      hemp⟩

/-- **The queue drains.**  From every state a run can reach while the clock stays below
`2^63 - SEND_INTERVAL_US`, a running worker between ticks, left alone with a driver that
accepts every packet, sends the whole queue in order once the clock has moved on by one
interval, one packet per interval, and empties it: the rate limit never holds the queue
back for longer than one interval. -/
theorem worker_drains_queue (installed : Bool) (as : List (Action Packet))
    (s : Transport Packet) (hs : s = ((init installed : Transport Packet).exec as).1)
    (hclock : s.clock < clockLimit) (hrun : s.running = true) (hidle : s.phase = .idle) :
    (s.exec (.advance (s.clock + SEND_INTERVAL_US) :: serveRounds (s.clock + SEND_INTERVAL_US)
        (List.replicate s.sendQueue.waiting ESP_OK))).2 =
      transmissions (s.clock + SEND_INTERVAL_US) s.sendQueue.items ∧
    (s.exec (.advance (s.clock + SEND_INTERVAL_US) :: serveRounds (s.clock + SEND_INTERVAL_US)
        (List.replicate s.sendQueue.waiting ESP_OK))).1.sendQueue.items = [] := by
  obtain ⟨h0, hnext⟩ := nextSendTime_le_exec installed as
  rw [← hs] at h0 hnext
  have hn := hnext hclock
  have hend : ((BitVec.ofInt 64 (s.clock + SEND_INTERVAL_US)).toNat : Int) =
      s.clock + SEND_INTERVAL_US :=
    toNat_ofInt_of_lt (by omega) (by simp only [clockLimit] at hclock; omega)
  have hdue : ¬BitVec.ofInt 64 (s.clock + SEND_INTERVAL_US) < s.nextSendTime := by
    rw [BitVec.lt_def, not_lt]
    omega
  have hle : s.clock ≤ s.clock + SEND_INTERVAL_US := by omega
  rw [exec_cons]
  simp only [step, hle, if_true, List.nil_append]
  exact exec_serveRounds_ok _ _ hrun hidle hdue rfl

set_option maxRecDepth 4000 in
/-- `worker_drains_queue` after one accepted packet: it goes out one interval later. -/
theorem worker_drains_queue_onePacket :
    let p : Packet := { Packet.clear with size := 1 }
    let s : Transport Packet := ((init true : Transport Packet).exec [.start, .send p, .push]).1
    (s.exec (.advance (s.clock + SEND_INTERVAL_US) :: serveRounds (s.clock + SEND_INTERVAL_US)
        (List.replicate s.sendQueue.waiting ESP_OK))).2 =
      [.attempt p SEND_INTERVAL_US, .returned p ESP_OK SEND_INTERVAL_US] :=
  (worker_drains_queue true _ _ rfl (by decide) (by decide) (by decide)).1.trans (by decide)

/-! ### A driver that fails transiently -/

/-- **Transient failures cycle the queue.**  A running worker between ticks, left alone
with a driver that fails every packet with the same transient error, calls `sendImpl` on
every tick with no back-off: after `n` rounds it made `n` calls, all at the reading where
the first was allowed, `mNextSendTime` has not moved, and the queue has been rotated by
`n` places, with no packet dropped or lost. -/
theorem transient_failures_rotate (err : Int) (htmp : isTemporary err = true) (n : Nat) :
    ∀ (s : Transport α), s.running = true → s.phase = .idle →
    ¬BitVec.ofInt 64 s.clock < s.nextSendTime → s.sendQueue.items ≠ [] →
    (s.exec (serveRounds s.clock (List.replicate n err))).1.sendQueue.items =
      s.sendQueue.items.rotate n ∧
    (s.exec (serveRounds s.clock (List.replicate n err))).1.nextSendTime = s.nextSendTime ∧
    attemptTimes (s.exec (serveRounds s.clock (List.replicate n err))).2 =
      List.replicate n s.clock := by
  have herr : err ≠ ESP_OK := by rintro rfl; exact absurd htmp (by decide)
  induction n with
  | zero => exact fun s _ _ _ _ => ⟨(List.rotate_zero _).symm, rfl, rfl⟩
  | succ n ih =>
    intro s hrun hidle hdue hne
    obtain ⟨e, l, hl⟩ := List.exists_cons_of_ne_nil hne
    have hlen : l.length < MAX_QUEUE_SIZE := by
      have := s.sendQueue.length_le
      rw [hl, List.length_cons] at this
      omega
    have hq : s.sendQueue.receive = some (e, ⟨l, hlen.le⟩) :=
      BufferedQueue.receive_eq_some.mpr hl
    have hsend : ((⟨l, hlen.le⟩ : BufferedQueue α MAX_QUEUE_SIZE).send e).2.items = l ++ [e] :=
      (BufferedQueue.send_of_lt hlen).2
    rw [List.replicate_succ, serveRounds_fail _ herr, exec_append,
      exec_failRound hrun hidle hdue herr hq]
    simp only [retryOrDrop, htmp, if_true]
    obtain ⟨h1, h2, h3⟩ := ih
      { s with sendQueue := ((⟨l, hlen.le⟩ : BufferedQueue α MAX_QUEUE_SIZE).send e).2,
               phase := .idle } hrun rfl hdue (by simp [hsend])
    dsimp only at h1 h2 h3
    refine ⟨?_, h2, ?_⟩
    · rw [h1, hsend, hl, List.rotate_cons_succ]
    · rw [attemptTimes_append, h3]
      split <;> rfl

set_option maxRecDepth 4000 in
/-- `transient_failures_rotate` on two queued packets failing with `ESP_ERR_TIMEOUT` three
times: three calls at reading 0, and the two packets have swapped places. -/
theorem transient_failures_rotate_timeout :
    let p : Packet := { Packet.clear with id := 1, size := 1 }
    let q : Packet := { Packet.clear with id := 2, size := 1 }
    let s : Transport Packet :=
      ((init true : Transport Packet).exec [.start, .send p, .push, .send q, .push]).1
    (s.exec (serveRounds s.clock (List.replicate 3 ESP_ERR_TIMEOUT))).1.sendQueue.items =
      [q, p] ∧
    attemptTimes (s.exec (serveRounds s.clock (List.replicate 3 ESP_ERR_TIMEOUT))).2 =
      [0, 0, 0] := by
  intro p q s
  have h := transient_failures_rotate ESP_ERR_TIMEOUT (by decide) 3 s (by decide) (by decide)
    (by decide) (by decide)
  exact ⟨h.1.trans (by decide), h.2.2.trans (by decide)⟩

end Transport

end Net
