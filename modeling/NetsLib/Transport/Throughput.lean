/-
NetsLib/Transport/Throughput.lean

How fast the worker can transmit.  `processSendQueue` returns at once while
`mNextSendTime > esp_timer_get_time()`, and only a successful `sendImpl` moves
`mNextSendTime`, to the reading plus `SEND_INTERVAL_US`.  So successful transmissions
are at least one interval apart, and `mNextSendTime` is never more than one interval
ahead of the clock.

Design.  `okTimes` (`Transport/RateLimit.lean`) reads off a trace the clock readings at
which `sendImpl` returned `ESP_OK`.  The invariant `Paced` says they are one interval
apart, each one interval before `mNextSendTime`, and one interval before the clock while a
tick is in progress; the window bound is then a fact about such lists
(`length_mul_lt_of_spread`).

Main results: `successes_paced` (successes one interval apart, hence at most
`⌈T / SEND_INTERVAL_US⌉` of them in any `T` µs) and `nextSendTime_le_exec`
(`mNextSendTime` is never more than one interval ahead of the clock), on which the
progress results of `Transport/Progress.lean` rest.
-/
import NetsLib.Transport.RateLimit

namespace Net

open scoped List

namespace Transport

variable {α : Type}

/-- Readings in order, each at least one interval after every earlier one. -/
def Spread (ts : List Int) : Prop := ts.Pairwise fun (t t' : Int) => t + SEND_INTERVAL_US ≤ t'

/-- Readings one interval apart that all lie in `[lo, hi)` number fewer than
`(hi - lo) / SEND_INTERVAL_US + 1`. -/
theorem length_mul_lt_of_spread {ts : List Int} (hsp : Spread ts) (lo hi : Int)
    (hin : ∀ t ∈ ts, lo ≤ t ∧ t < hi) (hlo : lo < hi + SEND_INTERVAL_US) :
    ts.length * (SEND_INTERVAL_US : Int) < hi - lo + SEND_INTERVAL_US := by
  have hI : (SEND_INTERVAL_US : Int) = 20000 := rfl
  induction ts generalizing lo with
  | nil => simp only [List.length_nil, hI] at hlo ⊢; omega
  | cons t ts ih =>
    rw [Spread, List.pairwise_cons] at hsp
    have ht := hin t (List.mem_cons_self t ts)
    have hrest := ih hsp.2 (t + SEND_INTERVAL_US)
      (fun t' ht' => ⟨hsp.1 t' ht', (hin t' (List.mem_cons_of_mem t ht')).2⟩) (by omega)
    rw [List.length_cons, hI] at *
    omega

/-! ### Successes are one interval apart -/

variable [HasPacket α]

/-- The invariant behind `successes_paced`, for a state whose clock is in range. -/
structure Paced (s : Transport α) (ts : List Int) : Prop where
  spread : Spread ts
  next : ∀ t ∈ ts, t + SEND_INTERVAL_US ≤ s.nextSendTime.toNat
  busy : s.phase ≠ .idle → ∀ t ∈ ts, t + SEND_INTERVAL_US ≤ s.clock

theorem Transition.paced {s s' : Transport α} {a : Action α} {evs : List (Event α)}
    {ts : List Int} (h : Transition s a s' evs) (h0 : 0 ≤ s.clock)
    (hlim : s'.clock < clockLimit) (hp : Paced s ts) :
    Paced s' (ts ++ evs.flatMap Event.okTime) := by
  have keep : ∀ {s'' : Transport α}, s''.nextSendTime = s.nextSendTime →
      s.clock ≤ s''.clock → (s''.phase ≠ .idle → s.phase ≠ .idle) →
      evs.flatMap Event.okTime = [] → Paced s'' (ts ++ evs.flatMap Event.okTime) :=
    fun hn hc hph hnil => by
      rw [hnil, List.append_nil]
      exact ⟨hp.spread, hn ▸ hp.next, fun h t ht => (hp.busy (hph h) t ht).trans hc⟩
  cases h with
  | tick e q _ _ hguard _ =>
    have hg : (s.nextSendTime.toNat : Int) ≤ s.clock := by
      have := toNat_ofInt_of_lt h0 (by simp only [clockLimit] at hlim; omega)
      simp only [BitVec.lt_def, not_lt] at hguard
      omega
    refine ⟨?_, ?_, fun _ t ht => ?_⟩ <;> simp only [List.flatMap_singleton, Event.okTime,
      List.append_nil] at *
    exacts [hp.spread, hp.next, (hp.next t ht).trans hg]
  | sent e hph =>
    have hlim' : s.clock + SEND_INTERVAL_US < 2 ^ 63 := by
      simp only [clockLimit] at hlim; omega
    have hbusy := hp.busy (by simp [hph])
    have hnext : ((BitVec.ofInt 64 (s.clock + SEND_INTERVAL_US)).toNat : Int) =
        s.clock + SEND_INTERVAL_US := toNat_ofInt_of_lt (by omega) hlim'
    simp only [List.flatMap_singleton, Event.okTime, if_true]
    refine ⟨List.pairwise_append.mpr ⟨hp.spread, List.pairwise_singleton _ _, ?_⟩,
      fun t ht => ?_, fun h => absurd rfl h⟩
    · simpa using hbusy
    · rw [hnext]
      rcases List.mem_append.mp ht with ht | ht
      · have := hbusy t ht; omega
      · rw [List.mem_singleton.mp ht]
  | failed e ret hph hret =>
    refine keep rfl le_rfl (fun _ => by simp [hph]) ?_
    cases s.errorCallback <;> simp [hret]
  | retry e err _ _ | drop e err _ _ => exact keep rfl le_rfl (fun h => absurd rfl h) rfl
  | advance t hle => exact keep rfl hle id rfl
  | _ => exact keep rfl le_rfl id rfl

theorem paced_exec (installed : Bool) (as : List (Action α)) :
    0 ≤ ((init installed : Transport α).exec as).1.clock ∧
    (((init installed : Transport α).exec as).1.clock < clockLimit →
      Paced ((init installed : Transport α).exec as).1
        (okTimes ((init installed : Transport α).exec as).2)) := by
  have h := exec_trace_invariant
    (fun s tr => 0 ≤ s.clock ∧ (s.clock < clockLimit → Paced s (okTimes tr)))
    (fun hst ⟨h0, hp⟩ => ⟨h0.trans hst.clock_le, fun hlim => by
      simpa only [okTimes, List.flatMap_append] using
        hst.paced h0 hlim (hp (lt_of_le_of_lt hst.clock_le hlim))⟩)
    (init installed) [] ⟨le_rfl, fun _ => ⟨by simp [okTimes, Spread], by simp [okTimes],
      fun h => absurd rfl h⟩⟩ as
  simpa using h

/-- **Throughput bound.**  Along every run whose clock readings stay below
`2^63 - SEND_INTERVAL_US`, the readings at which `sendImpl` returned `ESP_OK` are each
at least `SEND_INTERVAL_US` after every earlier one.  So in every window of `T` µs there
are at most `⌈T / SEND_INTERVAL_US⌉` successful transmissions, whatever the producers,
the other outcomes of `sendImpl`, `stop` and `clearQueue` do. -/
theorem successes_paced (installed : Bool) (as : List (Action Packet))
    (hclock : ((init installed : Transport Packet).exec as).1.clock < clockLimit) :
    (okTimes ((init installed : Transport Packet).exec as).2).Pairwise
        (fun (t t' : Int) => t + SEND_INTERVAL_US ≤ t') ∧
    ∀ (a : Int) (T : Nat),
      (okTimes ((init installed : Transport Packet).exec as).2).countP
          (fun t => a ≤ t ∧ t < a + T) * SEND_INTERVAL_US < T + SEND_INTERVAL_US := by
  have hsp := ((paced_exec installed as).2 hclock).spread
  refine ⟨hsp, fun a T => ?_⟩
  have hI : SEND_INTERVAL_US = 20000 := rfl
  have hf : Spread ((okTimes ((init installed : Transport Packet).exec as).2).filter
      fun t => decide (a ≤ t ∧ t < a + T)) := hsp.sublist (List.filter_sublist _)
  have hw := length_mul_lt_of_spread hf a (a + T)
    (fun t ht => by simpa using (List.mem_filter.mp ht).2) (by rw [hI]; omega)
  rw [List.countP_eq_length_filter]
  rw [hI] at hw ⊢
  omega

set_option maxRecDepth 4000 in
/-- `successes_paced` on the two successes one interval apart of the rate-limit scenario:
a window of one interval holds one of them. -/
theorem successes_paced_twoSuccess :
    let run : List (Action Packet) :=
      [.start, .send { Packet.clear with size := 1 }, .push,
        .send { Packet.clear with id := 1, size := 1 }, .push, .tick, .complete ESP_OK,
        .advance SEND_INTERVAL_US, .tick, .complete ESP_OK]
    ((init true : Transport Packet).exec run).1.clock < clockLimit ∧
    (okTimes ((init true : Transport Packet).exec run).2).countP
        (fun (t : Int) => 0 ≤ t ∧ t < 0 + (SEND_INTERVAL_US : Nat)) * SEND_INTERVAL_US <
      SEND_INTERVAL_US + SEND_INTERVAL_US :=
  ⟨by decide, (successes_paced true _ (by decide)).2 0 SEND_INTERVAL_US⟩

/-! ### The limit holds the queue back for at most one interval -/

/-- `mNextSendTime` is never more than one interval ahead of the clock. -/
theorem nextSendTime_le_exec (installed : Bool) (as : List (Action α)) :
    0 ≤ ((init installed : Transport α).exec as).1.clock ∧
    (((init installed : Transport α).exec as).1.clock < clockLimit →
      (((init installed : Transport α).exec as).1.nextSendTime.toNat : Int) ≤
        ((init installed : Transport α).exec as).1.clock + SEND_INTERVAL_US) := by
  refine exec_invariant
    (fun s => 0 ≤ s.clock ∧ (s.clock < clockLimit →
      (s.nextSendTime.toNat : Int) ≤ s.clock + SEND_INTERVAL_US))
    (fun {s _ s' _} hst ⟨h0, hn⟩ => ⟨h0.trans hst.clock_le, fun hlim => ?_⟩)
    (init installed) ⟨le_rfl, fun _ => by simp [init, SEND_INTERVAL_US]⟩ as
  have hc := hst.clock_le
  rcases hst.nextSendTime_eq with heq | ⟨_, -, heq⟩
  · rw [heq]
    have := hn (lt_of_le_of_lt hc hlim)
    omega
  · rw [heq, toNat_ofInt_of_lt (by omega) (by simp only [clockLimit] at hlim; omega)]
    omega

end Transport

end Net
