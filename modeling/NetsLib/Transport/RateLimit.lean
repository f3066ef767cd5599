/-
NetsLib/Transport/RateLimit.lean

The rate limit of the dispatch loop.  `processSendQueue` returns at once while
`mNextSendTime > esp_timer_get_time()`, a `uint64_t` compared with an `int64_t` reading
converted to `uint64_t`, and a successful `sendImpl` sets
`mNextSendTime = esp_timer_get_time() + SEND_INTERVAL_US`.  No other statement writes
`mNextSendTime`.

Design.  The conversions are modelled as the C++ performs them (`BitVec.ofInt 64`).  For
readings in `[0, 2^63 - SEND_INTERVAL_US)` they are exact, and the invariant
`SpacedSoFar` then says: every success so far lies at least one interval before
`mNextSendTime`, and before the current reading.  Since the clock never goes back, a bound
on the last reading bounds them all.

Main result: `sendImpl_calls_spaced`.
-/
import NetsLib.Transport.Run

namespace Net

open scoped List

/-- The reading at which an event reports a successful `sendImpl`. -/
@[simp] def Event.okTime {α : Type} : Event α → List Int
  | .returned _ ret t => if ret = ESP_OK then [t] else []
  | _ => []

namespace Transport

variable {α : Type}

/-- The readings at which `sendImpl` returned `ESP_OK` along `tr`, oldest first. -/
def okTimes (tr : List (Event α)) : List Int := tr.flatMap Event.okTime

/-- The largest reading for which `now + SEND_INTERVAL_US` neither overflows `int64_t` nor
leaves the range where the `uint64_t` conversion is the identity. -/
def clockLimit : Int := 2 ^ 63 - SEND_INTERVAL_US

/-- Every call of `sendImpl` in `tr` starts at least `SEND_INTERVAL_US` after the reading
of every earlier successful return. -/
def Spaced (tr : List (Event α)) : Prop :=
  ∀ e e' t g, [Event.returned e ESP_OK t, Event.attempt e' g] <+ tr → t + SEND_INTERVAL_US ≤ g

/-- Appending events with no call of `sendImpl` keeps `Spaced`. -/
theorem Spaced.append {tr evs : List (Event α)} (h : Spaced tr)
    (hno : ∀ e g, Event.attempt e g ∉ evs) : Spaced (tr ++ evs) := by
  intro e e' t g hs
  rcases pair_sublist_append hs with hs | ⟨-, hy⟩ | hs
  · exact h e e' t g hs
  · exact absurd hy (hno e' g)
  · exact absurd (hs.subset (by simp)) (hno e' g)

variable [HasPacket α]

/-- The invariant behind `Spaced`, for a state whose clock is in range. -/
def SpacedSoFar (s : Transport α) (tr : List (Event α)) : Prop :=
  (∀ e t, Event.returned e ESP_OK t ∈ tr →
    t + SEND_INTERVAL_US ≤ s.nextSendTime.toNat ∧ t ≤ s.clock) ∧ Spaced tr

theorem toNat_ofInt_of_lt {t : Int} (h0 : 0 ≤ t) (h : t < 2 ^ 63) :
    ((BitVec.ofInt 64 t).toNat : Int) = t := by
  rw [BitVec.toNat_ofInt]
  omega

/-! ### One step -/

theorem Transition.spacedSoFar {s s' : Transport α} {a : Action α} {evs : List (Event α)}
    {tr : List (Event α)} (h : Transition s a s' evs) (h0 : 0 ≤ s.clock)
    (hlim : s'.clock < clockLimit) (hsp : SpacedSoFar s tr) : SpacedSoFar s' (tr ++ evs) := by
  obtain ⟨hnext, hspaced⟩ := hsp
  have keep : ∀ {s'' : Transport α}, s''.nextSendTime = s.nextSendTime →
      s.clock ≤ s''.clock → (∀ e t, Event.returned e ESP_OK t ∉ evs) →
      (∀ e g, Event.attempt e g ∉ evs) → SpacedSoFar s'' (tr ++ evs) := fun hn hc hok hno =>
    ⟨fun e t he => by
      rcases List.mem_append.mp he with he | he
      · exact ⟨hn ▸ (hnext e t he).1, (hnext e t he).2.trans hc⟩
      · exact absurd he (hok e t),
     hspaced.append hno⟩
  have hI : (SEND_INTERVAL_US : Int) = 20000 := rfl
  cases h with
  | sent e _ =>
    dsimp only at hlim
    have hlim' : s.clock + SEND_INTERVAL_US < 2 ^ 63 := by
      simp only [clockLimit] at hlim; omega
    refine ⟨fun e' t he => ?_, hspaced.append (by simp)⟩
    dsimp only
    rw [toNat_ofInt_of_lt (by omega) hlim']
    rcases List.mem_append.mp he with he | he
    · exact ⟨by have := (hnext e' t he).2; omega, (hnext e' t he).2⟩
    · simp only [List.mem_singleton, Event.returned.injEq] at he
      exact ⟨by omega, by omega⟩
  | tick e q _ _ hguard _ =>
    refine ⟨by simpa using hnext, fun x y t g hs => ?_⟩
    rcases pair_sublist_append hs with hs | ⟨hx, hy⟩ | hs
    · exact hspaced x y t g hs
    · simp only [List.mem_singleton, Event.attempt.injEq] at hy
      rw [hy.2]
      have hg : (s.nextSendTime.toNat : Int) ≤ s.clock := by
        have := toNat_ofInt_of_lt h0 (by simp only [clockLimit] at hlim; omega)

        simp only [BitVec.lt_def, not_lt] at hguard
        omega
      exact (hnext x t hx).1.trans hg
    · simp at hs
  | advance t' hle => exact keep rfl hle (by simp) (by simp)
  | failed e ret _ hret =>
    refine keep rfl le_rfl ?_ ?_ <;> intros <;> split <;> simp [hret.symm]
  | _ => exact keep rfl le_rfl (by simp) (by simp)

/-- Only a successful return of `sendImpl` writes `mNextSendTime`, and it writes the
reading plus one interval; failed attempts leave it alone. -/
theorem Transition.nextSendTime_eq {s s' : Transport α} {a : Action α} {evs : List (Event α)}
    (h : Transition s a s' evs) : s'.nextSendTime = s.nextSendTime ∨
      ∃ e, evs = [.returned e ESP_OK s.clock] ∧
        s'.nextSendTime = BitVec.ofInt 64 (s.clock + SEND_INTERVAL_US) := by
  cases h with
  | sent e _ => exact .inr ⟨e, rfl, rfl⟩
  | _ => exact .inl rfl

/-! ### Whole runs -/

theorem spacedSoFar_exec (installed : Bool) (as : List (Action α)) :
    0 ≤ ((init installed : Transport α).exec as).1.clock ∧
    (((init installed : Transport α).exec as).1.clock < clockLimit →
      SpacedSoFar ((init installed : Transport α).exec as).1
        ((init installed : Transport α).exec as).2) := by
  have h := exec_trace_invariant
    (fun s tr => 0 ≤ s.clock ∧ (s.clock < clockLimit → SpacedSoFar s tr))
    (fun hst ⟨h0, hsp⟩ => ⟨h0.trans hst.clock_le, fun hlim =>
      hst.spacedSoFar h0 hlim (hsp (lt_of_le_of_lt hst.clock_le hlim))⟩)
    (init installed) []
    ⟨le_rfl, fun _ => ⟨by simp, by simp [Spaced]⟩⟩ as
  simpa using h

/-- **Rate limiting.**  Along every run whose clock readings stay below
`2^63 - SEND_INTERVAL_US` (the clock starts at 0 and never goes back), every call of
`sendImpl` starts at a reading at least `SEND_INTERVAL_US` after the reading taken when
each earlier successful call returned — in particular the most recent one.  And only a
successful call moves `mNextSendTime`. -/
theorem sendImpl_calls_spaced (installed : Bool) (as : List (Action Packet))
    (hclock : ((init installed : Transport Packet).exec as).1.clock < clockLimit) :
    Spaced ((init installed : Transport Packet).exec as).2 ∧
    ∀ (s : Transport Packet) (a : Action Packet),
      (s.step a).1.nextSendTime = s.nextSendTime ∨
      ∃ e, (s.step a).2 = [.returned e ESP_OK s.clock] ∧
        (s.step a).1.nextSendTime = BitVec.ofInt 64 (s.clock + SEND_INTERVAL_US) :=
  ⟨((spacedSoFar_exec installed as).2 hclock).2, fun s a => (step_spec s a).nextSendTime_eq⟩

set_option maxRecDepth 4000 in
/-- The spec's scenario: two valid packets, an adapter that always succeeds, and the clock
moved one interval on between the two ticks.  Both are sent, at readings 0 and 20000. -/
theorem sendImpl_calls_spaced_twoSuccess :
    let run : List (Action Packet) :=
      [.start, .send { Packet.clear with size := 1 }, .push,
        .send { Packet.clear with id := 1, size := 1 }, .push, .tick, .complete ESP_OK,
        .advance SEND_INTERVAL_US, .tick, .complete ESP_OK]
    ((init true : Transport Packet).exec run).1.clock < clockLimit ∧
    okTimes ((init true : Transport Packet).exec run).2 = [0, 20000] ∧
    Spaced ((init true : Transport Packet).exec run).2 :=
  ⟨by decide, by decide, (sendImpl_calls_spaced true _ (by decide)).1⟩

end Transport

end Net
