/-
NetsLib/Transport/ErrorCallback.lean

When the error callback runs.  `handleSendError` begins with
`if (mErrorCallback) mErrorCallback(packet, err)`, before it looks at `isTemporary(err)`:
the callback hears of every failed `sendImpl` call, transient failures included, and a
packet that fails transiently and is sent on the retry has been reported once.

Design.  Whether a callback is bound at a point of a run is read off the trace, from the
last `bound` event (`boundAfter`).  `boundFailures` lists the failed calls made while one
was bound; `reports` lists the calls of the callback.  The step lemma says one transition
adds the same to both lists.

Main results: `transient_failure_reported` (a run where a transient failure, later
retried successfully, is reported) and `reports_eq_boundFailures` (the callback runs
exactly once per failed call made while it is bound, with that packet and that error,
and never otherwise).
-/
import NetsLib.Transport.Run

namespace Net

namespace Transport

variable {α : Type}

/-- Whether an error callback is bound after the events `tr`, starting from `b`. -/
def boundAfter (b : Bool) : List (Event α) → Bool
  | [] => b
  | .bound b' :: tr => boundAfter b' tr
  | _ :: tr => boundAfter b tr

/-- The calls of the error callback in `tr`, with their arguments. -/
def reports : List (Event α) → List (α × Int)
  | [] => []
  | .report e ret :: tr => (e, ret) :: reports tr
  | _ :: tr => reports tr

/-- The `sendImpl` calls in `tr` that returned an error while an error callback was bound
(starting from `b`), with their packets and errors. -/
def boundFailures (b : Bool) : List (Event α) → List (α × Int)
  | [] => []
  | .bound b' :: tr => boundFailures b' tr
  | .returned e ret _ :: tr =>
    (if b && ret != ESP_OK then [(e, ret)] else []) ++ boundFailures b tr
  | _ :: tr => boundFailures b tr

/-! ### Splitting traces -/

theorem boundAfter_append (b : Bool) (l r : List (Event α)) :
    boundAfter b (l ++ r) = boundAfter (boundAfter b l) r := by
  induction l generalizing b with
  | nil => rfl
  | cons x l ih => cases x <;> simp [boundAfter, ih]

theorem reports_append (l r : List (Event α)) : reports (l ++ r) = reports l ++ reports r := by
  induction l with
  | nil => rfl
  | cons x l ih => cases x <;> simp [reports, ih]

theorem boundFailures_append (b : Bool) (l r : List (Event α)) :
    boundFailures b (l ++ r) = boundFailures b l ++ boundFailures (boundAfter b l) r := by
  induction l generalizing b with
  | nil => rfl
  | cons x l ih => cases x <;> simp [boundFailures, boundAfter, ih]

/-! ### One step -/

variable [HasPacket α]

/-- A transition calls the error callback exactly for the failed call it returns from,
when one is bound, and it moves the binding only by `bind`. -/
theorem Transition.reports_eq {s s' : Transport α} {a : Action α} {evs : List (Event α)}
    (h : Transition s a s' evs) :
    reports evs = boundFailures s.errorCallback evs ∧
    boundAfter s.errorCallback evs = s'.errorCallback := by
  cases h with
  | sent e _ => simp [reports, boundFailures, boundAfter]
  | failed e ret _ hret =>
    cases hcb : s.errorCallback <;> simp [reports, boundFailures, boundAfter, hcb, hret]
  | push e _ => split <;> simp [reports, boundFailures, boundAfter]
  | _ => simp [reports, boundFailures, boundAfter]

/-! ### Whole runs -/

/-- **The error callback reports every failed call, transient or fatal.**  In every run,
the calls of the error callback are exactly the `sendImpl` calls that returned an error
while a callback was bound, one call each, in order, with that packet and that error; a
call that returned `ESP_OK` is never reported. -/
theorem reports_eq_boundFailures (installed : Bool) (as : List (Action Packet)) :
    reports ((init installed : Transport Packet).exec as).2 =
      boundFailures false ((init installed : Transport Packet).exec as).2 := by
  have h := exec_trace_invariant
    (fun s tr => reports tr = boundFailures false tr ∧ boundAfter false tr = s.errorCallback)
    (fun hst ⟨hr, hb⟩ => by
      obtain ⟨hr', hb'⟩ := hst.reports_eq
      refine ⟨?_, ?_⟩
      · rw [reports_append, boundFailures_append, hr, hb, hr']
      · rw [boundAfter_append, hb, hb'])
    (init installed) [] ⟨rfl, rfl⟩ as
  simpa using h.1

set_option maxRecDepth 4000 in
/-- A packet fails with the transient `ESP_ERR_TIMEOUT`, is re-enqueued and is then sent:
the error callback was called with it and the transient error. -/
theorem transient_failure_reported :
    let p : Packet := { Packet.clear with size := 1 }
    let run : List (Action Packet) :=
      [.bind true, .start, .send p, .push, .tick, .complete ESP_ERR_TIMEOUT, .resume,
        .tick, .complete ESP_OK]
    isTemporary ESP_ERR_TIMEOUT = true ∧
    Event.report p ESP_ERR_TIMEOUT ∈ ((init true : Transport Packet).exec run).2 ∧
    Event.returned p ESP_OK 0 ∈ ((init true : Transport Packet).exec run).2 := by
  decide

end Transport

end Net
