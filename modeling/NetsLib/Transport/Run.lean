/-
NetsLib/Transport/Run.lean

Runs of the transport.  `Transition` says once, with its guards, everything a single
step can do (`step_spec`); every invariant of the engine is then proved by cases on
`Transition` and lifted to whole runs by `exec_invariant` or `exec_trace_invariant`,
without unfolding `step` again.
-/
import NetsLib.Transport.Basic

namespace Net

open scoped List

namespace Transport

variable {α : Type} [HasPacket α]

/-! ### What one step can do -/

/-- The inversion of `step`: each way a step can change the state, with the events it
emits.  `skip` covers the actions that change nothing (a tick held by the rate limit or
finding the queue empty, and every action whose context is elsewhere). -/
inductive Transition (s : Transport α) : Action α → Transport α → List (Event α) → Prop
  | skip (a : Action α) : Transition s a s []
  | sendReject (e : α) (hfree : s.pending = none)
      (hchk : (s.isInitialized && (HasPacket.packet e).isValid) = false) :
      Transition s (.send e) s [.sendReturned e ESP_ERR_INVALID_ARG]
  | sendCheck (e : α) (hfree : s.pending = none)
      (hchk : (s.isInitialized && (HasPacket.packet e).isValid) = true) :
      Transition s (.send e) { s with pending := some e } []
  | push (e : α) (hpend : s.pending = some e) :
      Transition s .push { s with sendQueue := (s.sendQueue.send e).2, pending := none }
        [.sendReturned e (if (s.sendQueue.send e).1 then ESP_OK else ESP_ERR_INVALID_STATE)]
  | bind (error : Bool) :
      Transition s (.bind error) { s with errorCallback := error } [.bound error]
  | start : Transition s .start { s with running := true } []
  | stop (hstop : s.stopping = false) :
      Transition s .stop { s with sendQueue := s.sendQueue.reset, stopping := true }
        [.drained s.sendQueue.items]
  | halt (hstop : s.stopping = true) (hidle : s.phase = .idle) :
      Transition s .halt { s with running := false, stopping := false } [.halted]
  | clearQueue (hfree : s.clearing = none) :
      Transition s .clearQueue { s with clearing := some 0 } []
  | clearPop (n : Nat) (e : α) (q : BufferedQueue α MAX_QUEUE_SIZE)
      (hclr : s.clearing = some n) (hq : s.sendQueue.receive = some (e, q)) :
      Transition s .clearStep { s with sendQueue := q, clearing := some (n + 1) } [.cleared e]
  | clearDone (n : Nat) (hclr : s.clearing = some n) (hq : s.sendQueue.receive = none) :
      Transition s .clearStep { s with clearing := none } [.clearReturned n]
  | advance (t : Int) (hle : s.clock ≤ t) : Transition s (.advance t) { s with clock := t } []
  | tick (e : α) (q : BufferedQueue α MAX_QUEUE_SIZE) (hrun : s.running = true)
      (hidle : s.phase = .idle) (hguard : ¬BitVec.ofInt 64 s.clock < s.nextSendTime)
      (hq : s.sendQueue.receive = some (e, q)) :
      Transition s .tick { s with sendQueue := q, phase := .inSendImpl e } [.attempt e s.clock]
  | sent (e : α) (hph : s.phase = .inSendImpl e) :
      Transition s (.complete ESP_OK)
        { s with nextSendTime := BitVec.ofInt 64 (s.clock + SEND_INTERVAL_US), phase := .idle }
        [.returned e ESP_OK s.clock]
  | failed (e : α) (ret : Int) (hph : s.phase = .inSendImpl e) (hret : ret ≠ ESP_OK) :
      Transition s (.complete ret) { s with phase := .handling e ret }
        (.returned e ret s.clock :: if s.errorCallback then [.report e ret] else [])
  | retry (e : α) (err : Int) (hph : s.phase = .handling e err) (htmp : isTemporary err = true) :
      Transition s .resume { s with sendQueue := (s.sendQueue.send e).2, phase := .idle }
        [.requeued e (s.sendQueue.send e).1]
  | drop (e : α) (err : Int) (hph : s.phase = .handling e err)
      (htmp : isTemporary err = false) :
      Transition s .resume { s with phase := .idle } [.dropped e err]

/-- Every step is one of the `Transition`s. -/
theorem step_spec (s : Transport α) (a : Action α) :
    Transition s a (s.step a).1 (s.step a).2 := by
  cases a with
  | send e =>
    cases hp : s.pending with
    | some _ => simpa [step, hp] using Transition.skip _
    | none =>
      cases hc : (s.isInitialized && (HasPacket.packet e).isValid)
      · simpa [step, hp, send, hc] using Transition.sendReject e hp hc
      · simpa [step, hp, send, hc] using Transition.sendCheck e hp hc
  | push =>
    cases hp : s.pending with
    | none => simpa [step, hp] using Transition.skip _
    | some e => simpa [step, hp, push] using Transition.push e hp
  | bind error => exact .bind error
  | start => exact .start
  | stop =>
    cases hs : s.stopping
    · simpa [step, hs, stop] using Transition.stop hs
    · simpa [step, hs] using Transition.skip _
  | halt =>
    by_cases h : s.stopping = true ∧ s.phase = .idle
    · simpa [step, h, Phase.isIdle, halt] using Transition.halt h.1 h.2
    · have : (s.stopping && s.phase.isIdle) = false := Bool.eq_false_iff.mpr (by simpa using h)
      simpa [step, this] using Transition.skip _
  | clearQueue =>
    cases hc : s.clearing with
    | none => simpa [step, hc] using Transition.clearQueue hc
    | some _ => simpa [step, hc] using Transition.skip _
  | clearStep =>
    cases hc : s.clearing with
    | none => simpa [step, hc] using Transition.skip _
    | some n =>
      cases hq : s.sendQueue.receive with
      | none => simpa [step, hc, clearStep, hq] using Transition.clearDone n hc hq
      | some r => simpa [step, hc, clearStep, hq] using Transition.clearPop n r.1 r.2 hc hq
  | advance t =>
    by_cases h : s.clock ≤ t
    · simpa [step, h] using Transition.advance t h
    · simpa [step, h] using Transition.skip _
  | tick =>
    by_cases h : s.running = true ∧ s.phase = .idle
    · by_cases hg : BitVec.ofInt 64 s.clock < s.nextSendTime
      · simpa [step, h, Phase.isIdle, processSendQueue, hg] using Transition.skip _
      · cases hq : s.sendQueue.receive with
        | none => simpa [step, h, Phase.isIdle, processSendQueue, hg, hq] using Transition.skip _
        | some r =>
          simpa [step, h, Phase.isIdle, processSendQueue, hg, hq] using
            Transition.tick r.1 r.2 h.1 h.2 hg hq
    · have : (s.running && s.phase.isIdle) = false := Bool.eq_false_iff.mpr (by simpa using h)
      simpa [step, this] using Transition.skip _
  | complete ret =>
    cases hph : s.phase with
    | idle => simpa [step, hph] using Transition.skip _
    | handling _ _ => simpa [step, hph] using Transition.skip _
    | inSendImpl e =>
      by_cases hr : ret = ESP_OK
      · subst hr
        simpa [step, hph, sendImplReturned] using Transition.sent e hph
      · simpa [step, hph, sendImplReturned, hr] using Transition.failed e ret hph hr
  | resume =>
    cases hph : s.phase with
    | idle => simpa [step, hph] using Transition.skip _
    | inSendImpl _ => simpa [step, hph] using Transition.skip _
    | handling e err =>
      cases ht : isTemporary err
      · simpa [step, hph, retryOrDrop, ht] using Transition.drop e err hph ht
      · simpa [step, hph, retryOrDrop, ht] using Transition.retry e err hph ht

/-! ### Unfolding runs -/

@[simp] theorem exec_nil (s : Transport α) : s.exec [] = (s, []) := rfl

@[simp] theorem exec_cons (s : Transport α) (a : Action α) (as : List (Action α)) :
    s.exec (a :: as) = (((s.step a).1.exec as).1, (s.step a).2 ++ ((s.step a).1.exec as).2) :=
  rfl

@[simp] theorem exec_singleton (s : Transport α) (a : Action α) : s.exec [a] = s.step a := by
  simp

theorem exec_append (s : Transport α) (as bs : List (Action α)) :
    s.exec (as ++ bs) =
      (((s.exec as).1.exec bs).1, (s.exec as).2 ++ ((s.exec as).1.exec bs).2) := by
  induction as generalizing s with
  | nil => simp
  | cons a as ih => simp [ih]

/-! ### Induction principles -/

/-- A property of states kept by every transition holds after every run. -/
theorem exec_invariant (P : Transport α → Prop)
    (hstep : ∀ {s a s' evs}, Transition s a s' evs → P s → P s')
    (s : Transport α) (hs : P s) (as : List (Action α)) : P (s.exec as).1 := by
  induction as generalizing s with
  | nil => exact hs
  | cons a as ih => exact ih _ (hstep (step_spec s a) hs)

/-- A property of a state and the events so far, kept by every transition of an action
satisfying `Q`, holds after every run of such actions. -/
theorem exec_trace_invariant_on (Q : Action α → Prop)
    (P : Transport α → List (Event α) → Prop)
    (hstep : ∀ {s a s' evs tr}, Q a → Transition s a s' evs → P s tr → P s' (tr ++ evs))
    (s : Transport α) (tr : List (Event α)) (hs : P s tr) (as : List (Action α))
    (has : ∀ a ∈ as, Q a) : P (s.exec as).1 (tr ++ (s.exec as).2) := by
  induction as generalizing s tr with
  | nil => simpa using hs
  | cons a as ih =>
    simpa using ih _ _ (hstep (has a (List.mem_cons_self a as)) (step_spec s a) hs)
      (fun b hb => has b (List.mem_cons_of_mem a hb))

/-- A property of a state and the events so far, kept by every transition, holds after
every run. -/
theorem exec_trace_invariant (P : Transport α → List (Event α) → Prop)
    (hstep : ∀ {s a s' evs tr}, Transition s a s' evs → P s tr → P s' (tr ++ evs))
    (s : Transport α) (tr : List (Event α)) (hs : P s tr) (as : List (Action α)) :
    P (s.exec as).1 (tr ++ (s.exec as).2) :=
  exec_trace_invariant_on (fun _ => True) P (fun _ => hstep) s tr hs as (fun _ _ => trivial)

/-! ### Events in order -/

/-- Two events in order in `l ++ r`: both in `l`, one on each side, or both in `r`. -/
theorem pair_sublist_append {β : Type} {x y : β} {l r : List β} (h : [x, y] <+ l ++ r) :
    [x, y] <+ l ∨ (x ∈ l ∧ y ∈ r) ∨ [x, y] <+ r := by
  obtain ⟨l₁, l₂, hxy, h₁, h₂⟩ := List.sublist_append_iff.mp h
  match l₁, l₂, hxy with
  | [], _, rfl => exact .inr (.inr h₂)
  | [_], [_], rfl =>
    exact .inr (.inl ⟨List.singleton_sublist.mp h₁, List.singleton_sublist.mp h₂⟩)
  | [_, _], [], rfl => exact .inl h₁

/-! ### The clock -/

/-- `esp_timer_get_time()` never goes back. -/
theorem Transition.clock_le {s s' : Transport α} {a : Action α} {evs : List (Event α)}
    (h : Transition s a s' evs) : s.clock ≤ s'.clock := by
  cases h <;> first | exact le_refl _ | assumption

end Transport

end Net
