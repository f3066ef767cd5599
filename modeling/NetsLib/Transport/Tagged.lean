/-
NetsLib/Transport/Tagged.lean

Which `send` call a packet came from.  The engine's results so far are about packet
values, and two `send` calls with equal packets cannot be told apart in them.  Here every
call carries a ticket: the engine runs unchanged on ticketed packets, and forgetting the
tickets gives back the code's run.  Over ticketed runs the accounting identity says that
each accepted call ends in at most one place: no call's packet is transmitted twice, and
none is both transmitted and dropped, discarded or lost.

Design.  `Transport.map`, `Action.map` and `Event.map` rename the entries.  The engine
reads only the packet of an entry, so it commutes with every renaming that keeps the
packet (`step_map`, one lemma per operation).  `tagSends` numbers the `send` calls of a
run; forgetting the numbers gives the run back.

Main result: `send_calls_settle_once`.
-/
import NetsLib.Transport.Accounting

namespace Net

open scoped List

variable {α β : Type}

/-! ### Renaming entries -/

/-- `p` with every entry renamed by `f`. -/
@[simp] def Phase.map (f : α → β) : Phase α → Phase β
  | .idle => .idle
  | .inSendImpl e => .inSendImpl (f e)
  | .handling e err => .handling (f e) err

/-- `a` with its entry renamed by `f`. -/
@[simp] def Action.map (f : α → β) : Action α → Action β
  | .send e => .send (f e)
  | .push => .push
  | .bind error => .bind error
  | .start => .start
  | .stop => .stop
  | .halt => .halt
  | .clearQueue => .clearQueue
  | .clearStep => .clearStep
  | .advance t => .advance t
  | .tick => .tick
  | .complete ret => .complete ret
  | .resume => .resume

/-- `ev` with its entries renamed by `f`. -/
@[simp] def Event.map (f : α → β) : Event α → Event β
  | .bound error => .bound error
  | .sendReturned e ret => .sendReturned (f e) ret
  | .attempt e t => .attempt (f e) t
  | .returned e ret t => .returned (f e) ret t
  | .report e ret => .report (f e) ret
  | .requeued e ok => .requeued (f e) ok
  | .dropped e ret => .dropped (f e) ret
  | .drained es => .drained (es.map f)
  | .halted => .halted
  | .cleared e => .cleared (f e)
  | .clearReturned n => .clearReturned n

/-- `s` with every entry renamed by `f`. -/
@[simps] def Transport.map (f : α → β) (s : Transport α) : Transport β where
  sendQueue := s.sendQueue.map f
  nextSendTime := s.nextSendTime
  initialized := s.initialized
  running := s.running
  errorCallback := s.errorCallback
  phase := s.phase.map f
  pending := s.pending.map f
  stopping := s.stopping
  clearing := s.clearing
  clock := s.clock

namespace Transport

section Map

variable (f : α → β)

theorem push_map (s : Transport α) (e : α) :
    (s.map f).push (f e) = ((s.push e).1.map f, (s.push e).2.map (Event.map f)) := by
  simp [push, Transport.map, BufferedQueue.map_send]

theorem processSendQueue_map (s : Transport α) :
    (s.map f).processSendQueue =
      (s.processSendQueue.1.map f, s.processSendQueue.2.map (Event.map f)) := by
  unfold processSendQueue
  cases h : s.sendQueue.receive with
  | none => simp [Transport.map, BufferedQueue.map_receive, h]
  | some r => simp [Transport.map, BufferedQueue.map_receive, h]; split <;> rfl

theorem sendImplReturned_map (s : Transport α) (e : α) (ret : Int) :
    (s.map f).sendImplReturned (f e) ret =
      ((s.sendImplReturned e ret).1.map f, (s.sendImplReturned e ret).2.map (Event.map f)) := by
  unfold sendImplReturned
  split
  · rfl
  · cases h : s.errorCallback <;> simp [h] <;> rfl

theorem retryOrDrop_map (s : Transport α) (e : α) (err : Int) :
    (s.map f).retryOrDrop (f e) err =
      ((s.retryOrDrop e err).1.map f, (s.retryOrDrop e err).2.map (Event.map f)) := by
  unfold retryOrDrop
  split <;> simp [Transport.map, BufferedQueue.map_send]

theorem clearStep_map (s : Transport α) (n : Nat) :
    (s.map f).clearStep n = ((s.clearStep n).1.map f, (s.clearStep n).2.map (Event.map f)) := by
  unfold clearStep
  cases h : s.sendQueue.receive <;> simp [Transport.map, BufferedQueue.map_receive, h]

/-- Renaming commutes with the `if` of a step whose branches it commutes with. -/
theorem map_ite {c : Prop} [Decidable c] {x y : Transport α × List (Event α)}
    {x' y' : Transport β × List (Event β)} (hx : x' = (x.1.map f, x.2.map (Event.map f)))
    (hy : y' = (y.1.map f, y.2.map (Event.map f))) :
    (if c then x' else y') =
      ((if c then x else y).1.map f, (if c then x else y).2.map (Event.map f)) := by
  split <;> assumption

variable [HasPacket α] [HasPacket β]

theorem send_map (hf : ∀ x, HasPacket.packet (f x) = HasPacket.packet x) (s : Transport α)
    (e : α) :
    (s.map f).send (f e) = ((s.send e).1.map f, (s.send e).2.map (Event.map f)) := by
  have hc : ((s.map f).isInitialized && (HasPacket.packet (f e)).isValid) =
      (s.isInitialized && (HasPacket.packet e).isValid) := by
    rw [hf]; rfl
  unfold send
  rw [hc]
  split <;> rfl

/-- **The engine reads only packets.**  One step on renamed entries is the renamed step. -/
theorem step_map (hf : ∀ x, HasPacket.packet (f x) = HasPacket.packet x) (s : Transport α)
    (a : Action α) :
    (s.map f).step (a.map f) = ((s.step a).1.map f, (s.step a).2.map (Event.map f)) := by
  have hi : (s.map f).phase.isIdle = s.phase.isIdle := by
    rw [map_phase]; cases s.phase <;> rfl
  cases a with
  | send e => cases hp : s.pending <;> simp [step, hp, send_map f hf]
  | push => cases hp : s.pending <;> simp [step, hp, push_map]
  | clearStep => cases hc : s.clearing <;> simp [step, hc, clearStep_map]
  | complete ret => cases hph : s.phase <;> simp [step, hph, sendImplReturned_map]
  | resume => cases hph : s.phase <;> simp [step, hph, retryOrDrop_map]
  | tick =>
    simp only [step, Action.map, map_running, hi]
    exact map_ite f (processSendQueue_map f s) rfl
  | stop => simp only [step, Action.map, map_stopping]; exact map_ite f rfl rfl
  | halt => simp only [step, Action.map, map_stopping, hi]; exact map_ite f rfl rfl
  | clearQueue => simp only [step, Action.map, map_clearing]; exact map_ite f rfl rfl
  | advance t => simp only [step, Action.map, map_clock]; exact map_ite f rfl rfl
  | bind _ | start => rfl

theorem exec_map (hf : ∀ x, HasPacket.packet (f x) = HasPacket.packet x) (s : Transport α)
    (as : List (Action α)) :
    (s.map f).exec (as.map (Action.map f)) =
      ((s.exec as).1.map f, (s.exec as).2.map (Event.map f)) := by
  induction as generalizing s with
  | nil => rfl
  | cons a as ih => rw [List.map_cons, exec_cons, exec_cons, step_map f hf, ih, List.map_append]

end Map

end Transport

/-! ### Accepted calls -/

/-- The entry a `send` call brings. -/
@[simp] def Action.sent : Action α → List α
  | .send e => [e]
  | _ => []

namespace Transport

variable [HasPacket α]

/-- One transition accepts only the entry of the `send` holding the mutex, which came from
a `send` call. -/
theorem Transition.accepted_sublist {s s' : Transport α} {a : Action α} {evs : List (Event α)}
    (h : Transition s a s' evs) :
    evs.flatMap Event.accepted ++ s'.pending.toList <+ s.pending.toList ++ a.sent := by
  cases h with
  | skip a => exact List.sublist_append_left _ _
  | sendReject e hfree _ => simp [hfree, ESP_OK, ESP_ERR_INVALID_ARG]
  | sendCheck e hfree _ => simp [hfree]
  | push e hpend =>
    cases (s.sendQueue.send e).1 <;> simp [hpend, ESP_OK, ESP_ERR_INVALID_STATE]
  | failed e ret _ _ => cases s.errorCallback <;> simp
  | _ => simp

/-- Along every run, the entries accepted, followed by the one a `send` holds, are a
subsequence of the entries the `send` calls brought. -/
theorem accepted_sublist_sent (s : Transport α) (as : List (Action α)) :
    (s.exec as).2.flatMap Event.accepted ++ (s.exec as).1.pending.toList <+
      s.pending.toList ++ as.flatMap Action.sent := by
  induction as generalizing s with
  | nil => simp
  | cons a as ih =>
    simp only [exec_cons, List.flatMap_append, List.flatMap_cons, List.append_assoc]
    have hstep := (step_spec s a).accepted_sublist.append_right (as.flatMap Action.sent)
    simp only [List.append_assoc] at hstep
    exact ((ih _).append_left _).trans hstep

end Transport

/-! ### Ticketed runs -/

/-- A packet and the number of the `send` call that brought it. -/
structure Ticketed where
  packet : Packet
  ticket : Nat
deriving DecidableEq

instance : HasPacket Ticketed := ⟨Ticketed.packet⟩

/-- The run `as` with its `send` calls numbered from `n` on. -/
def tagSends (n : Nat) : List (Action Packet) → List (Action Ticketed)
  | [] => []
  | .send p :: as => .send ⟨p, n⟩ :: tagSends (n + 1) as
  | a :: as => a.map (fun p => ⟨p, n⟩) :: tagSends n as

/-- Forgetting the numbers gives the run back. -/
theorem tagSends_untag (n : Nat) (as : List (Action Packet)) :
    (tagSends n as).map (Action.map Ticketed.packet) = as := by
  induction as generalizing n with
  | nil => rfl
  | cons a as ih => cases a <;> simp [tagSends, ih]

/-- The `send` calls of `tagSends n as` carry increasing numbers from `n` on. -/
theorem tagSends_sent (n : Nat) (as : List (Action Packet)) :
    (∀ x ∈ (tagSends n as).flatMap Action.sent, n ≤ x.ticket) ∧
    ((tagSends n as).flatMap Action.sent).Pairwise (fun x y => x.ticket < y.ticket) := by
  induction as generalizing n with
  | nil => simp [tagSends]
  | cons a as ih =>
    cases a with
    | send p =>
      obtain ⟨hge, hpw⟩ := ih (n + 1)
      simp only [tagSends, List.flatMap_cons, Action.sent, List.singleton_append,
        List.pairwise_cons, List.mem_cons]
      exact ⟨fun x hx => hx.elim (fun h => h ▸ le_rfl) fun h => by have := hge x h; omega,
        fun y hy => by have := hge y hy; omega, hpw⟩
    | _ =>
      simp only [tagSends, Action.map, List.flatMap_cons, Action.sent, List.nil_append]
      exact ih n

namespace Transport

/-- **Each `send` call settles once.**  Number the `send` calls of any run of the code.
The ticketed engine, run on the numbered calls, gives back the code's run once the
numbers are forgotten.  In it the places of the accepted calls (the queue, the worker's
tick, transmitted, dropped, discarded, lost) hold each call at most once: no call's packet
is transmitted twice, and none both transmitted and dropped, discarded or lost. -/
theorem send_calls_settle_once (installed : Bool) (as : List (Action Packet)) :
    (init installed : Transport Packet).exec as =
      (((init installed : Transport Ticketed).exec (tagSends 0 as)).1.map Ticketed.packet,
        ((init installed : Transport Ticketed).exec (tagSends 0 as)).2.map
          (Event.map Ticketed.packet)) ∧
    (successes ((init installed : Transport Ticketed).exec (tagSends 0 as)).2).Nodup ∧
    (places ((init installed : Transport Ticketed).exec (tagSends 0 as)).1
      ((init installed : Transport Ticketed).exec (tagSends 0 as)).2).Nodup := by
  have hrun := exec_map Ticketed.packet (fun _ => rfl) (init installed) (tagSends 0 as)
  rw [tagSends_untag] at hrun
  have hsent : ((tagSends 0 as).flatMap Action.sent).Nodup :=
    (tagSends_sent 0 as).2.imp fun hlt heq => by rw [heq] at hlt; exact lt_irrefl _ hlt
  have haccepted := hsent.sublist ((List.sublist_append_left _ _).trans
    (accepted_sublist_sent (init installed : Transport Ticketed) (tagSends 0 as)))
  have hplaces := (List.perm_iff_count.mpr
    (count_accepted_exec installed (tagSends 0 as))).nodup_iff.mp haccepted
  refine ⟨hrun, hplaces.sublist ?_, hplaces⟩
  -- the successes are a segment of the places
  simp only [places, settled, List.append_assoc]
  exact ((List.sublist_append_left _ _).trans (List.sublist_append_right _ _)).trans
    (List.sublist_append_right _ _)

end Transport

end Net
