/-
NetsLib/Adapter/Lifecycle.lean

The channel driver's life in a serial adapter.  The constructors (`Uart::Uart`,
`UsbJtag::UsbJtag`) call `setInitialized(true)` exactly when the driver's install call
succeeded.  The destructors (`Uart::~Uart`, `UsbJtag::~UsbJtag`) uninstall the driver
only `if (isInitialized())`, and `Transport::isInitialized` also asks for a worker thread
that is not `NOT_RUNNING`.  The thread is stopped only afterwards, by `~Transport`.

Design.  A channel is the engine of `Transport/Basic.lean` together with where its
destruction is.  Its operations are every engine action, the worker's receive poll, and
the three steps of destruction: the adapter destructor's test and uninstall call
(`destroy`), its return (`destroyed`: the object is a `Transport` from then on), and
`~Transport`'s `mThread.stop()` (`finish`).  While the adapter's destructor runs, the
worker keeps ticking.  Driver calls are emitted as `DriverCall`s: the constructor's, the
destructor's, the write of a `sendImpl` call with a non-empty span, and the calls of a
receive poll (for `Uart`, `available()`'s query and then the read; for `UsbJtag`, the read),
which `Uart::write`, `Uart::read` and `Uart::available` (and their `UsbJtag` twins) make only
when `isInitialized()` holds.  The two destructors are the same test and call, so one
operation models both; the channel records which adapter it is for the receive poll.

Main results: `uninstall_count` (the driver is uninstalled once exactly when the
constructor installed it and the worker was running when destruction began, and never
otherwise), `driver_untouched` (no driver call at all without an installed driver, with a
stopped worker until `start()`, or after the adapter's destructor returned) and
`destructor_mishandles_driver` (a never-started adapter keeps its driver; a running one is
read from after the uninstall).
-/
import NetsLib.Transport.Run

namespace Net

open scoped List

/-- A call into the channel driver, with the result where the code reads it. -/
inductive DriverCall
  /-- `uart_param_config`. -/
  | paramConfig (ret : Int)
  /-- `uart_set_pin`. -/
  | setPin (ret : Int)
  /-- `uart_driver_install`, `usb_serial_jtag_driver_install`. -/
  | install (ret : Int)
  /-- `uart_driver_delete`, `usb_serial_jtag_driver_uninstall`. -/
  | uninstall
  /-- `uart_get_buffered_data_len`, in `Uart::available`. -/
  | bufferedDataLen
  /-- `uart_read_bytes`, `usb_serial_jtag_read_bytes`. -/
  | read
  /-- `uart_write_bytes`, `usb_serial_jtag_write_bytes`. -/
  | write
deriving DecidableEq

/-- The two serial adapters. -/
inductive Adapter
  | uart
  | usbJtag
deriving DecidableEq

/-- The driver calls of a receive poll that reaches the driver, with `data` telling whether
the driver holds received data: `Uart::available` asks `uart_get_buffered_data_len`, and
`Uart::read` follows only when it reported data; `UsbJtag::read` calls
`usb_serial_jtag_read_bytes` at once. -/
def Adapter.pollCalls : Adapter → Bool → List DriverCall
  | .uart, data => .bufferedDataLen :: if data then [.read] else []
  | .usbJtag, _ => [.read]

/-- What an adapter's constructor leaves: which adapter it is, whether it called
`setInitialized(true)`, and the driver calls it made.  The flag is set exactly when the
driver was installed, and no constructor uninstalls. -/
structure Construction where
  adapter : Adapter
  installed : Bool
  calls : List DriverCall
  installed_iff : installed = true ↔ DriverCall.install ESP_OK ∈ calls
  no_uninstall : DriverCall.uninstall ∉ calls

/-- `Uart::Uart`: `uart_param_config`, then `uart_set_pin` when both pins are given, then
`uart_driver_install`, returning at the first call that fails; `setInitialized(true)`
once all succeeded. -/
def Uart.construct (configRet : Int) (pins : Bool) (pinRet installRet : Int) :
    Construction :=
  if configRet ≠ ESP_OK then ⟨.uart, false, [.paramConfig configRet], by simp, by simp⟩
  else if pins ∧ pinRet ≠ ESP_OK then
    ⟨.uart, false, [.paramConfig configRet, .setPin pinRet], by simp, by simp⟩
  else
    ⟨.uart, installRet == ESP_OK,
      .paramConfig configRet :: (if pins then [.setPin pinRet] else []) ++ [.install installRet],
      by split <;> simp <;> exact eq_comm, by split <;> simp⟩

/-- `UsbJtag::UsbJtag`: `usb_serial_jtag_driver_install`, then `setInitialized(true)` if
it succeeded. -/
def UsbJtag.construct (installRet : Int) : Construction :=
  ⟨.usbJtag, installRet == ESP_OK, [.install installRet], by simp; exact eq_comm, by simp⟩

/-- Where destruction is. -/
inductive Stage
  /-- Not being destroyed. -/
  | alive
  /-- In `~Uart` / `~UsbJtag`, past its test and uninstall call. -/
  | adapterDtor
  /-- `~Uart` / `~UsbJtag` returned: the object is a `Transport`, whose destructor has
  not yet stopped the thread. -/
  | transportDtor
  /-- `~Transport` stopped the thread. -/
  | gone
deriving DecidableEq

/-- Whether the object is still the adapter: its destructor has not returned. -/
def Stage.isAdapter : Stage → Bool
  | .alive | .adapterDtor => true
  | _ => false

/-- Whether an engine event is a call of `sendImpl` that reaches the driver's write:
`sendImpl` hands `std::span(packet.buffer.data(), packet.size)` to `write`, which calls the
driver only for a non-empty span. -/
def Event.writesDriver : Event Packet → Bool
  | .attempt p _ => p.size != 0
  | _ => false

/-- The engine actions of the worker thread and of the clock. -/
def Action.isWorker {α : Type} : Action α → Bool
  | .tick | .complete _ | .resume | .advance _ => true
  | _ => false

/-- A serial adapter: which one, its engine, and where its destruction is. -/
structure Channel where
  adapter : Adapter
  engine : Transport Packet
  stage : Stage

/-- An operation of one context on a channel. -/
inductive Op
  /-- An action of the engine (`Transport/Basic.lean`). -/
  | engine (a : Action Packet)
  /-- The worker's `processReceivedData` with a data callback bound, the driver holding
  received data (for `Uart`, `available()` answers more than 0 and `read` follows). -/
  | poll
  /-- The same with no received data (for `Uart`, `available()` answers 0 and the poll
  returns). -/
  | pollEmpty
  /-- `~Uart` / `~UsbJtag`: `if (isInitialized())` uninstall the driver. -/
  | destroy
  /-- `~Uart` / `~UsbJtag` returns. -/
  | destroyed
  /-- `~Transport`: `mThread.stop()`, returning once the worker is between ticks. -/
  | finish
deriving DecidableEq

/-- Only the constructors write `mIsInitialized`: no engine step changes it. -/
theorem Transport.Transition.initialized_eq {α : Type} [HasPacket α] {s s' : Transport α}
    {a : Action α} {evs : List (Event α)} (h : Transport.Transition s a s' evs) :
    s'.initialized = s.initialized := by
  cases h <;> rfl

/-- Only a tick calls `sendImpl`, so only a tick writes to the driver. -/
theorem Transport.Transition.tick_of_writesDriver {s s' : Transport Packet} {a : Action Packet}
    {evs : List (Event Packet)} (h : Transport.Transition s a s' evs)
    (ha : evs.any Event.writesDriver = true) : a = .tick := by
  cases h with
  | tick e q _ _ _ _ => rfl
  | failed e ret _ _ => cases hcb : s.errorCallback <;> simp [hcb, Event.writesDriver] at ha
  | _ => exact absurd ha Bool.false_ne_true

/-- Only `start()` sets the worker running. -/
theorem Transport.Transition.running_of_ne_start {α : Type} [HasPacket α]
    {s s' : Transport α} {a : Action α} {evs : List (Event α)}
    (h : Transport.Transition s a s' evs) (ha : a ≠ .start) (hrun : s.running = false) :
    s'.running = false := by
  cases h with
  | start => exact absurd rfl ha
  | _ => first | rfl | exact hrun

namespace Channel

/-- The channel a constructor leaves: `Transport`'s constructor, then the adapter's. -/
def new (c : Construction) : Channel := ⟨c.adapter, Transport.init c.installed, .alive⟩

/-- The engine actions that go on during destruction: the worker's and the clock's.  Once
`~Uart` has returned no new tick starts, since its `sendImpl` call would be a call of the
pure virtual `Transport::sendImpl` (undefined behaviour, not modelled); a tick in
progress finishes. -/
def allows : Stage → Action Packet → Bool
  | .alive, _ => true
  | .adapterDtor, a => a.isWorker
  | .transportDtor, a => a.isWorker && !(a matches .tick)
  | .gone, _ => false

/-- The driver calls of the worker's `processReceivedData` with a data callback bound, `data`
telling whether the driver holds received data.  The worker polls between ticks; once
`~Uart` has returned, the call is `Transport`'s empty `processReceivedData`; and every
driver call needs `isInitialized()`. -/
def processReceivedData (s : Channel) (data : Bool) : List DriverCall :=
  if s.stage.isAdapter && s.engine.phase.isIdle && s.engine.isInitialized then
    s.adapter.pollCalls data
  else []

/-- One operation, and the driver calls it makes.  An engine step that calls `sendImpl` on
a non-empty packet writes when `isInitialized()` holds; a receive poll makes the calls of
`processReceivedData`. -/
def step (s : Channel) : Op → Channel × List DriverCall
  | .engine a =>
    if allows s.stage a then
      ({ s with engine := (s.engine.step a).1 },
        if (s.engine.step a).2.any Event.writesDriver && s.engine.isInitialized then [.write]
        else [])
    else (s, [])
  | .poll => (s, s.processReceivedData true)
  | .pollEmpty => (s, s.processReceivedData false)
  | .destroy =>
    if s.stage = .alive then
      ({ s with stage := .adapterDtor }, if s.engine.isInitialized then [.uninstall] else [])
    else (s, [])
  | .destroyed =>
    if s.stage = .adapterDtor then ({ s with stage := .transportDtor }, []) else (s, [])
  | .finish =>
    if s.stage = .transportDtor && s.engine.phase.isIdle then
      ({ s with engine := { s.engine with running := false }, stage := .gone }, [])
    else (s, [])

/-- A run: the channel after the operations, and their driver calls, oldest first. -/
def exec (s : Channel) : List Op → Channel × List DriverCall
  | [] => (s, [])
  | o :: os => (((s.step o).1.exec os).1, (s.step o).2 ++ ((s.step o).1.exec os).2)

/-- A whole life: the constructor's driver calls, then the operations'. -/
def lifecycle (c : Construction) (os : List Op) : Channel × List DriverCall :=
  (((new c).exec os).1, c.calls ++ ((new c).exec os).2)

@[simp] theorem exec_nil (s : Channel) : s.exec [] = (s, []) := rfl

@[simp] theorem exec_cons (s : Channel) (o : Op) (os : List Op) :
    s.exec (o :: os) = (((s.step o).1.exec os).1, (s.step o).2 ++ ((s.step o).1.exec os).2) :=
  rfl

theorem exec_append (s : Channel) (os os' : List Op) :
    s.exec (os ++ os') =
      (((s.exec os).1.exec os').1, (s.exec os).2 ++ ((s.exec os).1.exec os').2) := by
  induction os generalizing s with
  | nil => simp
  | cons o os ih => simp [ih]

/-! ### One step -/

/-- A receive poll never uninstalls the driver. -/
theorem uninstall_not_mem_processReceivedData (s : Channel) (data : Bool) :
    DriverCall.uninstall ∉ s.processReceivedData data := by
  unfold processReceivedData Adapter.pollCalls
  split
  · split <;> simp
  · simp

theorem initialized_step (s : Channel) (o : Op) :
    (s.step o).1.engine.initialized = s.engine.initialized := by
  cases o with
  | engine a =>
    simp only [step]
    split
    · exact (Transport.step_spec s.engine a).initialized_eq
    · rfl
  | poll | pollEmpty => rfl
  | _ => simp only [step]; split <;> rfl

theorem count_uninstall_step (s : Channel) (o : Op) :
    (s.step o).2.count .uninstall =
      if o = .destroy ∧ s.stage = .alive ∧ s.engine.isInitialized = true then 1 else 0 := by
  cases o with
  | destroy =>
    simp only [step, true_and]
    split_ifs <;> simp_all
  | poll | pollEmpty =>
    simp only [step, reduceCtorEq, false_and, if_false]
    exact List.count_eq_zero.mpr (uninstall_not_mem_processReceivedData s _)
  | _ => simp only [step, reduceCtorEq, false_and, if_false]; split_ifs <;> rfl

/-- Only `destroy` starts destruction, and nothing undoes it. -/
theorem stage_step_alive (s : Channel) {o : Op} (ho : o ≠ .destroy) (h : s.stage = .alive) :
    (s.step o).1.stage = .alive := by
  cases o with
  | engine a => simp only [step]; split <;> exact h
  | poll | pollEmpty => exact h
  | destroy => exact absurd rfl ho
  | destroyed | finish => simp [step, h]

theorem stage_step_ne_alive (s : Channel) (o : Op) (h : s.stage ≠ .alive) :
    (s.step o).1.stage ≠ .alive := by
  cases o with
  | engine a => simp only [step]; split <;> exact h
  | poll | pollEmpty => exact h
  | destroy | destroyed | finish => simp only [step]; split <;> simp_all

/-! ### Runs -/

theorem initialized_exec (s : Channel) (os : List Op) :
    (s.exec os).1.engine.initialized = s.engine.initialized := by
  induction os generalizing s with
  | nil => rfl
  | cons o os ih => rw [exec_cons, ih, initialized_step]

theorem exec_alive (s : Channel) (os : List Op) (hos : .destroy ∉ os) (h : s.stage = .alive) :
    (s.exec os).1.stage = .alive ∧ (s.exec os).2.count .uninstall = 0 := by
  induction os generalizing s with
  | nil => exact ⟨h, rfl⟩
  | cons o os ih =>
    simp only [List.mem_cons, not_or] at hos
    obtain ⟨hst, hc⟩ := ih _ hos.2 (stage_step_alive s (Ne.symm hos.1) h)
    simp [hst, List.count_append, hc, count_uninstall_step, Ne.symm hos.1]

theorem count_uninstall_exec_ne_alive (s : Channel) (os : List Op) (h : s.stage ≠ .alive) :
    (s.exec os).2.count .uninstall = 0 := by
  induction os generalizing s with
  | nil => rfl
  | cons o os ih =>
    simp [List.count_append, ih _ (stage_step_ne_alive s o h), count_uninstall_step, h]

/-! ### The driver's uninstall -/

/-- **When the driver is uninstalled.**  In every life of a serial adapter, whatever its
constructor's driver calls returned, whatever the engine did before destruction began and
whatever the worker does during it, the driver is uninstalled once if the constructor
installed it and the worker thread was running when destruction began, and never
otherwise. -/
theorem uninstall_count (c : Construction) (pre post : List Op) (hpre : .destroy ∉ pre) :
    (lifecycle c (pre ++ .destroy :: post)).2.count .uninstall =
      if DriverCall.install ESP_OK ∈ c.calls ∧ ((new c).exec pre).1.engine.running = true
      then 1 else 0 := by
  obtain ⟨halive, hpre0⟩ := exec_alive (new c) pre hpre rfl
  have hinit : ((new c).exec pre).1.engine.initialized = c.installed :=
    initialized_exec (new c) pre
  have hpost := count_uninstall_exec_ne_alive
    (((new c).exec pre).1.step .destroy).1 post (by simp [step, halive])
  simp only [lifecycle, exec_append, exec_cons, List.count_append, hpre0, hpost,
    List.count_eq_zero.mpr c.no_uninstall, count_uninstall_step, halive, Transport.isInitialized,
    hinit, Bool.and_eq_true, ← c.installed_iff]
  simp

/-- `uninstall_count` for a `Uart` whose driver calls all succeed, started and then
destroyed: one uninstall. -/
theorem uninstall_count_started :
    (lifecycle (Uart.construct ESP_OK false ESP_OK ESP_OK)
      ([.engine .start] ++ .destroy :: [.destroyed, .finish])).2.count .uninstall = 1 :=
  (uninstall_count _ [.engine .start] [.destroyed, .finish] (by decide)).trans (by decide)

/-! ### When the driver is left alone -/

/-- A run of operations each satisfying `Q`, from a channel satisfying `P`, makes no driver
call if one such operation keeps `P` and makes none. -/
theorem exec_eq_nil_of (P : Channel → Prop) (Q : Op → Prop)
    (hstep : ∀ s o, Q o → P s → (s.step o).2 = [] ∧ P (s.step o).1) (s : Channel) (hs : P s)
    (os : List Op) (hos : ∀ o ∈ os, Q o) : (s.exec os).2 = [] := by
  induction os generalizing s with
  | nil => rfl
  | cons o os ih =>
    obtain ⟨hnil, hs'⟩ := hstep s o (hos o (List.mem_cons_self o os)) hs
    rw [exec_cons, hnil, ih _ hs' fun o' ho' => hos o' (List.mem_cons_of_mem o ho')]
    rfl

/-- With `isInitialized()` false, no operation calls the driver: `Uart::write`,
`Uart::read`, `Uart::available` and the destructor all test it first. -/
theorem step_eq_nil_of_not_isInitialized (s : Channel) (o : Op)
    (h : s.engine.isInitialized = false) : (s.step o).2 = [] := by
  cases o <;> simp [step, processReceivedData, h] <;> split <;> rfl

/-- Only a channel whose adapter is alive or in its destructor lets a tick start. -/
theorem isAdapter_of_allows_tick {st : Stage} (h : allows st .tick = true) :
    st.isAdapter = true := by
  cases st <;> first | rfl | exact absurd h Bool.false_ne_true

/-- Once the adapter's destructor has returned, no operation calls the driver: no new
tick starts, and the receive poll is the adapter's. -/
theorem step_eq_nil_of_not_isAdapter (s : Channel) (o : Op) (h : s.stage.isAdapter = false) :
    (s.step o).2 = [] ∧ (s.step o).1.stage.isAdapter = false := by
  cases o with
  | engine a =>
    simp only [step]
    split
    · rename_i ha
      refine ⟨if_neg fun hw => ?_, h⟩
      have htick :=
        (Transport.step_spec s.engine a).tick_of_writesDriver (Bool.and_eq_true _ _ ▸ hw).1
      subst htick
      exact absurd (isAdapter_of_allows_tick ha) (by simp [h])
    · exact ⟨rfl, h⟩
  | poll | pollEmpty => simp [step, processReceivedData, h]
  | destroy =>
    have : s.stage ≠ .alive := fun he => by simp [he, Stage.isAdapter] at h
    simp [step, this, h]
  | destroyed =>
    have : s.stage ≠ .adapterDtor := fun he => by simp [he, Stage.isAdapter] at h
    simp [step, this, h]
  | finish =>
    simp only [step]
    split
    exacts [⟨rfl, rfl⟩, ⟨rfl, h⟩]

/-- Until `start()`, a stopped worker stays stopped. -/
theorem running_step (s : Channel) {o : Op} (ho : o ≠ .engine .start)
    (h : s.engine.running = false) : (s.step o).1.engine.running = false := by
  cases o with
  | engine a =>
    simp only [step]
    split
    · exact (Transport.step_spec s.engine a).running_of_ne_start (fun ha => ho (ha ▸ rfl)) h
    · exact h
  | poll | pollEmpty => exact h
  | _ => simp only [step]; split <;> first | rfl | exact h

/-- **When the driver is left alone.**  From any channel, a run makes no driver call at all
(no buffer query, read, write or uninstall) if the constructor did not install the driver,
or the adapter's destructor has returned, or the worker is stopped and the run does not call
`start()`.  So a driver call after the uninstall can only come from the worker while
`~Uart` / `~UsbJtag` has not yet returned. -/
theorem driver_untouched (s : Channel) (os : List Op)
    (h : s.engine.initialized = false ∨ s.stage.isAdapter = false ∨
      (s.engine.running = false ∧ .engine .start ∉ os)) :
    (s.exec os).2 = [] := by
  rcases h with h | h | ⟨h, hos⟩
  · refine exec_eq_nil_of (fun s => s.engine.initialized = false) (fun _ => True)
      (fun s o _ hs =>
        ⟨step_eq_nil_of_not_isInitialized s o ?_, (initialized_step s o).trans hs⟩)
      s h os (fun _ _ => trivial)
    simp [Transport.isInitialized, hs]
  · exact exec_eq_nil_of (fun s => s.stage.isAdapter = false) (fun _ => True)
      (fun s o _ hs => step_eq_nil_of_not_isAdapter s o hs) s h os (fun _ _ => trivial)
  · refine exec_eq_nil_of (fun s => s.engine.running = false) (· ≠ .engine .start)
      (fun s o ho hs => ⟨step_eq_nil_of_not_isInitialized s o ?_, running_step s ho hs⟩)
      s h os (fun o ho he => hos (he ▸ ho))
    simp [Transport.isInitialized, hs]

/-- `driver_untouched` for a `UsbJtag` whose driver install failed, then started, polled
and destroyed: no driver call after the constructor's. -/
theorem driver_untouched_failedInstall :
    (lifecycle (UsbJtag.construct ESP_FAIL)
      [.engine .start, .poll, .destroy, .destroyed, .finish]).2 = [.install ESP_FAIL] := by
  rw [lifecycle, driver_untouched _ _ (.inl (by decide))]
  rfl

/-! ### What the destructors get wrong -/

/-- A `Uart` and a `UsbJtag` whose driver calls all succeed.  Never started and then
destroyed, each keeps its driver installed: `isInitialized()` is false without a running
thread, so the destructor skips the uninstall.  A started `Uart` holding a packet is
destroyed while its worker runs: the destructor uninstalls the driver, and before
`~Transport` stops the thread the worker writes the packet and polls, through the
uninstalled driver. -/
theorem destructor_mishandles_driver :
    let teardown : List Op := [.destroy, .destroyed, .finish]
    let uart := Uart.construct ESP_OK true ESP_OK ESP_OK
    let jtag := UsbJtag.construct ESP_OK
    let p : Packet := { Packet.clear with size := 1 }
    DriverCall.install ESP_OK ∈ (lifecycle uart teardown).2 ∧
      DriverCall.uninstall ∉ (lifecycle uart teardown).2 ∧
    DriverCall.install ESP_OK ∈ (lifecycle jtag teardown).2 ∧
      DriverCall.uninstall ∉ (lifecycle jtag teardown).2 ∧
    [DriverCall.uninstall, .write, .read] <+
      (lifecycle uart ([.engine .start, .engine (.send p), .engine .push, .destroy,
        .engine .tick, .engine (.complete ESP_OK), .poll] ++ [.destroyed, .finish])).2 := by
  decide

end Channel

end Net
