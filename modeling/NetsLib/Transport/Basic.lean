/-
NetsLib/Transport/Basic.lean

The generic transport engine of `net/transport.h` and `src/transport.cpp`, as a state
machine whose steps are the atomic actions of every context that touches it: producers
calling `send`, the worker thread running the dispatch tick, and the callers of `bind`,
`start`, `stop` and `clearQueue`.

Design.  A C++ call that other contexts can interleave with is cut where they can:

* `send` checks `isInitialized()` and `isValid()` under `mMutex`, then pushes: two steps,
  `send` and `push`, with the checked entry held in `pending` between them.  The mutex
  makes sends mutually exclusive, but `stop` and the worker never take it.
* `processSendQueue` is three steps: `tick` (rate-limit guard, `receive`, call
  `sendImpl`), `complete ret` (`sendImpl` returned; on error the first statement of
  `handleSendError` calls the error callback), and `resume` (the rest of
  `handleSendError`: re-enqueue or drop).  While the error callback runs, any other
  action may happen, which also covers a callback that itself calls `send`.
* `stop` is `stop` (`mSendQueue.reset()`) then `halt` (`mThread.stop()` returning once
  the worker is between ticks).  `clearQueue` is `clearQueue` then one `clearStep` per
  `receive` of its loop.

The outcome of `sendImpl` and the clock `esp_timer_get_time()` are the environment's: the
first is the argument of `complete`, the second moves forward by `advance`.  `sendImpl`
takes the packet as `Packet&`; the adapters of this repository only read it, so the packet
`handleSendError` gets is the one popped.  The receive poll of the adapters reaches the
engine only through `send`, so it needs no action of its own.  The emitted `Event`s
record every call into foreign code and every return value.

The queued entries are of any type carrying a packet (`HasPacket`): the code's engine is
`Transport Packet`; the identity analysis runs the same definitions on ticketed packets.
-/
import NetsLib.Packet
import NetsLib.Queue

namespace Net

/-! ### Constants -/

/-- `ESP_OK` (ESP-IDF `esp_err.h`). -/
def ESP_OK : Int := 0
/-- `ESP_FAIL` (ESP-IDF `esp_err.h`). -/
def ESP_FAIL : Int := -1
/-- `ESP_ERR_NO_MEM` (ESP-IDF `esp_err.h`). -/
def ESP_ERR_NO_MEM : Int := 0x101
/-- `ESP_ERR_INVALID_ARG` (ESP-IDF `esp_err.h`). -/
def ESP_ERR_INVALID_ARG : Int := 0x102
/-- `ESP_ERR_INVALID_STATE` (ESP-IDF `esp_err.h`). -/
def ESP_ERR_INVALID_STATE : Int := 0x103
/-- `ESP_ERR_TIMEOUT` (ESP-IDF `esp_err.h`). -/
def ESP_ERR_TIMEOUT : Int := 0x107

/-- `Transport::SEND_INTERVAL_US`, a `uint32_t`. -/
def SEND_INTERVAL_US : Nat := 20 * 1000

/-- `Transport::MAX_QUEUE_SIZE`. -/
def MAX_QUEUE_SIZE : Nat := 16

/-- `Transport::isTemporary`: the outcomes that are retried. -/
def isTemporary (ret : Int) : Bool :=
  ret == ESP_ERR_NO_MEM || ret == ESP_ERR_INVALID_STATE || ret == ESP_ERR_TIMEOUT

/-! ### State, actions and events -/

/-- What the engine reads of a queued entry: the packet it carries. -/
class HasPacket (α : Type) where
  packet : α → Packet

instance : HasPacket Packet := ⟨id⟩

/-- Where the worker's dispatch tick is. -/
inductive Phase (α : Type)
  /-- Between ticks. -/
  | idle
  /-- Popped `e` and called `sendImpl(e)`. -/
  | inSendImpl (e : α)
  /-- In `handleSendError(e, err)`, past the error callback's call. -/
  | handling (e : α) (err : Int)
deriving DecidableEq

/-- `Phase.idle` as a test. -/
def Phase.isIdle {α : Type} : Phase α → Bool
  | .idle => true
  | _ => false

/-- The packet the worker's tick holds, if any. -/
@[simp] def Phase.entry {α : Type} : Phase α → Option α
  | .idle => none
  | .inSendImpl e => some e
  | .handling e _ => some e

@[simp] theorem Phase.isIdle_iff {α : Type} {p : Phase α} : p.isIdle = true ↔ p = .idle := by
  cases p <;> simp [Phase.isIdle]

/-- A transport: the fields of `net::Transport` the engine uses, and where each
non-atomic call in progress stands. -/
structure Transport (α : Type) where
  /-- `mSendQueue`. -/
  sendQueue : BufferedQueue α MAX_QUEUE_SIZE
  /-- `mNextSendTime`, a `uint64_t`. -/
  nextSendTime : BitVec 64
  /-- `mIsInitialized`, set by the adapter's constructor. -/
  initialized : Bool
  /-- `mThread.state() != NOT_RUNNING`. -/
  running : Bool
  /-- `mErrorCallback` is bound. -/
  errorCallback : Bool
  /-- The worker's dispatch tick. -/
  phase : Phase α
  /-- A `send` that passed its checks and holds `mMutex`, about to push. -/
  pending : Option α
  /-- A `stop` between its `reset()` and the return of `mThread.stop()`. -/
  stopping : Bool
  /-- A `clearQueue` in its loop, with its count so far. -/
  clearing : Option Nat
  /-- `esp_timer_get_time()`, an `int64_t`. -/
  clock : Int

/-- The actions of the contexts sharing one transport. -/
inductive Action (α : Type)
  /-- A producer enters `send(e)`: its checks. -/
  | send (e : α)
  /-- The `send` holding the mutex pushes and returns. -/
  | push
  /-- `bind(_, errorCallback)`, with or without an error callback. -/
  | bind (error : Bool)
  /-- `start()`. -/
  | start
  /-- `stop()`: `mSendQueue.reset()`. -/
  | stop
  /-- `stop()`: `mThread.stop()` returns. -/
  | halt
  /-- `clearQueue()` is entered. -/
  | clearQueue
  /-- One `receive` of `clearQueue`'s loop. -/
  | clearStep
  /-- The clock reads `t` from now on. -/
  | advance (t : Int)
  /-- The worker starts a tick: `processSendQueue` up to the call of `sendImpl`. -/
  | tick
  /-- `sendImpl` returns `ret`. -/
  | complete (ret : Int)
  /-- The error callback returned: the rest of `handleSendError`. -/
  | resume
deriving DecidableEq

/-- What the outside world sees of a transport: the calls it makes into foreign code, and
its public calls with the values they return. -/
inductive Event (α : Type)
  /-- `bind` was called, with or without an error callback. -/
  | bound (error : Bool)
  /-- `send(e)` returned `ret`. -/
  | sendReturned (e : α) (ret : Int)
  /-- `sendImpl(e)` was called; `t` is the reading of the rate-limit guard. -/
  | attempt (e : α) (t : Int)
  /-- `sendImpl(e)` returned `ret` when the clock read `t`. -/
  | returned (e : α) (ret : Int) (t : Int)
  /-- `mErrorCallback(e, ret)` was called. -/
  | report (e : α) (ret : Int)
  /-- `handleSendError` pushed `e` back; `ok` is what `send` returned. -/
  | requeued (e : α) (ok : Bool)
  /-- `handleSendError` dropped `e` after the fatal `ret`. -/
  | dropped (e : α) (ret : Int)
  /-- `stop()`'s `reset()` discarded `es`. -/
  | drained (es : List α)
  /-- `stop()` returned. -/
  | halted
  /-- `clearQueue()`'s loop discarded `e`. -/
  | cleared (e : α)
  /-- `clearQueue()` returned `n`. -/
  | clearReturned (n : Nat)
deriving DecidableEq

namespace Transport

variable {α : Type} [HasPacket α]

/-- The state the constructors leave: `setInitialized(installed)` from the adapter, the
thread not started, no callback, an empty queue and `mNextSendTime = 0`. -/
def init (installed : Bool) : Transport α where
  sendQueue := .empty
  nextSendTime := 0
  initialized := installed
  running := false
  errorCallback := false
  phase := .idle
  pending := none
  stopping := false
  clearing := none
  clock := 0

/-- `Transport::isInitialized`: the flag, and a thread that is not `NOT_RUNNING`. -/
def isInitialized (s : Transport α) : Bool :=
  s.initialized && s.running

/-! ### The operations -/

/-- `Transport::send`, its checks: a call that fails them returns `ESP_ERR_INVALID_ARG`;
one that passes them holds the mutex until it pushes. -/
def send (s : Transport α) (e : α) : Transport α × List (Event α) :=
  if s.isInitialized && (HasPacket.packet e).isValid then ({ s with pending := some e }, [])
  else (s, [.sendReturned e ESP_ERR_INVALID_ARG])

/-- `Transport::send`, its last statement:
`mSendQueue.send(packet, 0) ? ESP_OK : ESP_ERR_INVALID_STATE`. -/
def push (s : Transport α) (e : α) : Transport α × List (Event α) :=
  ({ s with sendQueue := (s.sendQueue.send e).2, pending := none },
    [.sendReturned e (if (s.sendQueue.send e).1 then ESP_OK else ESP_ERR_INVALID_STATE)])

/-- `Transport::processSendQueue` up to the call of `sendImpl`: skip while
`mNextSendTime > esp_timer_get_time()` (the reading converted to `uint64_t`), else pop
one packet, if any, and hand it to `sendImpl`. -/
def processSendQueue (s : Transport α) : Transport α × List (Event α) :=
  if BitVec.ofInt 64 s.clock < s.nextSendTime then (s, [])
  else match s.sendQueue.receive with
    | none => (s, [])
    | some (e, q) => ({ s with sendQueue := q, phase := .inSendImpl e }, [.attempt e s.clock])

/-- `sendImpl(e)` returned `ret`: on `ESP_OK` set
`mNextSendTime = esp_timer_get_time() + SEND_INTERVAL_US`; otherwise enter
`handleSendError`, whose first statement calls the error callback if one is bound. -/
def sendImplReturned (s : Transport α) (e : α) (ret : Int) : Transport α × List (Event α) :=
  if ret = ESP_OK then
    ({ s with nextSendTime := BitVec.ofInt 64 (s.clock + SEND_INTERVAL_US), phase := .idle },
      [.returned e ret s.clock])
  else
    ({ s with phase := .handling e ret },
      .returned e ret s.clock :: if s.errorCallback then [.report e ret] else [])

/-- The rest of `Transport::handleSendError`: a temporary error puts the packet back with
`mSendQueue.send(packet, 0)`, whose result is not looked at; any other error drops it. -/
def retryOrDrop (s : Transport α) (e : α) (err : Int) : Transport α × List (Event α) :=
  if isTemporary err then
    ({ s with sendQueue := (s.sendQueue.send e).2, phase := .idle },
      [.requeued e (s.sendQueue.send e).1])
  else ({ s with phase := .idle }, [.dropped e err])

/-- `Transport::stop`, its first statement: `mSendQueue.reset()`. -/
def stop (s : Transport α) : Transport α × List (Event α) :=
  ({ s with sendQueue := s.sendQueue.reset, stopping := true }, [.drained s.sendQueue.items])

/-- `Transport::stop`, its second statement: `mThread.stop()`, modelled from the spec
(§5): it returns once the worker has finished its tick, with the thread `NOT_RUNNING`. -/
def halt (s : Transport α) : Transport α × List (Event α) :=
  ({ s with running := false, stopping := false }, [.halted])

/-- `Transport::start`: `mThread.quickStart(loop)`, modelled from the spec (§4.3): the
worker runs afterwards, whether or not it ran before. -/
def start (s : Transport α) : Transport α × List (Event α) :=
  ({ s with running := true }, [])

/-- `Transport::bind`, as far as the engine reads it: the error callback. -/
def bind (s : Transport α) (error : Bool) : Transport α × List (Event α) :=
  ({ s with errorCallback := error }, [.bound error])

/-- One iteration of `Transport::clearQueue`'s loop with `count = n`: `receive` one
packet and count it, or return `n` when the queue is empty. -/
def clearStep (s : Transport α) (n : Nat) : Transport α × List (Event α) :=
  match s.sendQueue.receive with
  | some (e, q) => ({ s with sendQueue := q, clearing := some (n + 1) }, [.cleared e])
  | none => ({ s with clearing := none }, [.clearReturned n])

/-- One action of one context.  An action whose context is not at that point (a `push`
with no `send` past its checks, a `complete` outside `sendImpl`, a second `stop` or
`clearQueue` while one runs, a clock going back) changes nothing.

`stop` and `clearQueue` take no lock in `transport.cpp`, so two callers could run either at
once.  The model serializes them: it has one slot for each (`stopping`, `clearing`), and a
second call waits until the first has returned.  The interleavings this leaves out would
only add `receive`s and resets, which take packets out of the queue as one call does. -/
def step (s : Transport α) : Action α → Transport α × List (Event α)
  | .send e => if s.pending.isNone then s.send e else (s, [])
  | .push => match s.pending with
    | some e => s.push e
    | none => (s, [])
  | .bind error => s.bind error
  | .start => s.start
  | .stop => if s.stopping then (s, []) else s.stop
  | .halt => if s.stopping && s.phase.isIdle then s.halt else (s, [])
  | .clearQueue => if s.clearing.isNone then ({ s with clearing := some 0 }, []) else (s, [])
  | .clearStep => match s.clearing with
    | some n => s.clearStep n
    | none => (s, [])
  | .advance t => if s.clock ≤ t then ({ s with clock := t }, []) else (s, [])
  | .tick => if s.running && s.phase.isIdle then s.processSendQueue else (s, [])
  | .complete ret => match s.phase with
    | .inSendImpl e => s.sendImplReturned e ret
    | _ => (s, [])
  | .resume => match s.phase with
    | .handling e err => s.retryOrDrop e err
    | _ => (s, [])

/-- A run: the state after the actions, and the events they emitted, oldest first. -/
def exec (s : Transport α) : List (Action α) → Transport α × List (Event α)
  | [] => (s, [])
  | a :: as => ((exec (s.step a).1 as).1, (s.step a).2 ++ (exec (s.step a).1 as).2)

end Transport

end Net
