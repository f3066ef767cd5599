/-
NetsLib/Adapter/Serial.lean

The two serial adapters, `Uart` (`src/uart.cpp`) and `UsbJtag` (`src/usb_jtag.cpp`): their
`read`, `write`, `sendImpl` and `processReceivedData`.

Design.  `Uart::read` and `UsbJtag::read` differ only in the driver function they call
and its timeout, and so do the two `write`s; each pair is one definition (`serialRead`,
`serialWrite`) of which each adapter's function is an instance.  A driver call is the
environment's: `DriverRead` is what `uart_read_bytes` or `usb_serial_jtag_read_bytes`
returned and wrote, and a write's result is an `Int`.  The `int` a driver returns goes
through `static_cast<size_t>` (a non-negative value, kept) and then into the `uint16_t`
field `size` (`BitVec.ofNat 16`).  `isInitialized()` is the argument `init`.

The two `processReceivedData` differ: `Uart`'s first asks `available()`.

Main result: `receive_poll_delivers` — on both adapters, for every driver result within
the driver contract, the receive handler is called exactly when a callback is bound, the
read reached the driver (for `Uart`: `available() > 0`), and it returned data; the
packet is then id 0, valid, of the size read, with the bytes read and zeros after them.
-/
import NetsLib.Transport.Basic

namespace Net

/-- What a driver read returned: `len` (negative on error), and the bytes it wrote at the
start of the buffer, `bytes 0, …, bytes (len - 1)` (the ESP-IDF driver contract). -/
structure DriverRead where
  len : Int
  bytes : Nat → UInt8

/-- `Uart::read` and `UsbJtag::read` into a packet's buffer: `0` with no driver call when
not initialized (the span of `MAX_MTU` bytes is never empty); otherwise the driver's
`len`, or `0` when it reports an error.  Also the buffer afterwards. -/
def serialRead (init : Bool) (buffer : Mathlib.Vector UInt8 MAX_MTU) (drv : DriverRead) :
    Nat × Mathlib.Vector UInt8 MAX_MTU :=
  if !init || MAX_MTU == 0 then (0, buffer)
  else (if drv.len < 0 then 0 else drv.len.toNat, Packet.memcpy buffer drv.bytes drv.len.toNat)

/-- `Uart::write` and `UsbJtag::write` of `data`: `0` with no driver call when not
initialized or `data` is empty; otherwise what the driver wrote, `0` on error. -/
def serialWrite (init : Bool) (data : List UInt8) (written : Int) : Nat :=
  if !init || data.isEmpty then 0 else if written < 0 then 0 else written.toNat

/-- `Uart::sendImpl` and `UsbJtag::sendImpl`: write `span(buffer.data(), size)`, and fail
with `ESP_FAIL` unless exactly `size` bytes were written.  The packet is only read. -/
def serialSendImpl (init : Bool) (p : Packet) (written : Int) : Int :=
  if serialWrite init (p.buffer.toList.take p.size.toNat) written ≠ p.size.toNat then ESP_FAIL
  else ESP_OK

/-- `Packet packet{}; packet.size = read(std::span<uint8_t>(packet.buffer));`: the
zeroed packet after a read that returned `r.1` and left the buffer `r.2`. -/
def packetOfRead (r : Nat × Mathlib.Vector UInt8 MAX_MTU) : Packet :=
  { Packet.clear with size := BitVec.ofNat 16 r.1, buffer := r.2 }

/-- `if (packet.size > 0) mDataCallback->invoke(packet, ...)`: the packet handed to the
data callback, if any. -/
def deliver (r : Nat × Mathlib.Vector UInt8 MAX_MTU) : Option Packet :=
  if 0 < (packetOfRead r).size.toNat then some (packetOfRead r) else none

namespace Uart

/-- `Uart::available`: `0` when not initialized, else what `uart_get_buffered_data_len`
reported. -/
def available (init : Bool) (buffered : Nat) : Nat :=
  if !init then 0 else buffered

/-- `Uart::read`, with `uart_read_bytes` (100 ms timeout). -/
def read (init : Bool) (buffer : Mathlib.Vector UInt8 MAX_MTU) (drv : DriverRead) :
    Nat × Mathlib.Vector UInt8 MAX_MTU :=
  serialRead init buffer drv

/-- `Uart::sendImpl`, with `uart_write_bytes`. -/
def sendImpl (init : Bool) (p : Packet) (written : Int) : Int :=
  serialSendImpl init p written

/-- `Uart::processReceivedData`, with `bound` for `mDataCallback` and `buffered` for what
the driver reports buffered: the packet handed to the data callback, if any. -/
def processReceivedData (bound init : Bool) (buffered : Nat) (drv : DriverRead) :
    Option Packet :=
  if !bound || available init buffered == 0 then none
  else deliver (read init Packet.clear.buffer drv)

end Uart

namespace UsbJtag

/-- `UsbJtag::read`, with `usb_serial_jtag_read_bytes` (50 ms timeout). -/
def read (init : Bool) (buffer : Mathlib.Vector UInt8 MAX_MTU) (drv : DriverRead) :
    Nat × Mathlib.Vector UInt8 MAX_MTU :=
  serialRead init buffer drv

/-- `UsbJtag::sendImpl`, with `usb_serial_jtag_write_bytes`. -/
def sendImpl (init : Bool) (p : Packet) (written : Int) : Int :=
  serialSendImpl init p written

/-- `UsbJtag::processReceivedData`: as `Uart`'s, without the `available()` test. -/
def processReceivedData (bound init : Bool) (drv : DriverRead) : Option Packet :=
  if !bound then none
  else deliver (read init Packet.clear.buffer drv)

end UsbJtag

/-! ### The shared read -/

/-- The `int` to `size_t` conversion of a read keeps a non-negative length and maps an
error to `0`: the size read is `len.toNat`. -/
@[simp] theorem serialRead_fst (init : Bool) (buffer : Mathlib.Vector UInt8 MAX_MTU)
    (drv : DriverRead) : (serialRead init buffer drv).1 = if init then drv.len.toNat else 0 := by
  cases init with
  | false => rfl
  | true => show (if drv.len < 0 then 0 else drv.len.toNat) = drv.len.toNat; split <;> omega

@[simp] theorem serialRead_snd (init : Bool) (buffer : Mathlib.Vector UInt8 MAX_MTU)
    (drv : DriverRead) : (serialRead init buffer drv).2 =
      if init then Packet.memcpy buffer drv.bytes drv.len.toNat else buffer := by
  cases init <;> simp [serialRead, MAX_MTU]

/-- The packet a read of `drv` delivers: id 0, the size read, valid, the bytes read and
zeros after them. -/
def Received (drv : DriverRead) (p : Packet) : Prop :=
  p.id = 0 ∧ p.size.toNat = drv.len.toNat ∧ p.isValid = true ∧
  (∀ i : Fin MAX_MTU, i.val < drv.len.toNat → p.buffer.get i = drv.bytes i) ∧
  (∀ i : Fin MAX_MTU, drv.len.toNat ≤ i.val → p.buffer.get i = 0)

/-- A read into a zeroed packet delivers exactly when it reached the driver and the
driver returned data, and then delivers `Received drv`. -/
theorem deliver_serialRead (init : Bool) (drv : DriverRead) (hdrv : drv.len ≤ MAX_MTU) :
    ((deliver (serialRead init Packet.clear.buffer drv)).isSome ↔
      init = true ∧ 0 < drv.len) ∧
    ∀ p, deliver (serialRead init Packet.clear.buffer drv) = some p → Received drv p := by
  cases init with
  | false => simp [deliver, packetOfRead]
  | true =>
    have hsize : (BitVec.ofNat 16 drv.len.toNat).toNat = drv.len.toNat :=
      Packet.toNat_ofNat_of_le_MAX_MTU (by omega)
    by_cases hpos : 0 < drv.len
    · have hlen : 0 < drv.len.toNat := by omega
      refine ⟨by simp [deliver, packetOfRead, hsize, hlen, hpos], ?_⟩
      rintro p hp
      simp only [deliver, packetOfRead, serialRead_fst, serialRead_snd, if_true, hsize, hlen,
        Option.some.injEq] at hp
      subst hp
      refine ⟨rfl, hsize, ?_, fun i hi => by simp [hi], fun i hi => ?_⟩
      · simp only [Packet.isValid_iff, hsize]
        omega
      · simp [Nat.not_lt.mpr hi, Packet.clear]
    · have hlen : drv.len.toNat = 0 := by omega
      simp [deliver, packetOfRead, hlen, hpos]

/-! ### The receive polls -/

/-- **What a receive poll delivers.**  On both adapters, for every result of the driver
read within the driver contract (`len ≤ 517`; negative on error), the data callback is
handed a packet exactly when one is bound, the read reached the driver (for `Uart`:
`available() > 0`, which needs `isInitialized()`; for `UsbJtag`: `isInitialized()`) and
the driver returned data.  That packet has id 0, is valid, has the size read, holds the
bytes read, and is zero after them. -/
theorem receive_poll_delivers (bound init : Bool) (buffered : Nat) (drv : DriverRead)
    (hdrv : drv.len ≤ MAX_MTU) :
    ((Uart.processReceivedData bound init buffered drv).isSome ↔
      bound = true ∧ 0 < Uart.available init buffered ∧ 0 < drv.len) ∧
    (∀ p, Uart.processReceivedData bound init buffered drv = some p → Received drv p) ∧
    ((UsbJtag.processReceivedData bound init drv).isSome ↔
      bound = true ∧ init = true ∧ 0 < drv.len) ∧
    (∀ p, UsbJtag.processReceivedData bound init drv = some p → Received drv p) := by
  obtain ⟨hsome, hrecv⟩ := deliver_serialRead init drv hdrv
  have havail : 0 < Uart.available init buffered → init = true := by
    cases init <;> simp [Uart.available]
  cases bound with
  | false => simp [Uart.processReceivedData, UsbJtag.processReceivedData]
  | true =>
    simp only [Uart.processReceivedData, UsbJtag.processReceivedData, Uart.read, UsbJtag.read,
      Bool.not_true, Bool.false_or, beq_iff_eq, true_and]
    refine ⟨?_, fun p => ?_, hsome, hrecv⟩
    · split
      · simp_all
      · rename_i h
        rw [hsome]
        exact ⟨fun h' => ⟨Nat.pos_of_ne_zero h, h'.2⟩, fun h' => ⟨havail h'.1, h'.2⟩⟩
    · split
      · simp
      · exact hrecv p

/-- `receive_poll_delivers` for a three-byte read on an initialized `Uart` with a bound
callback and three bytes buffered: a packet is delivered, and it is the packet of the
read. -/
theorem receive_poll_delivers_threeBytes :
    (Uart.processReceivedData true true 3 ⟨3, fun _ => 7⟩).isSome = true ∧
    ∀ p, Uart.processReceivedData true true 3 ⟨3, fun _ => 7⟩ = some p →
      Received ⟨3, fun _ => 7⟩ p := by
  have h := receive_poll_delivers true true 3 ⟨3, fun _ => 7⟩ (by decide)
  exact ⟨h.1.mpr ⟨rfl, by decide, by decide⟩, h.2.1⟩

end Net
