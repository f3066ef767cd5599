/-
NetsLib/Packet.lean

The packet container of `net/packet.h`: a 16-bit connection id, a 16-bit size and a
buffer of `MAX_MTU` bytes, with the validity predicate `isValid`, `clear` and
`setPayload`.

Design.  The fields keep their C++ widths: `id` and `size` are `uint16_t`, so they are
`BitVec 16`, and the `static_cast<uint16_t>(len)` of `setPayload` is `BitVec.ofNat 16 len`
(reduction modulo `2^16`).  The buffer is a `std::array<uint8_t, MAX_MTU>`, so a
`Mathlib.Vector UInt8 MAX_MTU`.  The source pointer of `setPayload` is `none` (null) or the bytes
it points at, read by offset; `memcpy` copies the first `len` of them.

Main result: `setPayload_spec`, the whole contract of `setPayload` for every prior packet,
every length and every source.  On the accepted path `len ≤ 517 < 2^16`, so the narrowing
cast never truncates.
-/
import Mathlib.Data.Vector.Basic

namespace Net

open Mathlib

/-- `MAX_MTU`: the largest BLE 5.0 MTU, and the capacity of a packet's buffer. -/
def MAX_MTU : Nat := 517

/-- `net::Packet`: `id`, `size` and `buffer`, in the packed layout of the source. -/
structure Packet where
  id : BitVec 16
  size : BitVec 16
  buffer : Vector UInt8 MAX_MTU
deriving DecidableEq

namespace Packet

/-- `Packet::isValid`: `size > 0 && size <= MAX_MTU`. -/
def isValid (p : Packet) : Bool :=
  0 < p.size.toNat && p.size.toNat ≤ MAX_MTU

/-- `Packet{}` and `Packet::clear`: every field zero. -/
def clear : Packet :=
  { id := 0, size := 0, buffer := Vector.replicate MAX_MTU 0 }

/-- `std::memcpy(buffer.data(), data, len)`: the first `len` bytes come from `src`, the
others keep their value. -/
def memcpy (buffer : Vector UInt8 MAX_MTU) (src : Nat → UInt8) (len : Nat) :
    Vector UInt8 MAX_MTU :=
  Vector.ofFn fun i => if i.val < len then src i.val else buffer.get i

/-- `Packet::setPayload(data, len)`: the returned flag, and the packet afterwards. -/
def setPayload (p : Packet) (data : Option (Nat → UInt8)) (len : Nat) : Bool × Packet :=
  match data with
  | none => (false, p)
  | some src =>
    if len = 0 ∨ MAX_MTU < len then (false, p)
    else (true, { p with size := BitVec.ofNat 16 len, buffer := memcpy p.buffer src len })

/-! ### Validity -/

theorem isValid_iff (p : Packet) :
    p.isValid = true ↔ 0 < p.size.toNat ∧ p.size.toNat ≤ MAX_MTU := by
  simp [isValid]

theorem clear_not_isValid : clear.isValid = false := by decide

@[simp] theorem get_memcpy (buffer : Vector UInt8 MAX_MTU) (src : Nat → UInt8)
    (len : Nat) (i : Fin MAX_MTU) :
    (memcpy buffer src len).get i = if i.val < len then src i.val else buffer.get i := by
  simp [memcpy]

/-- A length accepted by `setPayload` survives the `uint16_t` cast. -/
theorem toNat_ofNat_of_le_MAX_MTU {len : Nat} (h : len ≤ MAX_MTU) :
    (BitVec.ofNat 16 len).toNat = len := by
  simp only [BitVec.toNat_ofNat, MAX_MTU] at h ⊢
  omega

/-! ### `setPayload` -/

theorem setPayload_fst (p : Packet) (data : Option (Nat → UInt8)) (len : Nat) :
    (p.setPayload data len).1 = true ↔ data.isSome ∧ 1 ≤ len ∧ len ≤ MAX_MTU := by
  cases data with
  | none => simp [setPayload]
  | some src =>
    by_cases h : len = 0 ∨ MAX_MTU < len
    · simp only [setPayload, h, if_true, Option.isSome_some, Bool.false_eq_true, true_and,
        false_iff, not_and, Nat.not_le]
      omega
    · simp only [setPayload, h, if_false, Option.isSome_some, true_and, true_iff]
      omega

theorem setPayload_of_rejected {p : Packet} {data : Option (Nat → UInt8)} {len : Nat}
    (h : (p.setPayload data len).1 = false) : (p.setPayload data len).2 = p := by
  unfold setPayload at h ⊢
  split
  · rfl
  · split <;> simp_all

/-- **The contract of `setPayload`.**  The call succeeds exactly for a non-null source
and `1 ≤ len ≤ MAX_MTU`.  On success the size is `len` itself, the first `len` bytes are
the source's, the id and the bytes from `len` on are untouched, and the packet is valid.
On failure the packet is unchanged, buffer included. -/
theorem setPayload_spec (p : Packet) (data : Option (Nat → UInt8)) (len : Nat) :
    ((p.setPayload data len).1 = true ↔ data.isSome ∧ 1 ≤ len ∧ len ≤ MAX_MTU) ∧
    ((p.setPayload data len).1 = true → ∃ src, data = some src ∧
      (p.setPayload data len).2.size.toNat = len ∧
      (p.setPayload data len).2.id = p.id ∧
      (∀ i : Fin MAX_MTU, i.val < len → (p.setPayload data len).2.buffer.get i = src i) ∧
      (∀ i : Fin MAX_MTU, len ≤ i.val →
        (p.setPayload data len).2.buffer.get i = p.buffer.get i) ∧
      (p.setPayload data len).2.isValid = true) ∧
    ((p.setPayload data len).1 = false → (p.setPayload data len).2 = p) := by
  refine ⟨setPayload_fst p data len, fun hok => ?_, setPayload_of_rejected⟩
  obtain ⟨hsome, h1, hle⟩ := (setPayload_fst p data len).mp hok
  obtain ⟨src, rfl⟩ := Option.isSome_iff_exists.mp hsome
  have hacc : ¬(len = 0 ∨ MAX_MTU < len) := by omega
  have hsize := toNat_ofNat_of_le_MAX_MTU hle
  refine ⟨src, rfl, ?_, by simp [setPayload, hacc], ?_, ?_, ?_⟩
  · simpa [setPayload, hacc] using hsize
  · intro i hi
    simp [setPayload, hacc, hi]
  · intro i hi
    simp [setPayload, hacc, Nat.not_lt.mpr hi]
  · simp only [setPayload, hacc, if_false, isValid_iff, hsize]
    omega

end Packet

end Net
