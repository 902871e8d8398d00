import TransportHandler.Wire.Bits

/-!
# Unpacking a request

Modelled from the spec: `ipmi::message::Payload` (include/ipmid/message, not in src/).
-/

namespace Ipmi

/-- An unpacker over the bits of a request not yet taken. -/
abbrev Unpack := StateT (List Bool) Option

/-- A field of `n` bits (`uintN_t`, `bitset<N>`). -/
def unpackBits (n : Nat) : Unpack Nat := fun bits =>
  if n ≤ bits.length then some (bitsVal (bits.take n), bits.drop n) else none

/-- `uint8_t`. -/
def unpackU8 : Unpack Nat := unpackBits 8

/-- `bool`. -/
def unpackBool : Unpack Bool := do return (← unpackBits 1) == 1

/-- `std::array<uint8_t, k>`. -/
def unpackArray : (k : Nat) → Unpack (Mathlib.Vector UInt8 k)
  | 0 => pure Mathlib.Vector.nil
  | k + 1 => do
    let b ← unpackBits 8
    let rest ← unpackArray k
    return Mathlib.Vector.cons (UInt8.ofNat b) rest

/-- `std::array<uintN_t, k>`. -/
def unpackFields (n : Nat) : Nat → Unpack (List Nat)
  | 0 => pure []
  | k + 1 => do
    let v ← unpackBits n
    let rest ← unpackFields n k
    return v :: rest

/-- `req.unpack(fields...) == 0 && req.fullyUnpacked()`. -/
def unpackExact {α : Type} (u : Unpack α) (req : List UInt8) : Option α :=
  match u.run (payloadBits req) with
  | some (a, []) => some a
  | _ => none

/-! ### Unpacking what was packed -/

theorem unpackBits_run {n : Nat} {field : List Bool} (rest : List Bool) (width : field.length = n) :
    (unpackBits n).run (field ++ rest) = some (bitsVal field, rest) := by
  subst width
  simp [unpackBits, StateT.run]

theorem unpackBits_natBits (n v : Nat) (rest : List Bool) :
    (unpackBits n).run (natBits n v ++ rest) = some (v % 2 ^ n, rest) := by
  rw [unpackBits_run rest (natBits_length n v), bitsVal_natBits]

theorem unpackBool_bit (v : Nat) (rest : List Bool) :
    unpackBool.run (natBits 1 v ++ rest) = some (v % 2 == 1, rest) := by
  simp only [unpackBool, StateT.run_bind, unpackBits_natBits, Option.some_bind, StateT.run_pure,
    Nat.pow_one]
  rfl

theorem unpackBool_natBits (b : Bool) (rest : List Bool) :
    unpackBool.run (natBits 1 b.toNat ++ rest) = some (b, rest) := by
  have field := unpackBits_natBits 1 b.toNat rest
  simp only [unpackBool, StateT.run_bind, field, Option.some_bind, StateT.run_pure]
  cases b <;> rfl

theorem unpackArray_run {k : Nat} (bytes : Mathlib.Vector UInt8 k) (rest : List Bool) :
    (unpackArray k).run (payloadBits bytes.toList ++ rest) = some (bytes, rest) := by
  induction k with
  | zero =>
    obtain ⟨l, length⟩ := bytes
    rw [List.length_eq_zero] at length
    subst length
    rfl
  | succ k ih =>
    obtain ⟨l, length⟩ := bytes
    cases l with
    | nil => cases length
    | cons b tail =>
    simp only [List.length_cons, Nat.add_right_cancel_iff] at length
    have first := unpackBits_run (payloadBits tail ++ rest) (show (byteBits b).length = 8 by simp [byteBits])
    have later := ih ⟨tail, length⟩
    simp only [Mathlib.Vector.toList_mk] at later
    have value : bitsVal (byteBits b) = b.toNat := by
      rw [byteBits, bitsVal_natBits, Nat.mod_eq_of_lt (show b.toNat < 2 ^ 8 from b.toNat_lt_size)]
    simp only [unpackArray, Mathlib.Vector.toList_mk, payloadBits, List.append_assoc,
      StateT.run_bind, first, value, Option.bind_eq_bind, Option.some_bind, later, StateT.run_pure,
      uint8_ofNat_toNat]
    rfl

theorem unpackExact_array {k : Nat} (bytes : Mathlib.Vector UInt8 k) :
    unpackExact (unpackArray k) bytes.toList = some bytes := by
  have whole := unpackArray_run bytes []
  rw [List.append_nil] at whole
  simp only [unpackExact, whole]

end Ipmi
