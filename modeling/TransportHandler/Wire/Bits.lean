import Mathlib.Data.Vector.Defs
import Mathlib.Data.List.Infix
import Mathlib.Tactic.Ring

/-!
# Payload bits

A payload is a stream of bits, least significant bit of each byte first.
-/

namespace Ipmi

/-- The `n` low bits of `v`, least significant first. -/
def natBits : Nat → Nat → List Bool
  | 0, _ => []
  | n + 1, v => (v % 2 == 1) :: natBits n (v / 2)

/-- The number a field's bits spell, least significant first. -/
def bitsVal : List Bool → Nat
  | [] => 0
  | b :: bs => b.toNat + 2 * bitsVal bs

@[simp] theorem natBits_length (n v : Nat) : (natBits n v).length = n := by
  induction n generalizing v <;> simp [natBits, *]

theorem bitsVal_natBits (n v : Nat) : bitsVal (natBits n v) = v % 2 ^ n := by
  induction n generalizing v with
  | zero => simp [natBits, bitsVal, Nat.mod_one]
  | succ n ih =>
    have split : v % 2 ^ (n + 1) = v % 2 + 2 * (v / 2 % 2 ^ n) := by
      rw [Nat.pow_succ', Nat.mod_mul]
    rcases Nat.mod_two_eq_zero_or_one v with even | odd
    · simp [natBits, bitsVal, ih, split, even]
    · simp [natBits, bitsVal, ih, split, odd]

theorem bitsVal_lt (bits : List Bool) : bitsVal bits < 2 ^ bits.length := by
  induction bits with
  | nil => simp [bitsVal]
  | cons b bs ih =>
    have : b.toNat ≤ 1 := Bool.toNat_le b
    simp only [bitsVal, List.length_cons, Nat.pow_succ]
    omega

theorem natBits_bitsVal (bits : List Bool) : natBits bits.length (bitsVal bits) = bits := by
  induction bits with
  | nil => rfl
  | cons b bs ih =>
    have half : (b.toNat + 2 * bitsVal bs) / 2 = bitsVal bs := by
      cases b <;> simp only [Bool.toNat_false, Bool.toNat_true] <;> omega
    have low : ((b.toNat + 2 * bitsVal bs) % 2 == 1) = b := by cases b <;> simp
    simp only [List.length_cons, natBits, bitsVal, half, low, ih]

theorem natBits_add (a b v : Nat) : natBits (a + b) v = natBits a v ++ natBits b (v / 2 ^ a) := by
  induction a generalizing v with
  | zero => simp [natBits]
  | succ a ih =>
    rw [Nat.add_right_comm, natBits, ih, natBits, Nat.div_div_eq_div_mul, ← Nat.pow_succ']
    rfl

theorem natBits_mod (n v : Nat) : natBits n (v % 2 ^ n) = natBits n v := by
  have same := natBits_bitsVal (natBits n v)
  rwa [natBits_length, bitsVal_natBits] at same

/-! ### Bytes -/

theorem uint8_ofNat_toNat (b : UInt8) : UInt8.ofNat b.toNat = b :=
  UInt8.toNat.inj (by simp [UInt8.ofNat, UInt8.toNat, Fin.ofNat])

@[simp] theorem uint8_toNat_ofNat (n : Nat) : (UInt8.ofNat n).toNat = n % 256 := by
  simp [UInt8.ofNat, UInt8.toNat, Fin.ofNat]

/-- The bits of one byte, in the order a payload reads them. -/
def byteBits (b : UInt8) : List Bool := natBits 8 b.toNat

/-- The bits of a payload's bytes. -/
def payloadBits : List UInt8 → List Bool
  | [] => []
  | b :: rest => byteBits b ++ payloadBits rest

/-- Bits back to bytes, eight at a time; a short last group fills the low bits of a byte. -/
def bytesOfBits : List Bool → List UInt8
  | b0 :: b1 :: b2 :: b3 :: b4 :: b5 :: b6 :: b7 :: rest =>
      UInt8.ofNat (bitsVal [b0, b1, b2, b3, b4, b5, b6, b7]) :: bytesOfBits rest
  | [] => []
  | part => [UInt8.ofNat (bitsVal part)]

@[simp] theorem payloadBits_length (raw : List UInt8) : (payloadBits raw).length = 8 * raw.length := by
  induction raw with
  | nil => rfl
  | cons b rest ih =>
    simp only [payloadBits, List.length_append, byteBits, natBits_length, ih, List.length_cons]
    omega

theorem bytesOfBits_byte_append (b : UInt8) (rest : List Bool) :
    bytesOfBits (byteBits b ++ rest) = b :: bytesOfBits rest := by
  have value : UInt8.ofNat (bitsVal (byteBits b)) = b := by
    rw [byteBits, bitsVal_natBits, Nat.mod_eq_of_lt (show b.toNat < 2 ^ 8 from b.toNat_lt_size),
      uint8_ofNat_toNat]
  simp only [byteBits, natBits] at value ⊢
  simp only [List.cons_append, List.nil_append]
  rw [bytesOfBits, value]

theorem bytesOfBits_natBits_append (v : Nat) (rest : List Bool) :
    bytesOfBits (natBits 8 v ++ rest) = UInt8.ofNat v :: bytesOfBits rest := by
  have byte := bytesOfBits_byte_append (UInt8.ofNat v) rest
  rwa [byteBits, uint8_toNat_ofNat, show (256 : Nat) = 2 ^ 8 from rfl, natBits_mod] at byte

theorem bytesOfBits_payloadBits (raw : List UInt8) : bytesOfBits (payloadBits raw) = raw := by
  induction raw with
  | nil => rfl
  | cons b rest ih => rw [payloadBits, bytesOfBits_byte_append, ih]

theorem payloadBits_bytesOfBits (bits : List Bool) (aligned : bits.length % 8 = 0) :
    payloadBits (bytesOfBits bits) = bits := by
  induction bits using bytesOfBits.induct with
  | case1 b0 b1 b2 b3 b4 b5 b6 b7 rest ih =>
    have chunk : byteBits (UInt8.ofNat (bitsVal [b0, b1, b2, b3, b4, b5, b6, b7])) =
        [b0, b1, b2, b3, b4, b5, b6, b7] := by
      have small : bitsVal [b0, b1, b2, b3, b4, b5, b6, b7] < 256 := by
        simpa using bitsVal_lt [b0, b1, b2, b3, b4, b5, b6, b7]
      rw [byteBits, uint8_toNat_ofNat, Nat.mod_eq_of_lt small]
      exact natBits_bitsVal [b0, b1, b2, b3, b4, b5, b6, b7]
    simp only [List.length_cons] at aligned
    rw [bytesOfBits, payloadBits, chunk, ih (by omega)]
    rfl
  | case2 => rfl
  | case3 part short empty =>
    exfalso
    match part, short, empty with
    | [_], _, _ | [_, _], _, _ | [_, _, _], _, _ | [_, _, _, _], _, _
    | [_, _, _, _, _], _, _ | [_, _, _, _, _, _], _, _ | [_, _, _, _, _, _, _], _, _ =>
      simp at aligned
    | _ :: _ :: _ :: _ :: _ :: _ :: _ :: _ :: _, short, _ => exact short _ _ _ _ _ _ _ _ _ rfl

end Ipmi
