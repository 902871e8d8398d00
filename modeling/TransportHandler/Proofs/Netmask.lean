import TransportHandler.Handler.Netmask
import Mathlib.Data.Nat.Bitwise
import Mathlib.Tactic.IntervalCases

/-!
# Netmasks and prefixes are inverse
-/

namespace Ipmi.Transport

/-- A number with no bit in common with its successor is a run of ones. -/
theorem land_succ_eq_zero (y : Nat) (h : y &&& (y + 1) = 0) : ∃ k, y = 2 ^ k - 1 := by
  induction y using Nat.binaryRec with
  | z => exact ⟨0, rfl⟩
  | f b m ih =>
    cases b with
    | false =>
      have next : Nat.bit false m + 1 = Nat.bit true m := by simp [Nat.bit_val]
      rw [next, Nat.land_bit, Nat.and_self] at h
      simp only [Nat.bit_val, Bool.false_and, Bool.toNat_false] at h ⊢
      exact ⟨0, by omega⟩
    | true =>
      have next : Nat.bit true m + 1 = Nat.bit false (m + 1) := by simp [Nat.bit_val]; omega
      rw [next, Nat.land_bit] at h
      have low : m &&& (m + 1) = 0 := by simp only [Nat.bit_val] at h; omega
      obtain ⟨k, rfl⟩ := ih low
      refine ⟨k + 1, ?_⟩
      have := Nat.one_le_two_pow (n := k)
      simp only [Nat.bit_val, Bool.toNat_true, Nat.pow_succ]
      omega

theorem htobe32_be32toh (a : Addr .inet) : htobe32 (be32toh a) = a := by
  match a with
  | ⟨[b0, b1, b2, b3], _⟩ =>
    have h0 := b0.toNat_lt_size
    have h1 := b1.toNat_lt_size
    have h2 := b2.toNat_lt_size
    have h3 := b3.toNat_lt_size
    simp only [UInt8.size] at h0 h1 h2 h3
    apply Subtype.ext
    simp only [htobe32, be32toh, Mathlib.Vector.toList_mk, List.foldl, BitVec.toNat_ofNat, List.cons.injEq,
      and_true]
    refine ⟨UInt8.toNat.inj ?_, UInt8.toNat.inj ?_, UInt8.toNat.inj ?_, UInt8.toNat.inj ?_⟩ <;>
      simp only [uint8_toNat_ofNat] <;> omega

/-- The words the contiguity test of `netmaskToPrefix` accepts. -/
theorem contiguous_word {x : BitVec 32} (h : ~~~x &&& (~~~x + 1) = 0) :
    ∃ k ≤ 32, x = ~~~(BitVec.ofNat 32 (2 ^ k - 1)) := by
  have bound : (~~~x).toNat < 2 ^ 32 := (~~~x).isLt
  have word := congrArg BitVec.toNat h
  have one : (1 : BitVec 32).toNat = 1 := rfl
  have zero : (0 : BitVec 32).toNat = 0 := rfl
  simp only [BitVec.toNat_and, BitVec.toNat_add, one, zero] at word
  have back : x = ~~~(~~~x) := (BitVec.not_not).symm
  by_cases top : (~~~x).toNat = 2 ^ 32 - 1
  · refine ⟨32, le_rfl, back.trans (congrArg _ (BitVec.eq_of_toNat_eq ?_))⟩
    simp [top]
  · have wrapped : ((~~~x).toNat + 1) % 2 ^ 32 = (~~~x).toNat + 1 := Nat.mod_eq_of_lt (by omega)
    rw [wrapped] at word
    obtain ⟨k, ones⟩ := land_succ_eq_zero _ word
    have small : 2 ^ k ≤ 2 ^ 32 := by have := Nat.one_le_two_pow (n := k); omega
    refine ⟨k, (Nat.pow_le_pow_iff_right (by decide)).mp small, back.trans (congrArg _ (BitVec.eq_of_toNat_eq ?_))⟩
    simp only [BitVec.toNat_ofNat, ones]
    exact (Nat.mod_eq_of_lt (by omega)).symm

theorem prefixToNetmask_of_netmaskToPrefix {netmask : Addr .inet} {p : Nat}
    (h : netmaskToPrefix netmask = some p) : prefixToNetmask p = some netmask := by
  unfold netmaskToPrefix at h
  dsimp only at h
  split at h
  · cases h
  · rename_i contiguous
    obtain ⟨k, bound, word⟩ := contiguous_word (not_not.mp contiguous)
    have key : prefixToNetmask (if be32toh netmask ≠ 0 then Family.inet.defaultPrefix - ctz (be32toh netmask) else 0) =
        some (htobe32 (be32toh netmask)) := by
      rw [word]
      interval_cases k <;> rfl
    rwa [htobe32_be32toh, Option.some.inj h] at key

theorem prefixToNetmask_isSome (p : Nat) : (prefixToNetmask p).isSome ↔ p ≤ 32 := by
  unfold prefixToNetmask
  split_ifs <;> simp only [Option.isSome_none, Option.isSome_some, Bool.false_eq_true, false_iff, true_iff] <;>
    omega

theorem netmaskToPrefix_prefixToNetmask {p : Nat} {netmask : Addr .inet} (h : prefixToNetmask p = some netmask) :
    netmaskToPrefix netmask = some p := by
  have bound : p ≤ 32 := (prefixToNetmask_isSome p).mp (by rw [h]; rfl)
  have roundTrip : (prefixToNetmask p).bind netmaskToPrefix = some p := by
    interval_cases p <;> rfl
  rwa [h, Option.some_bind] at roundTrip

/-- `netmaskToPrefix` inverts `prefixToNetmask` on the prefixes 0..32. -/
theorem netmask_prefix_inverse :
    (∀ (netmask : Addr .inet) (p : Nat),
      netmaskToPrefix netmask = some p ↔ p ≤ 32 ∧ prefixToNetmask p = some netmask) ∧
      ∀ p : Nat, (prefixToNetmask p).isSome ↔ p ≤ 32 := by
  refine ⟨fun netmask p => ⟨fun accepted => ?_, fun ⟨_, built⟩ => netmaskToPrefix_prefixToNetmask built⟩,
    prefixToNetmask_isSome⟩
  have built := prefixToNetmask_of_netmaskToPrefix accepted
  exact ⟨(prefixToNetmask_isSome p).mp (by rw [built]; rfl), built⟩

end Ipmi.Transport
