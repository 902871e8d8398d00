import TransportHandler.Proofs.Isolation

/-!
# The VLANId word

A 12-bit id, three reserved bits and the enable bit; a disabled id is stored before the
teardown.
-/

namespace Ipmi.Transport

theorem lor_two_pow_of_lt {x k : Nat} (h : x < 2 ^ k) : x ||| 2 ^ k = 2 ^ k + x := by
  apply Nat.eq_of_testBit_eq
  intro i
  rw [Nat.testBit_or, Nat.testBit_two_pow]
  rcases Nat.lt_trichotomy i k with below | rfl | above
  · rw [Nat.testBit_two_pow_add_gt below]
    simp [Nat.ne_of_gt below]
  · rw [Nat.testBit_two_pow_add_eq, Nat.testBit_lt_two_pow h]
    simp
  · have big : 2 ^ k + x < 2 ^ i := by
      have := Nat.pow_le_pow_right (show 0 < 2 by decide) above
      rw [Nat.pow_succ] at this
      omega
    rw [Nat.testBit_lt_two_pow big, Nat.testBit_lt_two_pow (h.trans (Nat.pow_lt_pow_right (by decide) above))]
    simp [Nat.ne_of_lt above]

theorem vlanFields_natBits (w : Nat) :
    unpackExact (do return (← unpackBits 12, ← unpackBits 3, ← unpackBool)) (bytesOfBits (natBits 16 w)) =
      some (w % 2 ^ 12, w / 2 ^ 12 % 2 ^ 3, w / 2 ^ 15 % 2 == 1) := by
  have layout : natBits 16 w = natBits 12 w ++ (natBits 3 (w / 2 ^ 12) ++ (natBits 1 (w / 2 ^ 15) ++ [])) := by
    rw [List.append_nil, show w / 2 ^ 15 = w / 2 ^ 12 / 2 ^ 3 by rw [Nat.div_div_eq_div_mul, ← Nat.pow_add],
      ← natBits_add, ← natBits_add]
  rw [unpackExact, payloadBits_bytesOfBits _ (by simp), layout]
  simp only [StateT.run_bind, unpackBits_natBits, unpackBool_bit, Option.bind_eq_bind, Option.some_bind,
    StateT.run_pure]

/-! ### What Set VLANId does with a word -/

theorem setLanVlanId_disable (P : Platform) (channel id : Nat) (small : id < 2 ^ 12) :
    SetLan.vlanId P channel (bytesOfBits (natBits 16 id)) =
      storeLastDisabledVlan channel id >>= fun _ =>
        discard (onNet (channelCall P channel (reconfigureVLAN P · 0))) >>= fun _ => pure responseSuccess := by
  have low : id % 2 ^ 12 = id := Nat.mod_eq_of_lt small
  have reserved : id / 2 ^ 12 % 2 ^ 3 = 0 := by rw [Nat.div_eq_of_lt small, Nat.zero_mod]
  have enable : id / 2 ^ 15 % 2 = 0 := by rw [Nat.div_eq_of_lt (by omega), Nat.zero_mod]
  simp only [SetLan.vlanId, vlanFields_natBits, low, reserved, enable]
  rfl

theorem setLanVlanId_enable (P : Platform) (channel id : Nat) (nonzero : 0 < id)
    (belowMask : id < VLAN_VALUE_MASK) :
    SetLan.vlanId P channel (bytesOfBits (natBits 16 (id ||| VLAN_ENABLE_FLAG))) =
      discard (onNet (channelCall P channel (reconfigureVLAN P · id))) >>= fun _ => pure responseSuccess := by
  have word : id ||| VLAN_ENABLE_FLAG = 2 ^ 15 + id :=
    lor_two_pow_of_lt (k := 15) (by simp only [VLAN_VALUE_MASK] at belowMask; omega)
  have low : (2 ^ 15 + id) % 2 ^ 12 = id := by simp only [VLAN_VALUE_MASK] at belowMask; omega
  have reserved : (2 ^ 15 + id) / 2 ^ 12 % 2 ^ 3 = 0 := by simp only [VLAN_VALUE_MASK] at belowMask; omega
  have enable : (2 ^ 15 + id) / 2 ^ 15 % 2 = 1 := by simp only [VLAN_VALUE_MASK] at belowMask; omega
  have valid : ¬ (id = 0 ∨ id = VLAN_VALUE_MASK) := by omega
  simp only [SetLan.vlanId, word, vlanFields_natBits, low, reserved, enable, valid]
  rfl

/-- The disabled id is stored before anything that can fail. -/
theorem disabled_id_stored (P : Platform) (ctxChannel channelBits id : Nat) (small : id < 2 ^ 12)
    (s : State) (valid : P.isValidChannel (P.convertCurrentChannelNum channelBits ctxChannel)) :
    (setLan P ctxChannel channelBits 0 20 (bytesOfBits (natBits 16 id)) s).2.lastDisabledVlan
      (P.convertCurrentChannelNum channelBits ctxChannel) = some id := by
  rw [setLan_param (show LanParam.ofNat? 20 = some .vlanId from rfl), if_pos valid, setLanParam,
    setLanVlanId_disable P _ id small, StM.bind_ok (show storeLastDisabledVlan _ id s = _ from rfl)]
  have kept : Keeps (·.lastDisabledVlan)
      (discard (onNet (channelCall P (P.convertCurrentChannelNum channelBits ctxChannel) (reconfigureVLAN P · 0))) >>=
        fun _ => pure responseSuccess) :=
    Keeps.bind (Keeps.bind (Keeps.onNet _ fun _ _ => rfl) fun _ => Keeps.pure _) fun _ => Keeps.pure _
  exact (congrFun (kept _) _).trans (Function.update_same _ _ _)

/-! ### A disable that fails -/

/-- Channel 1 on `eth0`, whose service refuses every property write. -/
def refusingPlatform : Platform := .ofNames [(1, "eth0")] 15 15

def refusingState : State :=
  .init (.ofObjs [⟨.iface "eth0", .ethernet .none (Mathlib.Vector.replicate 6 2)⟩] none none [.setProperty]
    (by decide) (by decide)) ⟨[], none⟩

/-- Bug: a Set VLANId that fails still changes the word Get VLANId reports. -/
theorem failed_disable_changes_vlan_word :
    respond (getLan refusingPlatform 1 1 0 false 20 0 0 refusingState).1 =
        responseSuccess (natBits 8 current_revision ++ natBits 16 0) ∧
      respond (setLan refusingPlatform 1 1 0 20 [9, 0] refusingState).1 = response ccUnspecifiedError ∧
      respond (getLan refusingPlatform 1 1 0 false 20 0 0 (setLan refusingPlatform 1 1 0 20 [9, 0] refusingState).2).1 =
        responseSuccess (natBits 8 current_revision ++ natBits 16 9) := by
  decide

end Ipmi.Transport
