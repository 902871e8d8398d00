import TransportHandler.Proofs.Calls
import TransportHandler.Handler.Sol

/-!
# What the handlers leave alone

A Get changes nothing a client or a service can see, and a request refused with a
protocol-level code is refused before the handler's first write.
-/

namespace Ipmi.Transport

variable {σ α β γ : Type}

/-! ### Responses after the first write -/

/-- Every response `m` returns has a code that is not protocol-level. -/
def Loud (m : StM σ Rsp) : Prop := ∀ s r s', m s = (.ok r, s') → r.cc.protocolLevel = false

/-- A protocol-level response from `m` leaves the `view` of the state as it found it. -/
def Quiet (view : σ → β) (m : StM σ Rsp) : Prop :=
  ∀ s r s', m s = (.ok r, s') → r.cc.protocolLevel → view s' = view s

namespace Loud

theorem pure {r : Rsp} (loud : r.cc.protocolLevel = false) : Loud (Pure.pure r : StM σ Rsp) := by
  intro s r' s' ran
  cases ran
  exact loud

theorem success : Loud (Pure.pure responseSuccess : StM σ Rsp) := pure rfl

theorem unspecified : Loud (Pure.pure (response ccUnspecifiedError) : StM σ Rsp) := pure rfl

theorem throw (e : Exn) : Loud (MonadExcept.throw e : StM σ Rsp) := by
  intro s r s' ran
  cases ran

theorem bind {m : StM σ α} {k : α → StM σ Rsp} (rest : ∀ a, Loud (k a)) : Loud (m >>= k) := by
  intro s r s' ran
  obtain ⟨a, s1, -, later⟩ := StM.bind_eq_ok ran
  exact rest a s1 r s' later

end Loud

namespace Quiet

variable {view : σ → β}

theorem of_loud {m : StM σ Rsp} (loud : Loud m) : Quiet view m := by
  intro s r s' ran protocol
  rw [loud s r s' ran] at protocol
  cases protocol

theorem pure (r : Rsp) : Quiet view (Pure.pure r : StM σ Rsp) := by
  intro s r' s' ran _
  cases ran
  rfl

theorem throw (e : Exn) : Quiet view (MonadExcept.throw e : StM σ Rsp) := of_loud (Loud.throw e)

theorem bind {m : StM σ α} {k : α → StM σ Rsp}
    (first : ∀ s a s', m s = (.ok a, s') → view s' = view s) (rest : ∀ a, Quiet view (k a)) :
    Quiet view (m >>= k) := by
  intro s r s' ran protocol
  obtain ⟨a, s1, ran1, later⟩ := StM.bind_eq_ok ran
  exact (rest a s1 r s' later protocol).trans (first s a s1 ran1)

theorem map (g : β → γ) {m : StM σ Rsp} (quiet : Quiet view m) : Quiet (g ∘ view) m :=
  fun s r s' ran protocol => congrArg g (quiet s r s' ran protocol)

theorem onNet {view : State → β} {m : NetM Rsp} (quiet : Quiet id m) : Quiet view (Transport.onNet m) := by
  intro s r s' ran protocol
  have answered : (m s.net).1 = .ok r := congrArg Prod.fst ran
  have after : { s with net := (m s.net).2 } = s' := congrArg Prod.snd ran
  have unchanged : (m s.net).2 = s.net := quiet s.net r _ (Prod.ext answered rfl) protocol
  rw [← after, unchanged]

theorem onSol {view : State → β} {m : SolM Rsp} (quiet : Quiet id m) : Quiet view (Transport.onSol m) := by
  intro s r s' ran protocol
  have answered : (m s.sol).1 = .ok r := congrArg Prod.fst ran
  have after : { s with sol := (m s.sol).2 } = s' := congrArg Prod.snd ran
  have unchanged : (m s.sol).2 = s.sol := quiet s.sol r _ (Prod.ext answered rfl) protocol
  rw [← after, unchanged]

end Quiet

theorem ReadOnly.onOk {m : StM σ α} (reads : ReadOnly m) : ∀ n a n', m n = (.ok a, n') → id n' = id n :=
  fun n _ _ ran => by rw [← reads n, ran]

theorem Quiet.of_still {view : State → β} {m : M Rsp} (still : Keeps id m) : Quiet view m :=
  fun s _ s' ran _ => by
    have unchanged : (m s).2 = s := still s
    rw [ran] at unchanged
    exact congrArg view unchanged

theorem Keeps.onOk {view : State → β} {m : M α} (keeps : Keeps view m) :
    ∀ s a s', m s = (.ok a, s') → view s' = view s :=
  fun s _ _ ran => by rw [← keeps s, ran]

theorem Keeps.map {view : State → β} (g : β → γ) {m : M α} (keeps : Keeps view m) : Keeps (g ∘ view) m :=
  fun s => congrArg g (keeps s)

theorem Keeps.onNet_readOnly {view : State → β} {m : NetM α} (reads : ReadOnly m) :
    Keeps view (Transport.onNet m) := fun s => by
  show view { s with net := (m s.net).2 } = view s
  rw [reads s.net]

theorem Keeps.onSol_readOnly {view : State → β} {m : SolM α} (reads : ReadOnly m) :
    Keeps view (Transport.onSol m) := fun s => by
  show view { s with sol := (m s.sol).2 } = view s
  rw [reads s.sol]

/-! ### What a client and the services see -/

/-- The state as far as a Get can change it. -/
def State.visible (s : State) : (Nat → Option SetStatus) × (Nat → Nat) × Net × SolService :=
  (s.setStatus, fun c => (s.lastDisabledVlan c).getD 0, s.net, s.sol)

/-- What a client and the services can see: reported SetStatus and VLAN ids, and both services. -/
def State.observe (s : State) : (Nat → SetStatus) × (Nat → Nat) × Net × SolService :=
  (fun c => (s.setStatus c).getD .complete, fun c => (s.lastDisabledVlan c).getD 0, s.net, s.sol)

theorem State.observe_of_visible : State.observe =
    (fun v : (Nat → Option SetStatus) × (Nat → Nat) × Net × SolService =>
      (fun c => (v.1 c).getD .complete, v.2)) ∘ State.visible := rfl

/-! ### The maps' readers -/

theorem readSetStatus_keeps (channel : Nat) : Keeps id (readSetStatus channel) := fun _ => rfl

theorem readCipherList_keeps : Keeps id readCipherList := fun _ => rfl

theorem readLastDisabledVlan_visible (channel : Nat) : Keeps State.visible (readLastDisabledVlan channel) := by
  intro s
  unfold readLastDisabledVlan
  split
  · rfl
  · rename_i none
    simp only [State.visible, Prod.mk.injEq, and_true, true_and]
    funext c
    by_cases here : c = channel
    · subst here
      simp [none]
    · simp [here]

theorem loadCipherList_visible (P : Platform) : Keeps State.visible (loadCipherList P) := by
  intro s
  rw [loadCipherList_run]
  rfl

theorem Keeps.of_id {view : State → β} {m : M α} (keeps : Keeps id m) : Keeps view m :=
  fun s => congrArg view (keeps s)

/-! ### The network service's readers -/

theorem getDHCPProperty_readOnly (params : ChannelParams) : ReadOnly (getDHCPProperty params) :=
  ReadOnly.readNet _

theorem getMACProperty_readOnly (params : ChannelParams) : ReadOnly (getMACProperty params) :=
  ReadOnly.readNet _

theorem getGatewayProperty_readOnly (f : Family) (params : ChannelParams) :
    ReadOnly (getGatewayProperty f params) :=
  ReadOnly.readNet _

/-! ### Get LAN Configuration Parameters -/

section Get

variable (P : Platform) (channel set : Nat) (ret : List Bool)

theorem ciphersuite_visible (entries : Bool) : Keeps State.visible (GetLan.ciphersuite P channel ret entries) := by
  unfold GetLan.ciphersuite
  dsimp only
  split
  · exact Keeps.pure _
  · refine Keeps.bind (Keeps.pure _) fun _ => Keeps.bind (Keeps.of_id readCipherList_keeps) fun found => ?_
    split
    · split
      · exact Keeps.pure _
      · exact Keeps.bind (Keeps.pure _) fun _ => Keeps.pure _
    · exact Keeps.pure _

theorem ipv6Addresses_visible (limit : Nat) (origins : List AddressOrigin) :
    Keeps State.visible (GetLan.ipv6Addresses P channel ret set limit origins) := by
  unfold GetLan.ipv6Addresses
  split
  · exact Keeps.pure _
  · exact Keeps.bind (Keeps.pure _) fun _ =>
      Keeps.bind (Keeps.onNet_readOnly (getLanIPv6Address_readOnly _ _ _ _)) fun _ => Keeps.pure _

theorem getLanParam_visible (param : LanParam) : Keeps State.visible (getLanParam P channel set ret param) := by
  cases param with
  | setStatus => exact Keeps.bind (Keeps.of_id (readSetStatus_keeps _)) fun _ => Keeps.pure _
  | authSupport | authEnables | ipFamilySupport | ipFamilyEnables | ipv6Status
    | ipv6StaticRouter1PrefixLength | ipv6StaticRouter1PrefixValue => exact Keeps.pure _
  | ip =>
    exact Keeps.onNet_readOnly (ReadOnly.bind (channelCall_readOnly fun _ => getIfAddr_readOnly _ _ _ _)
      fun _ => ReadOnly.pure _)
  | ipSrc | ipv6RouterControl =>
    exact Keeps.onNet_readOnly (ReadOnly.bind (channelCall_readOnly getDHCPProperty_readOnly)
      fun _ => ReadOnly.pure _)
  | mac =>
    exact Keeps.onNet_readOnly (ReadOnly.bind (channelCall_readOnly getMACProperty_readOnly)
      fun _ => ReadOnly.pure _)
  | subnetMask =>
    refine Keeps.onNet_readOnly (ReadOnly.bind (channelCall_readOnly fun _ => getIfAddr_readOnly _ _ _ _)
      fun _ => ?_)
    dsimp only
    split
    · exact ReadOnly.pure _
    · exact ReadOnly.throw _
  | gateway1 =>
    exact Keeps.onNet_readOnly (ReadOnly.bind (channelCall_readOnly (getGatewayProperty_readOnly _))
      fun _ => ReadOnly.pure _)
  | gateway1MAC | ipv6StaticRouter1MAC =>
    exact Keeps.onNet_readOnly (ReadOnly.bind (channelCall_readOnly (getGatewayNeighbor_readOnly _))
      fun _ => ReadOnly.pure _)
  | vlanId =>
    refine Keeps.bind (Keeps.onNet_readOnly (channelCall_readOnly getVLANProperty_readOnly)) fun vlan => ?_
    dsimp only
    split
    · exact Keeps.bind (Keeps.pure _) fun _ => Keeps.pure _
    · exact Keeps.bind (readLastDisabledVlan_visible _) fun _ => Keeps.pure _
  | ciphersuiteSupport | ciphersuiteEntries => exact ciphersuite_visible P channel ret _
  | ipv6StaticAddresses | ipv6DynamicAddresses => exact ipv6Addresses_visible P channel set ret _ _
  | ipv6StaticRouter1IP =>
    refine Keeps.onNet_readOnly (ReadOnly.bind (channelCall_readOnly getDHCPProperty_readOnly) fun _ => ?_)
    dsimp only
    split
    · exact ReadOnly.bind (channelCall_readOnly (getGatewayProperty_readOnly _)) fun _ => ReadOnly.pure _
    · exact ReadOnly.pure _
  | cipherSuitePrivilegeLevels =>
    show Keeps _ (GetLan.cipherSuitePrivilegeLevels P channel ret)
    unfold GetLan.cipherSuitePrivilegeLevels
    split <;> exact Keeps.pure _

end Get

theorem getLan_visible (P : Platform) (ctxChannel channelBits reserved : Nat) (revOnly : Bool)
    (parameter set block : Nat) :
    Keeps State.visible (getLan P ctxChannel channelBits reserved revOnly parameter set block) := by
  unfold getLan
  dsimp only
  split
  · exact Keeps.pure _
  · refine Keeps.bind (Keeps.pure _) fun _ => ?_
    split
    · exact Keeps.pure _
    · refine Keeps.bind (Keeps.pure _) fun _ => Keeps.bind (loadCipherList_visible P) fun _ => ?_
      split
      · exact getLanParam_visible P _ _ _ _
      · split
        · exact Keeps.bind (Keeps.pure _) fun _ => Keeps.pure _
        · exact Keeps.pure _

/-! ### Set LAN Configuration Parameters -/

theorem getSetStatus_observe (channel : Nat) : Keeps State.observe (getSetStatus channel) := by
  intro s
  unfold getSetStatus
  split
  · rfl
  · rename_i none
    simp only [State.observe, Prod.mk.injEq, and_true]
    funext c
    by_cases here : c = channel
    · subst here
      simp [none]
    · simp [here]

theorem Loud.call_success {α : Type} (m : NetM α) : Loud (m >>= fun _ => Pure.pure responseSuccess) :=
  Loud.bind fun _ => Loud.success

theorem Keeps.discard {view : State → β} {m : M α} (keeps : Keeps view m) : Keeps view (discard m) :=
  Keeps.bind keeps fun _ => Keeps.pure _

theorem storeLastDisabledVlan_setStatus (channel vlan : Nat) :
    Keeps (·.setStatus) (storeLastDisabledVlan channel vlan) := fun _ => rfl

section Set

variable (P : Platform) (channel : Nat) (req : List UInt8)

/-! The cases that answer from the request alone. -/

theorem ipFamilyEnables_keeps : Keeps id (SetLan.ipFamilyEnables req) := by
  unfold SetLan.ipFamilyEnables
  split
  · split <;> exact Keeps.pure _
  · exact Keeps.pure _

theorem ipv6StaticRouter1PrefixLength_keeps : Keeps id (SetLan.ipv6StaticRouter1PrefixLength req) := by
  unfold SetLan.ipv6StaticRouter1PrefixLength
  dsimp only [StM.pure_bind]
  split
  · split <;> exact Keeps.pure _
  · exact Keeps.pure _

theorem ipv6StaticRouter1PrefixValue_keeps : Keeps id (SetLan.ipv6StaticRouter1PrefixValue req) := by
  unfold SetLan.ipv6StaticRouter1PrefixValue
  split <;> exact Keeps.pure _

theorem cipherSuitePrivilegeLevels_keeps : Keeps id (SetLan.cipherSuitePrivilegeLevels P channel req) := by
  unfold SetLan.cipherSuitePrivilegeLevels
  dsimp only [StM.pure_bind]
  split
  · split
    · exact Keeps.pure _
    · split <;> exact Keeps.pure _
  · exact Keeps.pure _

theorem setLanParam_setStatus (param : LanParam) (other : param ≠ .setStatus) :
    Keeps (·.setStatus) (setLanParam P channel req param) := by
  cases param with
  | setStatus => exact absurd rfl other
  | ip | ipSrc | mac | subnetMask | gateway1 | gateway1MAC | ipv6StaticAddresses | ipv6RouterControl
    | ipv6StaticRouter1IP | ipv6StaticRouter1MAC => exact Keeps.onNet _ fun _ _ => rfl
  | authSupport | authEnables | ciphersuiteSupport | ciphersuiteEntries | ipFamilySupport | ipv6Status
    | ipv6DynamicAddresses => exact Keeps.pure _
  | vlanId =>
    show Keeps _ (SetLan.vlanId P channel req)
    unfold SetLan.vlanId
    dsimp only [StM.pure_bind]
    split
    · split
      · exact Keeps.pure _
      · have teardown : ∀ vlan, Keeps (·.setStatus)
            (discard (onNet (channelCall P channel (reconfigureVLAN P · vlan)))) :=
          fun _ => Keeps.discard (Keeps.onNet _ fun _ _ => rfl)
        split
        · exact Keeps.bind (storeLastDisabledVlan_setStatus _ _) fun _ =>
            Keeps.bind (teardown _) fun _ => Keeps.pure _
        · split
          · exact Keeps.pure _
          · exact Keeps.bind (teardown _) fun _ => Keeps.pure _
    · exact Keeps.pure _
  | ipFamilyEnables => exact Keeps.of_id (ipFamilyEnables_keeps req)
  | ipv6StaticRouter1PrefixLength => exact Keeps.of_id (ipv6StaticRouter1PrefixLength_keeps req)
  | ipv6StaticRouter1PrefixValue => exact Keeps.of_id (ipv6StaticRouter1PrefixValue_keeps req)
  | cipherSuitePrivilegeLevels => exact Keeps.of_id (cipherSuitePrivilegeLevels_keeps P channel req)

theorem setStatus_quiet : Quiet State.observe (SetLan.setStatus channel req) := by
  unfold SetLan.setStatus
  dsimp only [StM.pure_bind]
  split
  · split
    · exact Quiet.pure _
    · split
      · exact Quiet.of_loud (Loud.bind fun _ => Loud.success)
      · refine Quiet.bind (Keeps.onOk (getSetStatus_observe _)) fun _ => ?_
        split
        · exact Quiet.pure _
        · exact Quiet.of_loud (Loud.bind fun _ => Loud.success)
      · refine Quiet.bind (Keeps.onOk (getSetStatus_observe _)) fun _ => ?_
        split <;> exact Quiet.pure _
      · exact Quiet.pure _
  · exact Quiet.pure _

theorem setLanParam_quiet (param : LanParam) : Quiet State.observe (setLanParam P channel req param) := by
  have dhcpRead : ∀ n a n', channelCall P channel getDHCPProperty n = (.ok a, n') → id n' = id n :=
    ReadOnly.onOk (channelCall_readOnly getDHCPProperty_readOnly)
  cases param with
  | setStatus => exact setStatus_quiet channel req
  | authSupport | authEnables | ciphersuiteSupport | ciphersuiteEntries | ipFamilySupport | ipv6Status
    | ipv6DynamicAddresses => exact Quiet.pure _
  | ip | subnetMask | gateway1 =>
    refine Quiet.onNet (Quiet.bind dhcpRead fun _ => ?_)
    dsimp only [StM.pure_bind]
    repeat' split
    all_goals first
      | with_reducible exact Quiet.pure _
      | with_reducible exact Quiet.throw _
      | exact Quiet.of_loud (Loud.call_success _)
  | ipSrc | mac | ipv6StaticAddresses | gateway1MAC | ipv6StaticRouter1MAC | ipv6StaticRouter1IP =>
    refine Quiet.onNet ?_
    show Quiet id (_ : NetM Rsp)
    dsimp only [StM.pure_bind]
    repeat' split
    all_goals first | with_reducible exact Quiet.pure _ | exact Quiet.of_loud (Loud.call_success _)
  | vlanId =>
    show Quiet _ (SetLan.vlanId P channel req)
    unfold SetLan.vlanId
    dsimp only [StM.pure_bind]
    split
    · split
      · exact Quiet.pure _
      · split
        · exact Quiet.of_loud (Loud.bind fun _ => Loud.bind fun _ => Loud.success)
        · split
          · exact Quiet.pure _
          · exact Quiet.of_loud (Loud.bind fun _ => Loud.success)
    · exact Quiet.pure _
  | ipv6RouterControl =>
    refine Quiet.onNet ?_
    show Quiet id (_ : NetM Rsp)
    split
    · refine Quiet.bind dhcpRead fun _ => ?_
      dsimp only [StM.pure_bind]
      split <;> split <;> exact Quiet.pure _
    · exact Quiet.pure _
  | ipFamilyEnables => exact Quiet.of_still (ipFamilyEnables_keeps req)
  | ipv6StaticRouter1PrefixLength => exact Quiet.of_still (ipv6StaticRouter1PrefixLength_keeps req)
  | ipv6StaticRouter1PrefixValue => exact Quiet.of_still (ipv6StaticRouter1PrefixValue_keeps req)
  | cipherSuitePrivilegeLevels => exact Quiet.of_still (cipherSuitePrivilegeLevels_keeps P channel req)

end Set

theorem LanParam.ofNat?_setStatus {parameter : Nat} (h : LanParam.ofNat? parameter = some .setStatus) :
    parameter = 0 := by
  unfold LanParam.ofNat? at h
  split at h <;> first | rfl | cases h

theorem setLan_setStatus (P : Platform) (ctxChannel channelBits reserved parameter : Nat) (req : List UInt8)
    (other : parameter ≠ 0) : Keeps (·.setStatus) (setLan P ctxChannel channelBits reserved parameter req) := by
  unfold setLan
  dsimp only [StM.pure_bind]
  split
  · exact Keeps.pure _
  · split
    · rename_i param selects
      exact setLanParam_setStatus P _ req param fun same => other (LanParam.ofNat?_setStatus (same ▸ selects))
    · split
      · exact Keeps.bind (Keeps.pure _) fun _ => Keeps.pure _
      · exact Keeps.pure _

/-- Set LAN answers with a protocol-level code only before its first write. -/
theorem setLan_quiet (P : Platform) (ctxChannel channelBits reserved parameter : Nat) (req : List UInt8) :
    Quiet State.observe (setLan P ctxChannel channelBits reserved parameter req) := by
  unfold setLan
  dsimp only [StM.pure_bind]
  split
  · exact Quiet.pure _
  · split
    · exact setLanParam_quiet P _ req _
    · split
      · exact Quiet.bind (Keeps.onOk (Keeps.pure _)) fun _ => Quiet.pure _
      · exact Quiet.pure _

/-! ### The SOL configuration parameters -/

theorem getSOLParameter_readOnly (P : Platform) (property : String) (channelNum : Nat) :
    ReadOnly (getSOLParameter P property channelNum) := fun _ => rfl

theorem getSOLBaudRate_readOnly : ReadOnly getSOLBaudRate := fun _ => rfl

theorem Value.getU8_readOnly (v : Value) : ReadOnly v.getU8 := by
  cases v <;> exact fun _ => rfl

theorem Value.getBool_readOnly (v : Value) : ReadOnly v.getBool := by
  cases v <;> exact fun _ => rfl

theorem Loud.solWrite (write : SolM Bool) {rest : SolM Rsp} (loud : Loud rest) :
    Loud (write >>= fun ok => if (!ok) = true then Pure.pure (response ccUnspecifiedError) else rest) :=
  Loud.bind fun ok => by
    split
    · exact Loud.unspecified
    · exact loud

section Sol

variable (P : Platform) (channelNum configParamData1 : Nat) (configParamData2 : Option Nat)

theorem setSolProgress_quiet : Quiet id (SetSol.progress P channelNum configParamData1 configParamData2) := by
  unfold SetSol.progress
  dsimp only [StM.pure_bind]
  split
  · exact Quiet.pure _
  · refine Quiet.bind (ReadOnly.onOk (getSOLParameter_readOnly _ _ _)) fun found => ?_
    split
    · refine Quiet.bind (ReadOnly.onOk (Value.getU8_readOnly _)) fun _ => ?_
      split
      · exact Quiet.pure _
      · exact Quiet.of_loud (Loud.solWrite _ Loud.success)
    · exact Quiet.pure _

theorem setSolEnable_quiet : Quiet id (SetSol.enable P channelNum configParamData1 configParamData2) := by
  unfold SetSol.enable
  dsimp only [StM.pure_bind]
  split
  · exact Quiet.pure _
  · exact Quiet.of_loud (Loud.solWrite _ Loud.success)

theorem setSolAuthentication_quiet :
    Quiet id (SetSol.authentication P channelNum configParamData1 configParamData2) := by
  unfold SetSol.authentication
  dsimp only [StM.pure_bind]
  split
  · exact Quiet.pure _
  · split
    · exact Quiet.pure _
    · exact Quiet.of_loud (Loud.solWrite _ Loud.success)

theorem setSolAccumulate_quiet : Quiet id (SetSol.accumulate P channelNum configParamData1 configParamData2) := by
  unfold SetSol.accumulate
  dsimp only [StM.pure_bind]
  split
  · split
    · exact Quiet.pure _
    · exact Quiet.of_loud (Loud.solWrite _ (Loud.solWrite _ Loud.success))
  · exact Quiet.pure _

theorem setSolRetry_quiet : Quiet id (SetSol.retry P channelNum configParamData1 configParamData2) := by
  unfold SetSol.retry
  dsimp only [StM.pure_bind]
  split
  · exact Quiet.of_loud (Loud.solWrite _ (Loud.solWrite _ Loud.success))
  · exact Quiet.pure _

theorem getSolProperties_readOnly (first : String) (read : Value → SolM Nat) (second : Option String)
    (reads : ∀ v, ReadOnly (read v)) : ReadOnly (GetSol.properties P channelNum first read second) := by
  unfold GetSol.properties
  refine ReadOnly.bind (getSOLParameter_readOnly _ _ _) fun found => ?_
  split
  · split
    · exact ReadOnly.bind (reads _) fun _ => ReadOnly.pure _
    · refine ReadOnly.bind (getSOLParameter_readOnly _ _ _) fun found => ?_
      split
      · exact ReadOnly.bind (reads _) fun _ => ReadOnly.bind (Value.getU8_readOnly _) fun _ => ReadOnly.pure _
      · exact ReadOnly.pure _
  · exact ReadOnly.pure _

theorem getSolAuthentication_readOnly : ReadOnly (GetSol.authentication P channelNum) := by
  unfold GetSol.authentication
  refine ReadOnly.bind (getSOLParameter_readOnly _ _ _) fun found => ?_
  split
  · refine ReadOnly.bind (Value.getU8_readOnly _) fun _ => ReadOnly.bind (getSOLParameter_readOnly _ _ _) fun found => ?_
    split
    · refine ReadOnly.bind (Value.getBool_readOnly _) fun _ => ReadOnly.bind (getSOLParameter_readOnly _ _ _)
        fun found => ?_
      split
      · exact ReadOnly.bind (Value.getBool_readOnly _) fun _ => ReadOnly.pure _
      · exact ReadOnly.pure _
    · exact ReadOnly.pure _
  · exact ReadOnly.pure _

theorem getSolBitrate_readOnly : ReadOnly GetSol.bitrate := by
  unfold GetSol.bitrate
  refine ReadOnly.bind getSOLBaudRate_readOnly fun found => ?_
  split
  · split
    · exact ReadOnly.pure _
    · exact ReadOnly.throw _
  · exact ReadOnly.pure _

end Sol

theorem setSOLConfParams_quiet (P : Platform) (ctxChannel chNum reserved paramSelector configParamData1 : Nat)
    (configParamData2 : Option Nat) :
    Quiet State.observe (setSOLConfParams P ctxChannel chNum reserved paramSelector configParamData1
      configParamData2) := by
  unfold setSOLConfParams
  dsimp only [StM.pure_bind]
  split
  · exact Quiet.pure _
  · split
    · exact Quiet.pure _
    · split
      · exact Quiet.onSol (setSolProgress_quiet _ _ _ _)
      · exact Quiet.onSol (setSolEnable_quiet _ _ _ _)
      · exact Quiet.onSol (setSolAuthentication_quiet _ _ _ _)
      · exact Quiet.onSol (setSolAccumulate_quiet _ _ _ _)
      · exact Quiet.onSol (setSolRetry_quiet _ _ _ _)
      · exact Quiet.pure _
      · exact Quiet.pure _

theorem getSOLConfParams_keeps (P : Platform) (ctxChannel chNum reserved : Nat) (getParamRev : Bool)
    (paramSelector setSelector blockSelector : Nat) :
    Keeps id (getSOLConfParams P ctxChannel chNum reserved getParamRev paramSelector setSelector blockSelector) := by
  unfold getSOLConfParams
  dsimp only [StM.pure_bind]
  split
  · exact Keeps.pure _
  · split
    · exact Keeps.pure _
    · split
      · exact Keeps.pure _
      · split
        · exact Keeps.onSol_readOnly (getSolProperties_readOnly _ _ _ _ _ (Value.getU8_readOnly))
        · exact Keeps.onSol_readOnly (getSolProperties_readOnly _ _ _ _ _ fun v =>
            ReadOnly.bind (Value.getBool_readOnly v) fun _ => ReadOnly.pure _)
        · exact Keeps.onSol_readOnly (getSolAuthentication_readOnly _ _)
        · exact Keeps.onSol_readOnly (getSolProperties_readOnly _ _ _ _ _ (Value.getU8_readOnly))
        · exact Keeps.onSol_readOnly (getSolProperties_readOnly _ _ _ _ _ fun v =>
            ReadOnly.bind (Value.getU8_readOnly v) fun _ => ReadOnly.pure _)
        · exact Keeps.pure _
        · exact Keeps.pure _
        · exact Keeps.onSol_readOnly getSolBitrate_readOnly
        · exact Keeps.onSol_readOnly getSolBitrate_readOnly
        · exact Keeps.pure _

/-! ### Rejections and reads -/

theorem Quiet.respond_protocol {view : State → β} {m : M Rsp} (quiet : Quiet view m) (s : State)
    (protocol : (respond (m s).1).cc.protocolLevel) : view (m s).2 = view s := by
  cases ran : m s with
  | mk result s' =>
    rw [ran] at protocol
    cases result with
    | error e => exact absurd protocol (by decide : (response ccUnspecifiedError).cc.protocolLevel ≠ true)
    | ok r => exact quiet s r s' ran protocol

/-- No request refused with a protocol-level code, and no Get, changes what can be seen. -/
theorem rejections_and_reads_keep_state (P : Platform) :
    (∀ ctxChannel channelBits reserved parameter req s,
      (respond (setLan P ctxChannel channelBits reserved parameter req s).1).cc.protocolLevel →
        (setLan P ctxChannel channelBits reserved parameter req s).2.observe = s.observe) ∧
    (∀ ctxChannel chNum reserved paramSelector configParamData1 configParamData2 s,
      (respond (setSOLConfParams P ctxChannel chNum reserved paramSelector configParamData1 configParamData2
        s).1).cc.protocolLevel →
        (setSOLConfParams P ctxChannel chNum reserved paramSelector configParamData1 configParamData2 s).2.observe =
          s.observe) ∧
    (∀ ctxChannel channelBits reserved revOnly parameter set block s,
      (getLan P ctxChannel channelBits reserved revOnly parameter set block s).2.observe = s.observe) ∧
    (∀ ctxChannel chNum reserved getParamRev paramSelector setSelector blockSelector s,
      (getSOLConfParams P ctxChannel chNum reserved getParamRev paramSelector setSelector blockSelector s).2.observe =
        s.observe) :=
  ⟨fun _ _ _ _ _ s => (setLan_quiet P _ _ _ _ _).respond_protocol s,
    fun _ _ _ _ _ _ s => (setSOLConfParams_quiet P _ _ _ _ _ _).respond_protocol s,
    fun _ _ _ _ _ _ _ s => by rw [State.observe_of_visible]; exact Keeps.map _ (getLan_visible P _ _ _ _ _ _ _) s,
    fun _ _ _ _ _ _ _ s => congrArg State.observe (getSOLConfParams_keeps P _ _ _ _ _ _ _ s)⟩

def quietPlatform : Platform := .ofNames [(1, "eth0")] 15 15

def quietState : State := .init (.ofObjs [] none none [] (by decide) (by decide)) ⟨[], none⟩

/-- Set SetStatus with the flag 3, which names no status, is refused as not supported. -/
theorem rejections_and_reads_keep_state_flag3 :
    (respond (setLan quietPlatform 1 1 0 0 [3] quietState).1).cc.protocolLevel ∧
      (setLan quietPlatform 1 1 0 0 [3] quietState).2.observe = quietState.observe :=
  have refused : (respond (setLan quietPlatform 1 1 0 0 [3] quietState).1).cc.protocolLevel := by decide
  ⟨refused, (rejections_and_reads_keep_state quietPlatform).1 1 1 0 0 [3] quietState refused⟩

end Ipmi.Transport
