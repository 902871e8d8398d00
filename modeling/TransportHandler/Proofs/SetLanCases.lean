import TransportHandler.Proofs.Frames

/-!
# Every case of Set LAN, for a property of its writes

`SetLanRules` collects what a property needs of the monad and of each writer, and
`SetLanRules.setLan` walks the cases once.
-/

namespace Ipmi.Transport

/-- What a property `Step` of handler steps needs for every case of Set LAN to have it. -/
structure SetLanRules (P : Platform) (channel : Nat) (Step : ∀ {α : Type}, M α → Prop)
    (Call : ∀ {α : Type}, NetM α → Prop) (Resolved : ChannelParams → Prop) : Prop where
  pure {α : Type} (a : α) : Step (Pure.pure a : M α)
  bind {α β : Type} {m : M α} {k : α → M β} : Step m → (∀ a, Step (k a)) → Step (m >>= k)
  of_net {α : Type} {m : M α} : (∀ s, (m s).2.net = s.net) → Step m
  lift {α : Type} {m : NetM α} : Call m → Step (onNet m)
  readOnly {α : Type} {m : NetM α} : ReadOnly m → Call m
  seq {α β : Type} {m : NetM α} {k : α → NetM β} : Call m → (∀ a, Call (k a)) → Call (m >>= k)
  call {α : Type} {func : ChannelParams → NetM α} :
    (∀ params, Resolved params → Call (func params)) → Call (channelCall P channel func)
  vlan (params : ChannelParams) (vlan : Nat) : Resolved params → Call (reconfigureVLAN P params vlan)
  ifAddr4 (params : ChannelParams) (address : Option (Addr .inet)) (prefixLength : Option Nat) :
    Resolved params → Call (reconfigureIfAddr4 params address prefixLength)
  gateway (f : Family) (params : ChannelParams) (address : Addr f) :
    Resolved params → Call (setGatewayProperty f params address)
  dhcp4 (params : ChannelParams) (d : DHCPConf) : Resolved params → Call (setDHCPv4Property params d)
  macAddress (params : ChannelParams) (mac : MAC) : Resolved params → Call (setMACProperty params mac)
  gatewayMAC (f : Family) (params : ChannelParams) (mac : MAC) :
    Resolved params → Call (reconfigureGatewayMAC f params mac)
  ifAddr6 (params : ChannelParams) (idx : Nat) (address : Addr .inet6) (prefixLength : Nat) :
    Resolved params → Call (reconfigureIfAddr6 params idx address prefixLength)
  noIfAddr6 (params : ChannelParams) (idx : Nat) : Resolved params → Call (deconfigureIfAddr6 params idx)

namespace SetLanRules

variable {P : Platform} {channel : Nat} {Step : ∀ {α : Type}, M α → Prop} {Call : ∀ {α : Type}, NetM α → Prop}
  {Resolved : ChannelParams → Prop} (req : List UInt8)

theorem setLanParam (rules : SetLanRules P channel Step Call Resolved) (param : LanParam) :
    Step (setLanParam P channel req param) := by
  have done : ∀ r : Rsp, Call (Pure.pure r : NetM Rsp) := fun _ => rules.readOnly (ReadOnly.pure _)
  have readDhcp : Call (channelCall P channel getDHCPProperty) :=
    rules.readOnly (channelCall_readOnly getDHCPProperty_readOnly)
  have write : ∀ {α : Type} {func : ChannelParams → NetM α}, (∀ params, Resolved params → Call (func params)) →
      Call (channelCall P channel func >>= fun _ => Pure.pure responseSuccess) :=
    fun each => rules.seq (rules.call each) fun _ => done _
  cases param with
  | authSupport | authEnables | ciphersuiteSupport | ciphersuiteEntries | ipFamilySupport | ipv6Status
    | ipv6DynamicAddresses => exact rules.pure _
  | ipFamilyEnables => exact rules.of_net fun s => congrArg State.net (ipFamilyEnables_keeps req s)
  | ipv6StaticRouter1PrefixLength =>
    exact rules.of_net fun s => congrArg State.net (ipv6StaticRouter1PrefixLength_keeps req s)
  | ipv6StaticRouter1PrefixValue =>
    exact rules.of_net fun s => congrArg State.net (ipv6StaticRouter1PrefixValue_keeps req s)
  | cipherSuitePrivilegeLevels =>
    exact rules.of_net fun s => congrArg State.net (cipherSuitePrivilegeLevels_keeps P channel req s)
  | setStatus =>
    have stored : ∀ status, Step (storeSetStatus channel status) := fun _ => rules.of_net fun _ => rfl
    have read : Step (getSetStatus channel) := rules.of_net fun s => by
      unfold getSetStatus
      split <;> rfl
    show Step (SetLan.setStatus channel req)
    unfold SetLan.setStatus
    dsimp only [StM.pure_bind]
    split
    · split
      · exact rules.pure _
      · split
        · exact rules.bind (stored _) fun _ => rules.pure _
        · refine rules.bind read fun _ => ?_
          split
          · exact rules.pure _
          · exact rules.bind (stored _) fun _ => rules.pure _
        · refine rules.bind read fun _ => ?_
          split <;> exact rules.pure _
        · exact rules.pure _
    · exact rules.pure _
  | vlanId =>
    have swap : ∀ vlan, Step (discard (onNet (channelCall P channel (reconfigureVLAN P · vlan)))) := fun vlan =>
      rules.bind (rules.lift (rules.call fun params => rules.vlan params vlan)) fun _ => rules.pure _
    have remember : ∀ vlan, Step (storeLastDisabledVlan channel vlan) := fun _ => rules.of_net fun _ => rfl
    show Step (SetLan.vlanId P channel req)
    unfold SetLan.vlanId
    dsimp only [StM.pure_bind]
    split
    · split
      · exact rules.pure _
      · split
        · exact rules.bind (remember _) fun _ => rules.bind (swap _) fun _ => rules.pure _
        · split
          · exact rules.pure _
          · exact rules.bind (swap _) fun _ => rules.pure _
    · exact rules.pure _
  | ip =>
    refine rules.lift (rules.seq readDhcp fun _ => ?_)
    dsimp only [StM.pure_bind]
    split
    · exact done _
    · split
      · exact write fun params => rules.ifAddr4 params _ _
      · exact done _
  | subnetMask =>
    refine rules.lift (rules.seq readDhcp fun _ => ?_)
    dsimp only [StM.pure_bind]
    split
    · exact done _
    · split
      · split
        · exact write fun params => rules.ifAddr4 params _ _
        · exact rules.readOnly (ReadOnly.throw _)
      · exact done _
  | gateway1 =>
    refine rules.lift (rules.seq readDhcp fun _ => ?_)
    dsimp only [StM.pure_bind]
    split
    · exact done _
    · split
      · exact write fun params => rules.gateway _ params _
      · exact done _
  | ipSrc =>
    show Step (SetLan.ipSrc P channel req)
    unfold SetLan.ipSrc
    refine rules.lift ?_
    dsimp only [StM.pure_bind]
    repeat' split
    all_goals first
      | with_reducible exact done _
      | exact write fun params => rules.dhcp4 params _
  | mac =>
    show Step (SetLan.mac P channel req)
    unfold SetLan.mac
    refine rules.lift ?_
    dsimp only [StM.pure_bind]
    split
    · split
      · exact done _
      · exact write fun params => rules.macAddress params _
    · exact done _
  | gateway1MAC | ipv6StaticRouter1MAC =>
    show Step (SetLan.gatewayMAC P channel req _)
    unfold SetLan.gatewayMAC
    refine rules.lift ?_
    split
    · exact write fun params => rules.gatewayMAC _ params _
    · exact done _
  | ipv6StaticRouter1IP =>
    show Step (SetLan.ipv6StaticRouter1IP P channel req)
    unfold SetLan.ipv6StaticRouter1IP
    refine rules.lift ?_
    split
    · exact write fun params => rules.gateway _ params _
    · exact done _
  | ipv6StaticAddresses =>
    show Step (SetLan.ipv6StaticAddresses P channel req)
    unfold SetLan.ipv6StaticAddresses
    refine rules.lift ?_
    dsimp only [StM.pure_bind]
    split
    · split
      · exact done _
      · split
        · exact write fun params => rules.ifAddr6 params _ _ _
        · exact write fun params => rules.noIfAddr6 params _
    · exact done _
  | ipv6RouterControl =>
    show Step (SetLan.ipv6RouterControl P channel req)
    unfold SetLan.ipv6RouterControl
    refine rules.lift ?_
    split
    · refine rules.seq readDhcp fun _ => ?_
      dsimp only [StM.pure_bind]
      split <;> split <;> exact done _
    · exact done _

theorem setLan {ctxChannel channelBits : Nat}
    (rules : SetLanRules P (P.convertCurrentChannelNum channelBits ctxChannel) Step Call Resolved)
    (reserved1 parameter : Nat) : Step (Transport.setLan P ctxChannel channelBits reserved1 parameter req) := by
  dsimp only [Transport.setLan, setLanOem, StM.pure_bind]
  split
  · exact rules.pure _
  · split
    · exact rules.setLanParam req _
    · split <;> exact rules.pure _

end SetLanRules

end Ipmi.Transport
