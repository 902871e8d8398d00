import TransportHandler.Proofs.VlanReplay
import TransportHandler.Proofs.DhcpMode
import TransportHandler.Proofs.Ipv4

/-!
# The interface's own properties

MACAddress and IPSrc are properties of the interface objects, so a write leaves channel
resolution alone and reads back.
-/

namespace Ipmi.Transport

variable {n n' : Net} {params : ChannelParams} {path : ObjPath}

/-! ### Writes to an interface object -/

theorem resolveChannel_updateAt {change : ObjData → ObjData} {keeps : ∀ d, (change d).isInterface = d.isInterface}
    (sameStep : ∀ ifname found (o : Obj), scanStep ifname found { o with data := change o.data } = scanStep ifname found o)
    (P : Platform) (channel : Nat) :
    resolveChannel P channel (n.updateAt path change keeps).objs = resolveChannel P channel n.objs := by
  have interface : ((·.data.isInterface) ∘ fun o : Obj => if o.path = path then { o with data := change o.data } else o) =
      (·.data.isInterface) := by
    funext o
    by_cases here : o.path = path <;> simp [here, keeps]
  have step : ∀ ifname found (o : Obj),
      scanStep ifname found (if o.path = path then { o with data := change o.data } else o) = scanStep ifname found o := by
    intro ifname found o
    split
    · exact sameStep ifname found o
    · rfl
  unfold resolveChannel channelParamsOf
  simp only [Net.updateAt, List.filter_map, interface, List.foldl_map, step]

theorem scanStep_setMAC (mac : MAC) (ifname : String) (found : Option ObjPath × Option ObjPath) (o : Obj) :
    scanStep ifname found { o with data := o.data.setMAC mac } = scanStep ifname found o := by
  obtain ⟨path, data⟩ := o
  cases data <;> rfl

theorem scanStep_setDHCP (d : DHCPConf) (ifname : String) (found : Option ObjPath × Option ObjPath) (o : Obj) :
    scanStep ifname found { o with data := o.data.setDHCP d } = scanStep ifname found o := by
  obtain ⟨path, data⟩ := o
  cases data <;> rfl

theorem Net.setMAC_eq_ok {mac : MAC} (h : n.setMAC path mac = .ok n') :
    .setProperty ∉ n.faults ∧ (∃ p d old, n.find? path = some ⟨p, .ethernet d old⟩) ∧
      n' = n.updateAt path (ObjData.setMAC mac) (ObjData.setMAC_isInterface mac) := by
  obtain ⟨serves, written⟩ := Net.serve_eq_ok.mp h
  split at written
  · rename_i p d old found
    exact ⟨serves, ⟨p, d, old, found⟩, (Except.ok.inj written).symm⟩
  · cases written

theorem Net.getMAC_setMAC {mac old : MAC} {p : ObjPath} {d : DHCPConf} (reads : .getProperty ∉ n.faults)
    (physical : n.find? path = some ⟨p, .ethernet d old⟩) :
    (n.updateAt path (ObjData.setMAC mac) (ObjData.setMAC_isInterface mac)).getMAC path = .ok mac := by
  unfold Net.getMAC Net.serve
  rw [if_neg (by exact reads), Net.find?_updateAt_self, physical]
  rfl

/-! ### MACAddress -/

theorem setLanMac_request (P : Platform) (channel : Nat) (mac : MAC) :
    SetLan.mac P channel mac.toList = onNet (if isValidMACAddress mac then
      channelCall P channel (setMACProperty · mac) >>= fun _ => pure responseSuccess
      else pure (response ccInvalidFieldRequest)) := by
  simp only [SetLan.mac, unpackExact_array]
  cases isValidMACAddress mac <;> rfl

/-- A successful Set MACAddress took a valid MAC, which Get MACAddress then answers. -/
theorem mac_set_get (P : Platform) (ctxChannel channelBits : Nat) (s : State) (mac : MAC)
    (reads : .getProperty ∉ s.net.faults)
    (succeeds : respond (setLan P ctxChannel channelBits 0 5 mac.toList s).1 = responseSuccess) :
    isValidMACAddress mac ∧
      respond (getLan P ctxChannel channelBits 0 false 5 0 0 (setLan P ctxChannel channelBits 0 5 mac.toList s).2).1 =
        responseSuccess (natBits 8 current_revision ++ payloadBits mac.toList) := by
  obtain ⟨valid, dispatched⟩ := setLan_success (show LanParam.ofNat? 5 = some .mac from rfl) succeeds
  rw [dispatched, setLanParam, setLanMac_request] at succeeds ⊢
  cases validMac : isValidMACAddress mac
  · rw [validMac] at succeeds
    have refused : respond (.ok (response ccInvalidFieldRequest)) = responseSuccess := succeeds
    exact absurd refused (by decide)
  rw [validMac] at succeeds
  rw [if_pos rfl] at succeeds ⊢
  obtain ⟨u, n', called, after⟩ := onNet_call_success succeeds
  obtain ⟨lists, params, resolves, ran⟩ := channelCall_eq_ok called
  obtain ⟨-, ⟨p, d, old, physical⟩, written⟩ := Net.setMAC_eq_ok (writeNet_eq_ok.mp ran)
  have lists' : .subTree ∉ n'.faults := by rw [written]; exact lists
  have resolves' : resolveChannel P (P.convertCurrentChannelNum channelBits ctxChannel) n'.objs = some params := by
    rw [written, resolveChannel_updateAt (scanStep_setMAC mac)]
    exact resolves
  have got : n'.getMAC params.ifPath = .ok mac := by
    rw [written]
    exact Net.getMAC_setMAC reads physical
  refine ⟨rfl, ?_⟩
  rw [after, getLan_valid (show LanParam.ofNat? 5 = some .mac from rfl) valid]
  simp only [getLanParam, GetLan.mac, onNet_run_fst]
  rw [StM.bind_ok ((channelCall_run lists' resolves').trans (readNet_eq_ok.mpr ⟨got, rfl⟩))]
  rfl

/-- Channel 1 on `eth0`, a physical interface with DHCP on for IPv6 only. -/
def interfacePlatform : Platform := .ofNames [(1, "eth0")] 15 15

def interfaceState : State :=
  .init (.ofObjs [⟨.iface "eth0", .ethernet .v6 (Mathlib.Vector.replicate 6 2)⟩] none none []
    (by decide) (by decide)) ⟨[], none⟩

theorem mac_set_get_eth0 :
    .getProperty ∉ interfaceState.net.faults ∧
      respond (setLan interfacePlatform 1 1 0 5 [2, 0, 0, 0, 0, 9] interfaceState).1 = responseSuccess ∧
      isValidMACAddress ⟨[2, 0, 0, 0, 0, 9], rfl⟩ ∧
      respond (getLan interfacePlatform 1 1 0 false 5 0 0
        (setLan interfacePlatform 1 1 0 5 [2, 0, 0, 0, 0, 9] interfaceState).2).1 =
        responseSuccess (natBits 8 current_revision ++ payloadBits [2, 0, 0, 0, 0, 9]) :=
  have succeeds : respond (setLan interfacePlatform 1 1 0 5 [2, 0, 0, 0, 0, 9] interfaceState).1 =
      responseSuccess := by decide
  ⟨by decide, succeeds, mac_set_get interfacePlatform 1 1 interfaceState ⟨[2, 0, 0, 0, 0, 9], rfl⟩ (by decide)
    succeeds⟩

/-! ### IPSrc -/

theorem byteFields {low : Nat} (fits : low ≤ 8) (b : UInt8) :
    unpackExact (do return (← unpackBits low, ← unpackBits (8 - low))) [b] =
      some (b.toNat % 2 ^ low, b.toNat / 2 ^ low) := by
  have small : b.toNat / 2 ^ low < 2 ^ (8 - low) := by
    rw [Nat.div_lt_iff_lt_mul (Nat.two_pow_pos low), ← Nat.pow_add, Nat.sub_add_cancel fits]
    exact b.toNat_lt_size
  have layout : payloadBits [b] = natBits low b.toNat ++ (natBits (8 - low) (b.toNat / 2 ^ low) ++ []) := by
    rw [payloadBits, payloadBits, List.append_nil, List.append_nil, byteBits, ← natBits_add, Nat.add_sub_cancel' fits]
  simp only [unpackExact, layout, StateT.run_bind, unpackBits_natBits, Option.bind_eq_bind, Option.some_bind,
    StateT.run_pure, Nat.mod_eq_of_lt small]

theorem IPSrc.ofNat?_code {k : Nat} {src : IPSrc} (h : IPSrc.ofNat? k = some src) : k = src.code := by
  unfold IPSrc.ofNat? at h
  split at h <;> cases h <;> rfl

theorem setLanIpSrc_success {channel : Nat} {source : UInt8} {s : State}
    (h : respond (SetLan.ipSrc P channel [source] s).1 = responseSuccess) :
    source.toNat ≤ 2 ∧ ∃ n', (SetLan.ipSrc P channel [source] s).2 = { s with net := n' } ∧
      ∃ u, channelCall P channel (setDHCPv4Property · (if source.toNat = 2 then .v4 else .none)) s.net = (.ok u, n') := by
  obtain ⟨n', ran, after⟩ := onNet_success h
  simp only [SetLan.ipSrc, byteFields (show 4 ≤ 8 by decide) source, StM.pure_bind] at ran
  split at ran
  · exact absurd (pure_response_eq ran) (by decide)
  rename_i clear
  generalize found : IPSrc.ofNat? (source.toNat % 2 ^ 4) = src at ran
  rcases src with _ | _ | _ | _ | _ | _
  all_goals first
    | obtain ⟨u, _, called, ⟨⟩⟩ := StM.bind_eq_ok ran
      have code := IPSrc.ofNat?_code found
      simp only [IPSrc.code, Nat.reducePow, ne_eq, not_not] at code clear
      refine ⟨by omega, n', after, u, ?_⟩
      first | rwa [if_pos (by omega)] | rwa [if_neg (by omega)]
    | exact absurd (pure_response_eq ran) (by decide)

theorem setDHCPv4Property_eq_ok {requested : DHCPConf} {u : Unit}
    (h : setDHCPv4Property params requested n = (.ok u, n')) :
    ∃ current, n.getDHCP params.logicalPath = .ok current ∧
      ((n.find? params.logicalPath).bind (·.data.dhcp?)).isSome ∧
      n' = n.updateAt params.logicalPath (ObjData.setDHCP (nextDhcp .v4 .v6 current requested))
        (ObjData.setDHCP_isInterface _) := by
  unfold setDHCPv4Property getDHCPProperty at h
  obtain ⟨current, read, written⟩ := readNet_bind_eq_ok h
  obtain ⟨-, found, rfl⟩ := Net.setDHCP_eq_ok.mp (writeNet_eq_ok.mp written)
  exact ⟨current, read, found, rfl⟩

theorem ipSrc_of_v4On (d : DHCPConf) :
    (if d = .v4 ∨ d = .both then IPSrc.dhcp else IPSrc.static) = if d.v4On then .dhcp else .static := by
  cases d <;> rfl

/-- Get IPSrc reports DHCP after a Set IPSrc exactly when DHCP was asked for. -/
theorem ipSrc_set_get (P : Platform) (ctxChannel channelBits : Nat) (s : State) (source : UInt8)
    (succeeds : respond (setLan P ctxChannel channelBits 0 4 [source] s).1 = responseSuccess) :
    source.toNat ≤ 2 ∧
      respond (getLan P ctxChannel channelBits 0 false 4 0 0 (setLan P ctxChannel channelBits 0 4 [source] s).2).1 =
        responseSuccess (natBits 8 current_revision ++
          natBits 4 (if source.toNat = 2 then IPSrc.dhcp else IPSrc.static).code ++ natBits 4 0) := by
  obtain ⟨valid, dispatched⟩ := setLan_success (show LanParam.ofNat? 4 = some .ipSrc from rfl) succeeds
  rw [dispatched, setLanParam] at succeeds ⊢
  obtain ⟨small, n', after, u, called⟩ := setLanIpSrc_success succeeds
  obtain ⟨lists, params, resolves, ran⟩ := channelCall_eq_ok called
  obtain ⟨current, read, hasMode, written⟩ := setDHCPv4Property_eq_ok ran
  obtain ⟨reads, -⟩ := Net.getDHCP_eq_ok.mp read
  have lists' : .subTree ∉ n'.faults := by rw [written]; exact lists
  have resolves' : resolveChannel P (P.convertCurrentChannelNum channelBits ctxChannel) n'.objs = some params := by
    rw [written, resolveChannel_updateAt (scanStep_setDHCP _)]
    exact resolves
  have got : n'.getDHCP params.logicalPath =
      .ok (nextDhcp .v4 .v6 current (if source.toNat = 2 then .v4 else .none)) := by
    rw [written]
    exact Net.getDHCP_eq_ok.mpr ⟨reads, Net.dhcp_updateAt_setDHCP hasMode⟩
  have request : ipSrcRequest (if source.toNat = 2 then .v4 else .none) := by
    split
    · exact .inl rfl
    · exact .inr rfl
  refine ⟨small, ?_⟩
  rw [after, getLan_valid (show LanParam.ofNat? 4 = some .ipSrc from rfl) valid]
  simp only [getLanParam, GetLan.ipSrc, onNet_run_fst]
  rw [StM.bind_ok ((channelCall_run lists' resolves').trans (readNet_eq_ok.mpr ⟨got, rfl⟩))]
  dsimp only
  rw [ipSrc_of_v4On, nextDhcp_v4On request]
  by_cases two : source.toNat = 2 <;> simp [two]

theorem ipSrc_set_get_eth0 :
    respond (setLan interfacePlatform 1 1 0 4 [1] interfaceState).1 = responseSuccess ∧
      (1 : UInt8).toNat ≤ 2 ∧
      respond (getLan interfacePlatform 1 1 0 false 4 0 0 (setLan interfacePlatform 1 1 0 4 [1] interfaceState).2).1 =
        responseSuccess (natBits 8 current_revision ++ natBits 4 IPSrc.static.code ++ natBits 4 0) :=
  have succeeds : respond (setLan interfacePlatform 1 1 0 4 [1] interfaceState).1 = responseSuccess := by decide
  ⟨succeeds, ipSrc_set_get interfacePlatform 1 1 interfaceState 1 succeeds⟩

end Ipmi.Transport
