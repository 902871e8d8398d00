import TransportHandler.Proofs.Writers
import TransportHandler.Proofs.Netmask

/-!
# The IPv4 address and its netmask

IP and SubnetMask share the first Static-or-DHCP IPv4 address, and each write keeps the
other field.
-/

namespace Ipmi.Transport

variable {P : Platform} {channel : Nat} {params : ChannelParams} {s : State} {ret : List Bool}
  {n n' : Net} {u : Unit}

/-! ### The two Get cases -/

theorem getLanIp_run (reads : n.ServesReads) (resolves : resolveChannel P channel n.objs = some params)
    {sol : SolService} {setStatus : Nat → Option SetStatus} {lastDisabledVlan : Nat → Option Nat}
    {cipherList : Option (List UInt8)} :
    (GetLan.ip P channel ret ⟨n, sol, setStatus, lastDisabledVlan, cipherList⟩).1 =
      .ok (responseSuccess (ret ++ payloadBits
        ((((n.ifAddrs .inet originsV4 params.logicalPath)[0]?).map (·.address)).getD
          (Mathlib.Vector.replicate _ 0)).toList)) := by
  simp only [GetLan.ip, onNet_run_fst]
  rw [StM.bind_ok ((channelCall_run reads.1 resolves).trans (getIfAddr_run reads))]
  rfl

theorem getLanSubnetMask_run (reads : n.ServesReads)
    (resolves : resolveChannel P channel n.objs = some params)
    {sol : SolService} {setStatus : Nat → Option SetStatus} {lastDisabledVlan : Nat → Option Nat}
    {cipherList : Option (List UInt8)} :
    (GetLan.subnetMask P channel ret ⟨n, sol, setStatus, lastDisabledVlan, cipherList⟩).1 =
      match prefixToNetmask ((((n.ifAddrs .inet originsV4 params.logicalPath)[0]?).map
          (·.prefixLength)).getD Family.inet.defaultPrefix) with
      | some netmask => .ok (responseSuccess (ret ++ payloadBits netmask.toList))
      | none => .error .internalFailure := by
  simp only [GetLan.subnetMask, onNet_run_fst]
  rw [StM.bind_ok ((channelCall_run reads.1 resolves).trans (getIfAddr_run reads))]
  dsimp only
  cases prefixToNetmask ((((n.ifAddrs .inet originsV4 params.logicalPath)[0]?).map
    (·.prefixLength)).getD Family.inet.defaultPrefix) <;> rfl

/-! ### The two Set cases -/

theorem setLanIp_request (P : Platform) (channel : Nat) (address : Addr .inet) :
    SetLan.ip P channel address.toList = onNet (channelCall P channel getDHCPProperty >>= fun dhcp =>
      if dhcp = .v4 ∨ dhcp = .both then pure (response ccCommandNotAvailable)
      else channelCall P channel (reconfigureIfAddr4 · (some address) none) >>= fun _ =>
        pure responseSuccess) := by
  simp only [SetLan.ip, unpackExact_array, StM.pure_bind]

theorem setLanSubnetMask_request (P : Platform) (channel : Nat) {netmask : Addr .inet}
    {prefixLength : Nat} (accepted : netmaskToPrefix netmask = some prefixLength) :
    SetLan.subnetMask P channel netmask.toList = onNet (channelCall P channel getDHCPProperty >>= fun dhcp =>
      if dhcp = .v4 ∨ dhcp = .both then pure (response ccCommandNotAvailable)
      else channelCall P channel (reconfigureIfAddr4 · none (some prefixLength)) >>= fun _ =>
        pure responseSuccess) := by
  simp only [SetLan.subnetMask, unpackExact_array, StM.pure_bind, accepted]

theorem setLanSubnetMask_refused (P : Platform) (channel : Nat) {netmask : Addr .inet}
    (refused : netmaskToPrefix netmask = none) :
    SetLan.subnetMask P channel netmask.toList = onNet (channelCall P channel getDHCPProperty >>= fun dhcp =>
      if dhcp = .v4 ∨ dhcp = .both then pure (response ccCommandNotAvailable)
      else throw .internalFailure) := by
  simp only [SetLan.subnetMask, unpackExact_array, StM.pure_bind, refused]

theorem pure_response_eq {r r' : Rsp} {n'' : Net} (h : (pure r : NetM Rsp) n = (.ok r', n'')) : r = r' := by
  cases h
  rfl

theorem dhcp_check_success {rest : NetM Rsp}
    (h : (channelCall P channel getDHCPProperty >>= fun dhcp =>
      if dhcp = .v4 ∨ dhcp = .both then pure (response ccCommandNotAvailable) else rest) n =
        (.ok responseSuccess, n')) :
    n.ServesReads ∧ rest n = (.ok responseSuccess, n') := by
  obtain ⟨dhcp, n1, read, checked⟩ := StM.bind_eq_ok h
  obtain ⟨lists, params, -, got⟩ := channelCall_eq_ok read
  unfold getDHCPProperty at got
  obtain ⟨call, same⟩ := readNet_eq_ok.mp got
  subst n1
  obtain ⟨reads, -⟩ := Net.getDHCP_eq_ok.mp call
  refine ⟨⟨lists, reads⟩, ?_⟩
  split at checked
  · exact absurd (pure_response_eq checked) (by decide)
  · exact checked

theorem channelCall_then_success {α : Type} {func : ChannelParams → NetM α}
    (h : (channelCall P channel func >>= fun _ => pure responseSuccess) n = (.ok responseSuccess, n')) :
    ∃ params, resolveChannel P channel n.objs = some params ∧ ∃ a, func params n = (.ok a, n') := by
  obtain ⟨a, n1, called, returned⟩ := StM.bind_eq_ok h
  cases returned
  obtain ⟨-, params, resolves, called⟩ := channelCall_eq_ok called
  exact ⟨params, resolves, a, called⟩

theorem setLanIp_success {ctxChannel channelBits : Nat} {address : Addr .inet}
    (h : respond (setLan P ctxChannel channelBits 0 3 address.toList s).1 = responseSuccess) :
    P.isValidChannel (P.convertCurrentChannelNum channelBits ctxChannel) ∧ s.net.ServesReads ∧
      ∃ n', (setLan P ctxChannel channelBits 0 3 address.toList s).2 = { s with net := n' } ∧
        ∃ params, resolveChannel P (P.convertCurrentChannelNum channelBits ctxChannel) s.net.objs = some params ∧
          ∃ u, reconfigureIfAddr4 params (some address) none s.net = (.ok u, n') := by
  obtain ⟨valid, dispatched⟩ := setLan_success (show LanParam.ofNat? 3 = some .ip from rfl) h
  rw [dispatched] at h ⊢
  rw [setLanParam, setLanIp_request] at h ⊢
  obtain ⟨n', ran, after⟩ := onNet_success h
  obtain ⟨reads, rest⟩ := dhcp_check_success ran
  exact ⟨valid, reads, n', after, channelCall_then_success rest⟩

theorem setLanSubnetMask_success {ctxChannel channelBits : Nat} {netmask : Addr .inet}
    (h : respond (setLan P ctxChannel channelBits 0 6 netmask.toList s).1 = responseSuccess) :
    P.isValidChannel (P.convertCurrentChannelNum channelBits ctxChannel) ∧ s.net.ServesReads ∧
      ∃ prefixLength, netmaskToPrefix netmask = some prefixLength ∧
      ∃ n', (setLan P ctxChannel channelBits 0 6 netmask.toList s).2 = { s with net := n' } ∧
        ∃ params, resolveChannel P (P.convertCurrentChannelNum channelBits ctxChannel) s.net.objs = some params ∧
          ∃ u, reconfigureIfAddr4 params none (some prefixLength) s.net = (.ok u, n') := by
  obtain ⟨valid, dispatched⟩ := setLan_success (show LanParam.ofNat? 6 = some .subnetMask from rfl) h
  rw [dispatched] at h ⊢
  rw [setLanParam] at h ⊢
  cases accepted : netmaskToPrefix netmask with
  | none =>
    rw [setLanSubnetMask_refused P _ accepted] at h
    obtain ⟨n', ran, -⟩ := onNet_success h
    obtain ⟨-, rest⟩ := dhcp_check_success ran
    cases rest
  | some prefixLength =>
    rw [setLanSubnetMask_request P _ accepted] at h ⊢
    obtain ⟨n', ran, after⟩ := onNet_success h
    obtain ⟨reads, rest⟩ := dhcp_check_success ran
    exact ⟨valid, reads, prefixLength, rfl, n', after, channelCall_then_success rest⟩

/-- With at most one Static-or-DHCP IPv4 address before, exactly the new one is left. -/
theorem ifAddrs4_after_reconfigure {address : Option (Addr .inet)} {prefixLength : Option Nat}
    (atMostOne : (n.ifAddrs .inet originsV4 params.logicalPath).length ≤ 1)
    (h : reconfigureIfAddr4 params address prefixLength n = (.ok u, n')) :
    let old := (n.ifAddrs .inet originsV4 params.logicalPath)[0]?
    ∃ newAddress path, address.orElse (fun _ => old.map (·.address)) = some newAddress ∧
      n'.ifAddrs .inet originsV4 params.logicalPath =
        [⟨path, newAddress, .static, prefixLength.getD ((old.map (·.prefixLength)).getD 32)⟩] ∧
      LeafChange n n' := by
  obtain ⟨newAddress, name, chosen, named, -, rfl, change⟩ := reconfigureIfAddr4_eq_ok h
  refine ⟨newAddress, .child name .ipv4 n.nextId, chosen, ?_, change⟩
  rw [named] at atMostOne ⊢
  rw [ifAddrs_addChild_ip, ifAddrs_without]
  match (n.ifAddrs .inet originsV4 (.iface name)), atMostOne with
  | [], _ => rfl
  | [old], _ => simp [originsV4, IPAddr.of, IPAddr.kind]

/-! ### Each write keeps the other field -/

/-- Set IP and Set SubnetMask each change their own Get answer and leave the other's. -/
theorem ipv4_address_netmask_independent (P : Platform) (ctxChannel channelBits : Nat) (s : State)
    (params : ChannelParams)
    (resolves : resolveChannel P (P.convertCurrentChannelNum channelBits ctxChannel) s.net.objs = some params)
    (atMostOne : (s.net.ifAddrs .inet originsV4 params.logicalPath).length ≤ 1)
    (address netmask : Addr .inet) :
    let getIP := fun s : State => respond (getLan P ctxChannel channelBits 0 false 3 0 0 s).1
    let getMask := fun s : State => respond (getLan P ctxChannel channelBits 0 false 6 0 0 s).1
    let setIP := setLan P ctxChannel channelBits 0 3 address.toList s
    let setMask := setLan P ctxChannel channelBits 0 6 netmask.toList s
    (respond setIP.1 = responseSuccess →
      getIP setIP.2 = responseSuccess (natBits 8 current_revision ++ payloadBits address.toList) ∧
        getMask setIP.2 = getMask s ∧
        (setIP.2.net.ifAddrs .inet originsV4 params.logicalPath).length ≤ 1) ∧
    (respond setMask.1 = responseSuccess →
      getMask setMask.2 = responseSuccess (natBits 8 current_revision ++ payloadBits netmask.toList) ∧
        getIP setMask.2 = getIP s ∧
        (setMask.2.net.ifAddrs .inet originsV4 params.logicalPath).length ≤ 1) := by
  intro getIP getMask setIP setMask
  have ipSelects : LanParam.ofNat? 3 = some .ip := rfl
  have maskSelects : LanParam.ofNat? 6 = some .subnetMask := rfl
  constructor
  · intro succeeds
    obtain ⟨valid, reads, n', after, params', resolves', u, reconfigured⟩ := setLanIp_success succeeds
    rw [resolves, Option.some.injEq] at resolves'
    subst params'
    obtain ⟨newAddress, path, chosen, written, change⟩ := ifAddrs4_after_reconfigure atMostOne reconfigured
    cases chosen
    have served := change.servesReads reads
    have resolved := (change.resolve P _).trans resolves
    simp only [setIP, getIP, getMask, after]
    refine ⟨?_, ?_, by simp [written]⟩
    · rw [getLan_valid ipSelects valid]
      simp [getLanParam, getLanIp_run served resolved, written]
    · rw [getLan_valid maskSelects valid, getLan_valid maskSelects valid]
      simp only [getLanParam, getLanSubnetMask_run served resolved, getLanSubnetMask_run reads resolves,
        written]
      rfl
  · intro succeeds
    obtain ⟨valid, reads, prefixLength, accepted, n', after, params', resolves', u, reconfigured⟩ :=
      setLanSubnetMask_success succeeds
    rw [resolves, Option.some.injEq] at resolves'
    subst params'
    obtain ⟨newAddress, path, chosen, written, change⟩ := ifAddrs4_after_reconfigure atMostOne reconfigured
    have served := change.servesReads reads
    have resolved := (change.resolve P _).trans resolves
    simp only [setMask, getIP, getMask, after]
    refine ⟨?_, ?_, by simp [written]⟩
    · rw [getLan_valid maskSelects valid]
      simp [getLanParam, getLanSubnetMask_run served resolved, written,
        prefixToNetmask_of_netmaskToPrefix accepted]
    · rw [getLan_valid ipSelects valid, getLan_valid ipSelects valid]
      simp only [getLanParam, getLanIp_run served resolved, getLanIp_run reads resolves, written]
      have old : ((s.net.ifAddrs .inet originsV4 params.logicalPath)[0]?).map (·.address) = some newAddress :=
        chosen
      simp [old]

/-- Channel 1 on `eth0`, which holds the static address 192.168.0.5/24. -/
def ipv4Platform : Platform := .ofNames [(1, "eth0")] 15 15

def ipv4State : State :=
  .init (.ofObjs [⟨.iface "eth0", .ethernet .none (Mathlib.Vector.replicate 6 2)⟩,
      ⟨.child "eth0" .ipv4 0, .ip (.v4 ⟨[192, 168, 0, 5], rfl⟩) 24 .static⟩]
    none none [] (by decide) (by decide)) ⟨[], none⟩

theorem ipv4_address_netmask_independent_eth0 :
    let address : Addr .inet := ⟨[192, 168, 0, 9], rfl⟩
    let netmask : Addr .inet := ⟨[255, 255, 0, 0], rfl⟩
    resolveChannel ipv4Platform 1 ipv4State.net.objs = some ⟨1, "eth0", .iface "eth0", .iface "eth0"⟩ ∧
    (ipv4State.net.ifAddrs .inet originsV4 (.iface "eth0")).length ≤ 1 ∧
    respond (setLan ipv4Platform 1 1 0 3 address.toList ipv4State).1 = responseSuccess ∧
    respond (setLan ipv4Platform 1 1 0 6 netmask.toList ipv4State).1 = responseSuccess ∧
    let getIP := fun s : State => respond (getLan ipv4Platform 1 1 0 false 3 0 0 s).1
    let getMask := fun s : State => respond (getLan ipv4Platform 1 1 0 false 6 0 0 s).1
    let setIP := setLan ipv4Platform 1 1 0 3 address.toList ipv4State
    let setMask := setLan ipv4Platform 1 1 0 6 netmask.toList ipv4State
    (respond setIP.1 = responseSuccess →
      getIP setIP.2 = responseSuccess (natBits 8 current_revision ++ payloadBits address.toList) ∧
        getMask setIP.2 = getMask ipv4State ∧
        (setIP.2.net.ifAddrs .inet originsV4 (.iface "eth0")).length ≤ 1) ∧
    (respond setMask.1 = responseSuccess →
      getMask setMask.2 = responseSuccess (natBits 8 current_revision ++ payloadBits netmask.toList) ∧
        getIP setMask.2 = getIP ipv4State ∧
        (setMask.2.net.ifAddrs .inet originsV4 (.iface "eth0")).length ≤ 1) :=
  have resolves : resolveChannel ipv4Platform 1 ipv4State.net.objs =
      some ⟨1, "eth0", .iface "eth0", .iface "eth0"⟩ := by decide
  have atMostOne : (ipv4State.net.ifAddrs .inet originsV4 (.iface "eth0")).length ≤ 1 := by decide
  ⟨resolves, atMostOne, by decide, by decide,
    ipv4_address_netmask_independent ipv4Platform 1 1 ipv4State _ resolves atMostOne _ _⟩

end Ipmi.Transport
