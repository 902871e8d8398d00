import TransportHandler.Proofs.Writers

/-!
# Gateway MAC: set, then get

The gateway's MAC is a static neighbor entry beneath the logical interface, found the same
way by the writer and the reader.
-/

namespace Ipmi.Transport

/-- Gateway1MAC for IPv4 and IPv6StaticRouter1MAC for IPv6. -/
def gatewayMACSelector : Family → Nat
  | .inet => 13
  | .inet6 => 66

variable {P : Platform} {f : Family} {channel : Nat} {mac : MAC}

theorem gatewayMACSelector_cases (f : Family) : ∃ param, LanParam.ofNat? (gatewayMACSelector f) = some param ∧
    (∀ P channel req, setLanParam P channel req param = SetLan.gatewayMAC P channel req f) ∧
    ∀ P channel set ret, getLanParam P channel set ret param = GetLan.gatewayMAC P channel ret f := by
  cases f
  · exact ⟨.gateway1MAC, rfl, fun _ _ _ => rfl, fun _ _ _ _ => rfl⟩
  · exact ⟨.ipv6StaticRouter1MAC, rfl, fun _ _ _ => rfl, fun _ _ _ _ => rfl⟩

theorem setGatewayMAC_request (P : Platform) (channel : Nat) (f : Family) (mac : MAC) :
    SetLan.gatewayMAC P channel mac.toList f =
      onNet (channelCall P channel (reconfigureGatewayMAC f · mac) >>= fun _ => pure responseSuccess) := by
  simp only [SetLan.gatewayMAC, unpackExact_array]

theorem gateway_entries_after {n n' : Net} {params : ChannelParams} {gateway : Addr f}
    (atMostOne : ((n.neighbors f params.logicalPath).filter (·.ip == gateway)).length ≤ 1)
    {name : String} (named : params.logicalPath = .iface name) {leaf : _}
    (written : n' = (n.without ((((n.neighbors f params.logicalPath).find? (·.ip == gateway))).map (·.path))).addChild
      name .staticNeighbor (.neighbor (.of f gateway) mac .permanent) leaf) :
    (n'.neighbors f params.logicalPath).filter (·.ip == gateway) =
      [⟨.child name .staticNeighbor n.nextId, gateway, mac⟩] := by
  subst written
  rw [named] at atMostOne ⊢
  have cleared : ((n.neighbors f (.iface name)).filter (·.ip == gateway)).filter (fun nb =>
      !((((n.neighbors f (.iface name)).find? (·.ip == gateway)).map (·.path)).map nb.path.under).getD false) =
      [] := by
    rw [← List.filter_head?]
    generalize (n.neighbors f (.iface name)).filter (·.ip == gateway) = entries at atMostOne ⊢
    match entries, atMostOne with
    | [], _ => rfl
    | [old], _ => simp
  rw [neighbors_addChild_neighbor, neighbors_without, List.filter_append]
  simp only [List.filter_filter, Bool.and_comm, Option.map_map] at cleared ⊢
  simp [cleared]

/-- A successful gateway MAC write leaves one entry for the gateway, and reads back. -/
theorem gateway_mac_set_get (P : Platform) (f : Family) (ctxChannel channelBits : Nat) (s : State)
    (params : ChannelParams) (gateway : Addr f) (mac : MAC)
    (resolves : resolveChannel P (P.convertCurrentChannelNum channelBits ctxChannel) s.net.objs = some params)
    (gatewaySet : s.net.gateway f = some gateway)
    (atMostOne : ((s.net.neighbors f params.logicalPath).filter (·.ip == gateway)).length ≤ 1)
    (succeeds : respond (setLan P ctxChannel channelBits 0 (gatewayMACSelector f) mac.toList s).1 =
      responseSuccess) :
    let s' := (setLan P ctxChannel channelBits 0 (gatewayMACSelector f) mac.toList s).2
    ((s'.net.neighbors f params.logicalPath).filter (·.ip == gateway)).map (·.mac) = [mac] ∧
      respond (getLan P ctxChannel channelBits 0 false (gatewayMACSelector f) 0 0 s').1 =
        responseSuccess (natBits 8 current_revision ++ payloadBits mac.toList) := by
  obtain ⟨param, selects, setCase, getCase⟩ := gatewayMACSelector_cases f
  obtain ⟨valid, dispatched⟩ := setLan_success selects succeeds
  rw [dispatched, setCase, setGatewayMAC_request] at succeeds ⊢
  obtain ⟨u, n', called, after⟩ := onNet_call_success succeeds
  rw [after]
  obtain ⟨-, params', resolves', reconfigured⟩ := channelCall_eq_ok called
  rw [resolves, Option.some.injEq] at resolves'
  subst params'
  obtain ⟨g, hg, reads, lists, name, named, -, written, leafChange⟩ :=
    reconfigureGatewayMAC_eq_ok reconfigured
  rw [gatewaySet, Option.some.injEq] at hg
  subst g
  have entries := gateway_entries_after atMostOne named written
  have serves := leafChange.servesReads ⟨lists, reads⟩
  refine ⟨by simp [entries], ?_⟩
  rw [getLan_valid selects valid, getCase]
  simp only [GetLan.gatewayMAC, onNet_run_fst]
  rw [StM.bind_ok ((channelCall_run serves.1 ((leafChange.resolve P _).trans resolves)).trans
    (getGatewayNeighbor_run serves))]
  simp [leafChange.gateway, gatewaySet, ← List.filter_head?, entries]

/-- Channel 1 on `eth0`, with IPv4 gateway 10.0.0.1 and a static entry for it. -/
def gatewayPlatform : Platform := .ofNames [(1, "eth0")] 15 15

def gatewayAddr : Addr .inet := ⟨[10, 0, 0, 1], rfl⟩

def gatewayState : State :=
  .init (.ofObjs [⟨.iface "eth0", .ethernet .none (Mathlib.Vector.replicate 6 2)⟩,
      ⟨.child "eth0" .staticNeighbor 0, .neighbor (.v4 gatewayAddr) (Mathlib.Vector.replicate 6 7) .permanent⟩]
    (some gatewayAddr) none [] (by decide) (by decide)) ⟨[], none⟩

theorem gateway_mac_set_get_eth0 :
    let mac : MAC := ⟨[2, 0, 0, 0, 0, 9], rfl⟩
    let params : ChannelParams := ⟨1, "eth0", .iface "eth0", .iface "eth0"⟩
    resolveChannel gatewayPlatform 1 gatewayState.net.objs = some params ∧
      gatewayState.net.gateway .inet = some gatewayAddr ∧
      ((gatewayState.net.neighbors .inet params.logicalPath).filter (·.ip == gatewayAddr)).length ≤ 1 ∧
      respond (setLan gatewayPlatform 1 1 0 (gatewayMACSelector .inet) mac.toList gatewayState).1 =
        responseSuccess ∧
      let s' := (setLan gatewayPlatform 1 1 0 (gatewayMACSelector .inet) mac.toList gatewayState).2
      ((s'.net.neighbors .inet params.logicalPath).filter (·.ip == gatewayAddr)).map (·.mac) = [mac] ∧
        respond (getLan gatewayPlatform 1 1 0 false (gatewayMACSelector .inet) 0 0 s').1 =
          responseSuccess (natBits 8 current_revision ++ payloadBits mac.toList) :=
  have resolves : resolveChannel gatewayPlatform 1 gatewayState.net.objs =
      some ⟨1, "eth0", .iface "eth0", .iface "eth0"⟩ := by decide
  have gatewaySet : gatewayState.net.gateway .inet = some gatewayAddr := rfl
  have atMostOne : ((gatewayState.net.neighbors .inet (.iface "eth0")).filter (·.ip == gatewayAddr)).length ≤ 1 := by
    decide
  have succeeds : respond (setLan gatewayPlatform 1 1 0 (gatewayMACSelector .inet)
      [2, 0, 0, 0, 0, 9] gatewayState).1 = responseSuccess := by decide
  ⟨resolves, gatewaySet, atMostOne, succeeds, gateway_mac_set_get gatewayPlatform .inet 1 1 gatewayState _
    gatewayAddr ⟨[2, 0, 0, 0, 0, 9], rfl⟩ resolves gatewaySet atMostOne succeeds⟩

end Ipmi.Transport
