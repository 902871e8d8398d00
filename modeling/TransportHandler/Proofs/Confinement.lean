import TransportHandler.Proofs.Router
import TransportHandler.Proofs.SetLanCases

/-!
# What a LAN Set can reach

Whatever it answers, a Set LAN request leaves the objects whose paths do not hold its
channel's interface name as they were. The substring search lets `eth1` reach `eth10`.
-/

namespace Ipmi.Transport

variable {α : Type} {name : String} {P : Platform} {channel : Nat} {params : ChannelParams}

/-! ### The network service's calls -/

theorem Outside.seq {β : Type} {m : NetM α} {k : α → NetM β} (first : Outside name m)
    (rest : ∀ a, Outside name (k a)) : Outside name (m >>= k) :=
  Outside.bind (fun _ => True) first (fun _ _ _ _ => trivial) fun a _ => rest a

theorem writeNet_outside {call : Net → Except BusError Net}
    (keeps : ∀ n n', call n = .ok n' → KeepsOutside name n n') : Outside name (writeNet call) := by
  intro n
  unfold writeNet
  cases written : call n with
  | error => exact KeepsOutside.refl n
  | ok n' => exact keeps n n' written

theorem pathFind_child {parent : String} {kind : ChildKind} {id : Nat}
    (contains : pathFind (ObjPath.iface parent).str name) : pathFind (ObjPath.child parent kind id).str name :=
  pathFind_of_under (by simp [ObjPath.under]) contains

theorem createIfAddr_outside (contains : pathFind params.logicalPath.str name) (f : Family) (address : Addr f)
    (prefixLength : Nat) : Outside name (createIfAddr f params address prefixLength) :=
  writeNet_outside fun _ _ created => by
    obtain ⟨-, _, iface, rfl⟩ := Net.createIP_eq_ok.mp created
    rw [Net.ifaceAt?_eq_some iface] at contains
    exact keepsOutside_of_append rfl fun _ added => List.mem_singleton.mp added ▸ pathFind_child contains

theorem createNeighbor_outside (contains : pathFind params.logicalPath.str name) (f : Family) (address : Addr f)
    (mac : MAC) : Outside name (createNeighbor f params address mac) :=
  writeNet_outside fun _ _ created => by
    obtain ⟨-, _, iface, rfl⟩ := Net.createNeighbor_eq_ok.mp created
    rw [Net.ifaceAt?_eq_some iface] at contains
    exact keepsOutside_of_append rfl fun _ added => List.mem_singleton.mp added ▸ pathFind_child contains

theorem setGatewayProperty_outside (f : Family) (address : Addr f) :
    Outside name (setGatewayProperty f params address) :=
  writeNet_outside fun _ _ written => by
    obtain ⟨-, objs, -⟩ := Net.setGateway_eq_ok written
    exact keepsOutside_of_append (objs.trans (List.append_nil _).symm) fun _ added => nomatch added

theorem setMACProperty_outside (contains : pathFind params.ifPath.str name) (mac : MAC) :
    Outside name (setMACProperty params mac) :=
  writeNet_outside fun _ _ written => by
    obtain ⟨-, -, rfl⟩ := Net.setMAC_eq_ok written
    exact keepsOutside_updateAt (ObjData.setMAC_isInterface mac) contains

theorem setDHCPv4Property_outside (contains : pathFind params.logicalPath.str name) (d : DHCPConf) :
    Outside name (setDHCPv4Property params d) :=
  Outside.seq (Outside.of_readOnly (getDHCPProperty_readOnly _)) fun _ => setDHCP_outside contains

theorem setDHCPv6Property_outside (contains : pathFind params.logicalPath.str name) (d : DHCPConf)
    (defaultMode : Bool) : Outside name (setDHCPv6Property params d defaultMode) :=
  Outside.seq (Outside.of_readOnly (getDHCPProperty_readOnly _)) fun _ => setDHCP_outside contains

theorem Outside.forM {write : α → NetM Unit} (each : ∀ a, Outside name (write a)) :
    ∀ l : List α, Outside name (l.forM write)
  | [] => Outside.of_readOnly (ReadOnly.pure _)
  | a :: rest => Outside.seq (each a) fun _ => Outside.forM each rest

/-! ### Deletions beneath the logical interface -/

theorem ifAddrs_under {n : Net} {f : Family} {origins : List AddressOrigin} {root : ObjPath} {a : IfAddr f}
    (h : a ∈ n.ifAddrs f origins root) : a.path.under root := by
  obtain ⟨o, below, read⟩ := List.mem_filterMap.mp h
  rw [IfAddr.ofObj?_path read]
  exact (Bool.and_eq_true _ _ ▸ (List.mem_filter.mp below).2).1

theorem getIfAddr_under {f : Family} {idx : Nat} {origins : List AddressOrigin} :
    ∀ n found n', getIfAddr f params idx origins n = (.ok found, n') →
      ∀ old ∈ found, old.path.under params.logicalPath := by
  intro n found n' h old listed
  obtain ⟨-, rfl⟩ := getIfAddr_eq_ok h
  exact ifAddrs_under (List.getElem?_mem listed)

theorem reconfigureIfAddr4_outside (contains : pathFind params.logicalPath.str name)
    (address : Option (Addr .inet)) (prefixLength : Option Nat) :
    Outside name (reconfigureIfAddr4 params address prefixLength) := by
  unfold reconfigureIfAddr4
  refine Outside.bind _ (Outside.of_readOnly (getIfAddr_readOnly _ _ _ _)) getIfAddr_under fun ifaddr under => ?_
  dsimp only
  split
  · split
    · exact Outside.seq (deleteObjectIfExists_outside (pathFind_of_under (under _ rfl) contains)) fun _ =>
        createIfAddr_outside contains _ _ _
    · exact Outside.seq (Outside.of_readOnly (ReadOnly.pure _)) fun _ => createIfAddr_outside contains _ _ _
  · exact Outside.of_readOnly (ReadOnly.throw _)

theorem deconfigureIfAddr6_outside (contains : pathFind params.logicalPath.str name) (idx : Nat) :
    Outside name (deconfigureIfAddr6 params idx) := by
  unfold deconfigureIfAddr6
  refine Outside.bind _ (Outside.of_readOnly (getIfAddr_readOnly _ _ _ _)) getIfAddr_under fun ifaddr under => ?_
  split
  · exact deleteObjectIfExists_outside (pathFind_of_under (under _ rfl) contains)
  · exact Outside.of_readOnly (ReadOnly.pure _)

theorem reconfigureIfAddr6_outside (contains : pathFind params.logicalPath.str name) (idx : Nat)
    (address : Addr .inet6) (prefixLength : Nat) : Outside name (reconfigureIfAddr6 params idx address prefixLength) :=
  Outside.seq (deconfigureIfAddr6_outside contains idx) fun _ => createIfAddr_outside contains _ _ _

theorem findStaticNeighbor_under {f : Family} {root : ObjPath} {ip : Addr f} {neighbors : List Obj} {nb : IfNeigh f}
    (listed : ∀ o ∈ neighbors, o.path.under root) (h : findStaticNeighbor f ip neighbors = some nb) :
    nb.path.under root := by
  obtain ⟨o, present, read⟩ := List.mem_filterMap.mp (List.mem_of_find?_eq_some h)
  rw [IfNeigh.ofObj?_path read]
  exact listed o present

theorem reconfigureGatewayMAC_outside (contains : pathFind params.logicalPath.str name) (f : Family) (mac : MAC) :
    Outside name (reconfigureGatewayMAC f params mac) := by
  unfold reconfigureGatewayMAC
  refine Outside.seq (Outside.of_readOnly (getGatewayProperty_readOnly _ _)) fun gateway => ?_
  split
  · refine Outside.bind (fun neighbors : List Obj => ∀ o ∈ neighbors, o.path.under params.logicalPath)
      (Outside.of_readOnly (ReadOnly.readNet _)) (fun _ _ _ listed o present => ?_) fun neighbors listed => ?_
    · rw [(Net.lookup_eq_ok (readNet_eq_ok.mp listed).1).2] at present
      exact (Bool.and_eq_true _ _ ▸ (List.mem_filter.mp present).2).1
    dsimp only
    split
    · exact Outside.seq (deleteObjectIfExists_outside
        (pathFind_of_under (findStaticNeighbor_under listed ‹_›) contains)) fun _ =>
          createNeighbor_outside contains _ _ _
    · exact Outside.seq (Outside.of_readOnly (ReadOnly.pure _)) fun _ => createNeighbor_outside contains _ _ _
  · exact Outside.of_readOnly (ReadOnly.throw _)

/-! ### The VLAN swap -/

theorem createVLAN_outside (vlan : Nat) : Outside params.ifname (createVLAN params vlan) := by
  unfold createVLAN
  split
  · exact Outside.of_readOnly (ReadOnly.pure _)
  · refine Outside.seq (Outside.of_readOnly (ReadOnly.pure _)) fun _ =>
      Outside.seq ?_ fun _ => Outside.of_readOnly (ReadOnly.pure _)
    intro n
    unfold callNet
    dsimp only
    split
    · obtain ⟨-, rfl, -, objs, -⟩ := Net.createVLAN_eq_ok ‹_›
      exact keepsOutside_of_append objs fun _ added => List.mem_singleton.mp added ▸ pathFind_vlanPath _ _
    · exact KeepsOutside.refl n

/-- `reconfigureVLAN` keeps every object outside the interface name. -/
theorem reconfigureVLAN_outside (physical : pathFind params.ifPath.str params.ifname)
    (logical : pathFind params.logicalPath.str params.ifname) (vlan : Nat) :
    Outside params.ifname (reconfigureVLAN P params vlan) := by
  unfold reconfigureVLAN
  refine Outside.seq (Outside.of_readOnly (ReadOnly.readNet _)) fun _ => ?_
  refine Outside.seq (Outside.of_readOnly (getDHCPProperty_readOnly _)) fun _ => ?_
  refine Outside.seq (Outside.of_readOnly (ReadOnly.readNet _)) fun _ => ?_
  refine Outside.seq (Outside.of_readOnly (findGatewayNeighbor_readOnly _ _ _)) fun _ => ?_
  refine Outside.seq (Outside.of_readOnly (findGatewayNeighbor_readOnly _ _ _)) fun _ => ?_
  refine Outside.bind (Collapsed params) (deconfigureChannel_outside physical logical)
    (fun _ _ _ torn => (deconfigureChannel_eq_ok torn).1) fun params1 collapsed => ?_
  refine Outside.bind (fun params2 : ChannelParams => pathFind params2.logicalPath.str params.ifname)
    (collapsed.1 ▸ createVLAN_outside vlan) (fun _ _ _ created => ?_) fun params2 contains => ?_
  · rcases createVLAN_eq_ok created with ⟨-, rfl, -⟩ | ⟨-, rfl, -⟩
    · rcases collapsed.2.2 with same | same <;> rw [same] <;> assumption
    · rw [← collapsed.1]
      exact pathFind_vlanPath _ _
  refine Outside.seq (setDHCPv6Property_outside contains _ _) fun _ => ?_
  lift_lets
  extract_lets finish afterNeighbor4 afterAddress4
  have finishes : ∀ y, Outside params.ifname (finish y) := fun _ => Outside.of_readOnly (ReadOnly.pure _)
  have entry6 : ∀ y, Outside params.ifname (afterNeighbor4 y) := fun _ => by
    dsimp only [afterNeighbor4]
    split
    · exact Outside.seq (createNeighbor_outside contains _ _ _) finishes
    · exact Outside.seq (Outside.of_readOnly (ReadOnly.pure _)) finishes
  have rest : ∀ y, Outside params.ifname (afterAddress4 y) := fun _ => by
    dsimp only [afterAddress4]
    refine Outside.seq (Outside.forM (fun _ => createIfAddr_outside contains _ _ _) _) fun _ => ?_
    split
    · exact Outside.seq (createNeighbor_outside contains _ _ _) entry6
    · exact Outside.seq (Outside.of_readOnly (ReadOnly.pure _)) entry6
  split
  · exact Outside.seq (createIfAddr_outside contains _ _ _) rest
  · exact Outside.seq (Outside.of_readOnly (ReadOnly.pure _)) rest

/-! ### Channel resolution -/

theorem getChannelParams_eq_ok {n n' : Net} (h : getChannelParams P channel n = (.ok params, n')) :
    resolveChannel P channel n.objs = some params := by
  obtain ⟨found, n1, resolved, returned⟩ := StM.bind_eq_ok h
  obtain ⟨-, rfl, -⟩ := maybeGetChannelParams_eq_ok resolved
  revert returned
  cases resolveChannel P channel n.objs with
  | none => exact fun returned => nomatch returned
  | some p => exact fun returned => by cases returned; rfl

theorem getChannelParams_readOnly (P : Platform) (channel : Nat) : ReadOnly (getChannelParams P channel) :=
  ReadOnly.bind (maybeGetChannelParams_readOnly P channel) fun found => by
    cases found
    · exact ReadOnly.throw _
    · exact ReadOnly.pure _

/-- Parameters resolution gives on `channel`: named for it, with both paths holding the name. -/
def ResolvedFor (P : Platform) (channel : Nat) (params : ChannelParams) : Prop :=
  params.ifname = P.getChannelName channel ∧ pathFind params.ifPath.str params.ifname ∧
    pathFind params.logicalPath.str params.ifname

theorem channelCall_outside {func : ChannelParams → NetM α}
    (each : ∀ params, ResolvedFor P channel params → Outside (P.getChannelName channel) (func params)) :
    Outside (P.getChannelName channel) (channelCall P channel func) :=
  Outside.bind (ResolvedFor P channel) (Outside.of_readOnly (getChannelParams_readOnly P channel))
    (fun _ _ _ got => (resolveChannel_paths (getChannelParams_eq_ok got)).2) each

/-! ### Set LAN Configuration Parameters -/

/-- Every outcome of the step `m` keeps the objects outside `name`. -/
def Confined (name : String) (m : M α) : Prop := ∀ s, KeepsOutside name s.net (m s).2.net

namespace Confined

theorem of_net {m : M α} (keeps : ∀ s, (m s).2.net = s.net) : Confined name m := fun s => by
  rw [keeps s]
  exact KeepsOutside.refl _

theorem pure (a : α) : Confined name (Pure.pure a : M α) := of_net fun _ => rfl

theorem bind {β : Type} {m : M α} {k : α → M β} (first : Confined name m) (rest : ∀ a, Confined name (k a)) :
    Confined name (m >>= k) := by
  intro s
  have kept := first s
  rw [StM.bind_run]
  split
  · rename_i a s1 ran
    rw [ran] at kept
    exact kept.trans (rest a s1)
  · rename_i ran
    rwa [ran] at kept

theorem onNet {m : NetM α} (outside : Outside name m) : Confined name (Transport.onNet m) := fun s => outside s.net

end Confined

theorem Confined.setLanRules (P : Platform) (channel : Nat) :
    SetLanRules P channel (Confined (P.getChannelName channel)) (Outside (P.getChannelName channel))
      (ResolvedFor P channel) where
  pure := Confined.pure
  bind := Confined.bind
  of_net := Confined.of_net
  lift := Confined.onNet
  readOnly := Outside.of_readOnly
  seq := Outside.seq
  call := channelCall_outside
  vlan _ vlan := fun ⟨named, physical, logical⟩ => named ▸ reconfigureVLAN_outside physical logical vlan
  ifAddr4 _ address prefixLength := fun ⟨named, _, logical⟩ =>
    reconfigureIfAddr4_outside (named ▸ logical) address prefixLength
  gateway f _ address := fun _ => setGatewayProperty_outside f address
  dhcp4 _ d := fun ⟨named, _, logical⟩ => setDHCPv4Property_outside (named ▸ logical) d
  macAddress _ mac := fun ⟨named, physical, _⟩ => setMACProperty_outside (named ▸ physical) mac
  gatewayMAC f _ mac := fun ⟨named, _, logical⟩ => reconfigureGatewayMAC_outside (named ▸ logical) f mac
  ifAddr6 _ idx address prefixLength := fun ⟨named, _, logical⟩ =>
    reconfigureIfAddr6_outside (named ▸ logical) idx address prefixLength
  noIfAddr6 _ idx := fun ⟨named, _, logical⟩ => deconfigureIfAddr6_outside (named ▸ logical) idx

/-! ### The whole command -/

/-- A Set LAN request leaves every object outside its channel's interface name as it was. -/
theorem lan_set_confined (P : Platform) (ctxChannel channelBits reserved1 parameter : Nat)
    (req : List UInt8) (s : State) :
    (setLan P ctxChannel channelBits reserved1 parameter req s).2.net.outside
        (P.getChannelName (P.convertCurrentChannelNum channelBits ctxChannel)) =
      s.net.outside (P.getChannelName (P.convertCurrentChannelNum channelBits ctxChannel)) :=
  SetLanRules.setLan req (Confined.setLanRules P _) reserved1 parameter s

/-- Channel 1 on `eth0`, which carries the VLAN interface `eth0_3`, and channel 2 on `eth1`. -/
def twoPortPlatform : Platform := .ofNames [(1, "eth0"), (2, "eth1")] 15 15

def twoPortState : State :=
  .init (.ofObjs [⟨.iface "eth0", .ethernet .none (Mathlib.Vector.replicate 6 2)⟩,
      ⟨.iface "eth0_3", .vlan 3 .none⟩, ⟨.iface "eth1", .ethernet .none (Mathlib.Vector.replicate 6 4)⟩]
    none none [] (by decide) (by decide)) ⟨[], none⟩

/-- Moving channel 1 to VLAN 5 leaves `eth1`, the one object outside `eth0`. -/
example :
    let after := setLan twoPortPlatform 1 1 0 20 (bytesOfBits (natBits 16 (5 ||| VLAN_ENABLE_FLAG))) twoPortState
    respond after.1 = responseSuccess ∧ after.2.net.objs.map (·.path) = [.iface "eth0", .iface "eth1", .iface "eth0_5"] ∧
      after.2.net.outside "eth0" = [⟨.iface "eth1", .ethernet .none (Mathlib.Vector.replicate 6 4)⟩] := by
  decide

end Ipmi.Transport
