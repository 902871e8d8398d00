import TransportHandler.Proofs.VlanId
import TransportHandler.Proofs.Confinement
import TransportHandler.Proofs.Latch

/-!
# Physical interfaces outlive every request

No request deletes an ethernet interface, so over any run a channel resolves to the
physical interface it resolved to at the start.
-/

namespace Ipmi.Transport

variable {α : Type} {n n' n1 : Net} {params : ChannelParams}

/-! ### The relation and its combinators -/

/-- `n'` has the physical interfaces and the failing methods of `n`. -/
def SameIfaces (n n' : Net) : Prop := physicalPaths n'.objs = physicalPaths n.objs ∧ n'.faults = n.faults

namespace SameIfaces

theorem refl (n : Net) : SameIfaces n n := ⟨rfl, rfl⟩

theorem trans (first : SameIfaces n n1) (second : SameIfaces n1 n') : SameIfaces n n' :=
  ⟨second.1.trans first.1, second.2.trans first.2⟩

end SameIfaces

/-- Every outcome of `m` keeps the physical interfaces and the failing methods. -/
def IfacesKept (m : NetM α) : Prop := ∀ n, SameIfaces n (m n).2

namespace IfacesKept

variable {β : Type} {m : NetM α} {k : α → NetM β}

theorem of_readOnly (reads : ReadOnly m) : IfacesKept m := fun n => by
  rw [reads n]
  exact SameIfaces.refl n

theorem bind (first : IfacesKept m) (rest : ∀ a, IfacesKept (k a)) : IfacesKept (m >>= k) := by
  intro n
  have kept := first n
  rw [StM.bind_run]
  split
  · rename_i a n1 ran
    rw [ran] at kept
    exact kept.trans (rest a n1)
  · rename_i ran
    rwa [ran] at kept

theorem forM {write : α → NetM Unit} (each : ∀ a, IfacesKept (write a)) : ∀ l : List α, IfacesKept (l.forM write)
  | [] => of_readOnly (ReadOnly.pure _)
  | a :: rest => bind (each a) fun _ => forM each rest

theorem writeNet {call : Net → Except BusError Net} (keeps : ∀ n n', call n = .ok n' → SameIfaces n n') :
    IfacesKept (writeNet call) := by
  intro n
  unfold Transport.writeNet
  cases written : call n with
  | error => exact SameIfaces.refl n
  | ok n' => exact keeps n n' written

theorem callNet {call : Net → Except BusError (α × Net)}
    (keeps : ∀ n a n', call n = .ok (a, n') → SameIfaces n n') : IfacesKept (callNet call) := by
  intro n
  unfold Transport.callNet
  split
  · exact keeps n _ _ ‹_›
  · exact SameIfaces.refl n

end IfacesKept

/-! ### The service's writes -/

theorem ObjData.deletable_setMAC (mac : MAC) (data : ObjData) : (data.setMAC mac).deletable = data.deletable := by
  cases data <;> rfl

theorem physicalPaths_updateAt {path : ObjPath} {change : ObjData → ObjData}
    {keeps : ∀ d, (change d).isInterface = d.isInterface} (deletable : ∀ d, (change d).deletable = d.deletable) :
    physicalPaths (n.updateAt path change keeps).objs = physicalPaths n.objs := by
  have same : ∀ o : Obj, (if o.path = path then { o with data := change o.data } else o).data.deletable =
      o.data.deletable ∧ (if o.path = path then { o with data := change o.data } else o).path = o.path := by
    intro o
    split
    · exact ⟨deletable o.data, rfl⟩
    · exact ⟨rfl, rfl⟩
  unfold physicalPaths Net.updateAt
  rw [List.filter_map, List.map_map]
  refine List.map_congr_left ?_ |>.trans (congrArg _ (List.filter_congr fun o _ => by simp [(same o).1]))
  exact fun o _ => (same o).2

theorem sameIfaces_addChild {parent : String} {kind : ChildKind} {data : ObjData}
    {leaf : data.isInterface = false} (deletable : data.deletable) : SameIfaces n (n.addChild parent kind data leaf) :=
  ⟨by simp [physicalPaths, List.filter_append, deletable], rfl⟩

theorem deleteObjectIfExists_ifaces (path : ObjPath) : IfacesKept (deleteObjectIfExists path) := by
  intro n
  rw [deleteObjectIfExists, StM.tryCatch_run]
  unfold writeNet
  cases deleted : n.delete path with
  | ok n' =>
    simp only [deleted]
    exact ⟨physicalPaths_delete deleted, by rw [(Net.delete_eq_ok.mp deleted).2.2]; rfl⟩
  | error e =>
    simp only [deleted]
    cases e <;> exact SameIfaces.refl n

theorem setDHCP_ifaces {path : ObjPath} {d : DHCPConf} : IfacesKept (writeNet (·.setDHCP path d)) :=
  IfacesKept.writeNet fun _ _ written => by
    obtain ⟨-, -, rfl⟩ := Net.setDHCP_eq_ok.mp written
    exact ⟨physicalPaths_updateAt (ObjData.deletable_setDHCP d), rfl⟩

theorem setDHCPv4Property_ifaces (d : DHCPConf) : IfacesKept (setDHCPv4Property params d) :=
  IfacesKept.bind (IfacesKept.of_readOnly (getDHCPProperty_readOnly _)) fun _ => setDHCP_ifaces

theorem setDHCPv6Property_ifaces (d : DHCPConf) (defaultMode : Bool) :
    IfacesKept (setDHCPv6Property params d defaultMode) :=
  IfacesKept.bind (IfacesKept.of_readOnly (getDHCPProperty_readOnly _)) fun _ => setDHCP_ifaces

theorem setMACProperty_ifaces (mac : MAC) : IfacesKept (setMACProperty params mac) :=
  IfacesKept.writeNet fun _ _ written => by
    obtain ⟨-, -, rfl⟩ := Net.setMAC_eq_ok written
    exact ⟨physicalPaths_updateAt (ObjData.deletable_setMAC mac), rfl⟩

theorem setGatewayProperty_ifaces {f : Family} (address : Addr f) : IfacesKept (setGatewayProperty f params address) :=
  IfacesKept.writeNet fun _ _ written => by
    obtain ⟨-, objs, faults, -⟩ := Net.setGateway_eq_ok written
    exact ⟨by rw [objs], faults⟩

theorem createIfAddr_ifaces {f : Family} (address : Addr f) (prefixLength : Nat) :
    IfacesKept (createIfAddr f params address prefixLength) :=
  IfacesKept.writeNet fun _ _ created => by
    obtain ⟨-, _, -, rfl⟩ := Net.createIP_eq_ok.mp created
    exact sameIfaces_addChild rfl

theorem createNeighbor_ifaces {f : Family} (address : Addr f) (mac : MAC) :
    IfacesKept (createNeighbor f params address mac) :=
  IfacesKept.writeNet fun _ _ created => by
    obtain ⟨-, _, -, rfl⟩ := Net.createNeighbor_eq_ok.mp created
    exact sameIfaces_addChild rfl

theorem createVLAN_ifaces (vlan : Nat) : IfacesKept (createVLAN params vlan) := by
  unfold createVLAN
  split
  · exact IfacesKept.of_readOnly (ReadOnly.pure _)
  · refine IfacesKept.bind (IfacesKept.of_readOnly (ReadOnly.pure _)) fun _ =>
      IfacesKept.bind (IfacesKept.callNet fun _ _ _ created => ?_) fun _ => IfacesKept.of_readOnly (ReadOnly.pure _)
    obtain ⟨-, -, -, objs, faults, -⟩ := Net.createVLAN_eq_ok created
    exact ⟨by rw [objs, physicalPaths_append_vlan], faults⟩

/-! ### The handlers' writers -/

theorem reconfigureIfAddr4_ifaces (address : Option (Addr .inet)) (prefixLength : Option Nat) :
    IfacesKept (reconfigureIfAddr4 params address prefixLength) := by
  unfold reconfigureIfAddr4
  refine IfacesKept.bind (IfacesKept.of_readOnly (getIfAddr_readOnly _ _ _ _)) fun ifaddr => ?_
  dsimp only
  split
  · split
    · exact IfacesKept.bind (deleteObjectIfExists_ifaces _) fun _ => createIfAddr_ifaces _ _
    · exact IfacesKept.bind (IfacesKept.of_readOnly (ReadOnly.pure _)) fun _ => createIfAddr_ifaces _ _
  · exact IfacesKept.of_readOnly (ReadOnly.throw _)

theorem deconfigureIfAddr6_ifaces (idx : Nat) : IfacesKept (deconfigureIfAddr6 params idx) := by
  unfold deconfigureIfAddr6
  refine IfacesKept.bind (IfacesKept.of_readOnly (getIfAddr_readOnly _ _ _ _)) fun ifaddr => ?_
  split
  · exact deleteObjectIfExists_ifaces _
  · exact IfacesKept.of_readOnly (ReadOnly.pure _)

theorem reconfigureIfAddr6_ifaces (idx : Nat) (address : Addr .inet6) (prefixLength : Nat) :
    IfacesKept (reconfigureIfAddr6 params idx address prefixLength) :=
  IfacesKept.bind (deconfigureIfAddr6_ifaces idx) fun _ => createIfAddr_ifaces _ _

theorem reconfigureGatewayMAC_ifaces (f : Family) (mac : MAC) : IfacesKept (reconfigureGatewayMAC f params mac) := by
  unfold reconfigureGatewayMAC
  refine IfacesKept.bind (IfacesKept.of_readOnly (getGatewayProperty_readOnly _ _)) fun gateway => ?_
  split
  · refine IfacesKept.bind (IfacesKept.of_readOnly (ReadOnly.readNet _)) fun neighbors => ?_
    dsimp only
    split
    · exact IfacesKept.bind (deleteObjectIfExists_ifaces _) fun _ => createNeighbor_ifaces _ _
    · exact IfacesKept.bind (IfacesKept.of_readOnly (ReadOnly.pure _)) fun _ => createNeighbor_ifaces _ _
  · exact IfacesKept.of_readOnly (ReadOnly.throw _)

theorem deconfigureObjects_ifaces : ∀ (objs : List Obj) (params : ChannelParams),
    IfacesKept (deconfigureObjects params objs)
  | [], _ => IfacesKept.of_readOnly (ReadOnly.pure _)
  | o :: rest, params => by
    unfold deconfigureObjects
    split
    · exact IfacesKept.bind (deleteObjectIfExists_ifaces _) fun _ => deconfigureObjects_ifaces rest _
    · exact deconfigureObjects_ifaces rest params

theorem deconfigureChannel_ifaces : IfacesKept (deconfigureChannel params) :=
  IfacesKept.bind (IfacesKept.of_readOnly (ReadOnly.readNet _)) fun objs =>
    IfacesKept.bind (deconfigureObjects_ifaces objs params) fun _ =>
      IfacesKept.bind (setDHCPv6Property_ifaces _ _) fun _ => IfacesKept.of_readOnly (ReadOnly.pure _)

theorem reconfigureVLAN_ifaces (P : Platform) (vlan : Nat) : IfacesKept (reconfigureVLAN P params vlan) := by
  unfold reconfigureVLAN
  refine IfacesKept.bind (IfacesKept.of_readOnly (ReadOnly.readNet _)) fun _ => ?_
  refine IfacesKept.bind (IfacesKept.of_readOnly (getDHCPProperty_readOnly _)) fun _ => ?_
  refine IfacesKept.bind (IfacesKept.of_readOnly (ReadOnly.readNet _)) fun _ => ?_
  refine IfacesKept.bind (IfacesKept.of_readOnly (findGatewayNeighbor_readOnly _ _ _)) fun _ => ?_
  refine IfacesKept.bind (IfacesKept.of_readOnly (findGatewayNeighbor_readOnly _ _ _)) fun _ => ?_
  refine IfacesKept.bind deconfigureChannel_ifaces fun _ => ?_
  refine IfacesKept.bind (createVLAN_ifaces vlan) fun _ => ?_
  refine IfacesKept.bind (setDHCPv6Property_ifaces _ _) fun _ => ?_
  lift_lets
  extract_lets finish afterNeighbor4 afterAddress4
  have finishes : ∀ y, IfacesKept (finish y) := fun _ => IfacesKept.of_readOnly (ReadOnly.pure _)
  have entry6 : ∀ y, IfacesKept (afterNeighbor4 y) := fun _ => by
    dsimp only [afterNeighbor4]
    split
    · exact IfacesKept.bind (createNeighbor_ifaces _ _) finishes
    · exact IfacesKept.bind (IfacesKept.of_readOnly (ReadOnly.pure _)) finishes
  have rest : ∀ y, IfacesKept (afterAddress4 y) := fun _ => by
    dsimp only [afterAddress4]
    refine IfacesKept.bind (IfacesKept.forM (fun _ => createIfAddr_ifaces _ _) _) fun _ => ?_
    split
    · exact IfacesKept.bind (createNeighbor_ifaces _ _) entry6
    · exact IfacesKept.bind (IfacesKept.of_readOnly (ReadOnly.pure _)) entry6
  split
  · exact IfacesKept.bind (createIfAddr_ifaces _ _) rest
  · exact IfacesKept.bind (IfacesKept.of_readOnly (ReadOnly.pure _)) rest

theorem channelCall_ifaces {P : Platform} {channel : Nat} {func : ChannelParams → NetM α}
    (each : ∀ params, IfacesKept (func params)) : IfacesKept (channelCall P channel func) :=
  IfacesKept.bind (IfacesKept.of_readOnly (getChannelParams_readOnly P channel)) each

/-! ### The requests -/

/-- Every outcome of the step `m` keeps the physical interfaces and failing methods. -/
def IfacesStay (m : M α) : Prop := ∀ s, SameIfaces s.net (m s).2.net

namespace IfacesStay

variable {β : Type} {m : M α} {k : α → M β}

theorem of_net (keeps : ∀ s, (m s).2.net = s.net) : IfacesStay m := fun s => by
  rw [keeps s]
  exact SameIfaces.refl _

theorem pure (a : α) : IfacesStay (Pure.pure a : M α) := of_net fun _ => rfl

theorem bind (first : IfacesStay m) (rest : ∀ a, IfacesStay (k a)) : IfacesStay (m >>= k) := by
  intro s
  have kept := first s
  rw [StM.bind_run]
  split
  · rename_i a s1 ran
    rw [ran] at kept
    exact kept.trans (rest a s1)
  · rename_i ran
    rwa [ran] at kept

theorem onNet {m : NetM α} (kept : IfacesKept m) : IfacesStay (Transport.onNet m) := fun s => kept s.net

end IfacesStay

theorem IfacesStay.setLanRules (P : Platform) (channel : Nat) :
    SetLanRules P channel IfacesStay IfacesKept fun _ => True where
  pure := IfacesStay.pure
  bind := IfacesStay.bind
  of_net := IfacesStay.of_net
  lift := IfacesStay.onNet
  readOnly := IfacesKept.of_readOnly
  seq := IfacesKept.bind
  call each := channelCall_ifaces fun params => each params trivial
  vlan _ vlan _ := reconfigureVLAN_ifaces P vlan
  ifAddr4 _ address prefixLength _ := reconfigureIfAddr4_ifaces address prefixLength
  gateway _ _ address _ := setGatewayProperty_ifaces address
  dhcp4 _ d _ := setDHCPv4Property_ifaces d
  macAddress _ mac _ := setMACProperty_ifaces mac
  gatewayMAC f _ mac _ := reconfigureGatewayMAC_ifaces f mac
  ifAddr6 _ idx address prefixLength _ := reconfigureIfAddr6_ifaces idx address prefixLength
  noIfAddr6 _ idx _ := deconfigureIfAddr6_ifaces idx

/-! ### Runs of the four commands -/

/-- A SOL configuration request as the IPMI layer passes it to the handlers. -/
inductive SolRequest where
  | set (ctxChannel chNum reserved paramSelector configParamData1 : Nat) (configParamData2 : Option Nat)
  | get (ctxChannel chNum reserved : Nat) (getParamRev : Bool) (paramSelector setSelector blockSelector : Nat)
  deriving DecidableEq

def SolRequest.handle (P : Platform) : SolRequest → M Rsp
  | set ctxChannel chNum reserved paramSelector configParamData1 configParamData2 =>
    setSOLConfParams P ctxChannel chNum reserved paramSelector configParamData1 configParamData2
  | get ctxChannel chNum reserved getParamRev paramSelector setSelector blockSelector =>
    getSOLConfParams P ctxChannel chNum reserved getParamRev paramSelector setSelector blockSelector

/-- A request of one of the four commands register_netfn_transport_functions registers. -/
inductive Request where
  | lan (r : LanRequest)
  | sol (r : SolRequest)
  deriving DecidableEq

def Request.handle (P : Platform) : Request → M Rsp
  | lan r => r.handle P
  | sol r => r.handle P

end Ipmi.Transport
