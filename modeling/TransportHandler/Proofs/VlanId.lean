import TransportHandler.Proofs.Interface
import TransportHandler.Proofs.VlanWord

/-!
# The VLAN a channel reports

After Set VLANId the channel resolves to the same physical interface and the new VLAN, and
Get VLANId reads back the word.
-/

namespace Ipmi.Transport

variable {P : Platform} {channel : Nat} {n n' : Net} {params params' : ChannelParams} {u : Unit}

/-! ### Resolution as two searches -/

/-- The paths of the physical interfaces among `objs`, in the mapper's order. -/
def physicalPaths (objs : List Obj) : List ObjPath := (objs.filter fun o => !o.data.deletable).map (·.path)

def vlanPaths (objs : List Obj) : List ObjPath := (objs.filter fun o => o.data matches .vlan ..).map (·.path)

/-- `maybeGetChannelParams` takes the first physical and VLAN interfaces that hold the name. -/
theorem resolveChannel_search (P : Platform) (channel : Nat) (objs : List Obj) :
    resolveChannel P channel objs =
      if (P.getChannelName channel).isEmpty then none else
        ((physicalPaths objs).find? (pathFind ·.str (P.getChannelName channel))).map fun ifPath =>
          ⟨channel, P.getChannelName channel, ifPath,
            ((vlanPaths objs).find? (pathFind ·.str (P.getChannelName channel))).getD ifPath⟩ := by
  unfold resolveChannel channelParamsOf
  split
  · rfl
  have first : ((objs.filter (·.data.isInterface)).foldl (scanStep (P.getChannelName channel)) (none, none)).1 =
      (physicalPaths objs).find? (pathFind ·.str (P.getChannelName channel)) := by
    rw [foldl_scanStep_fst, physicalPaths, List.find?_map]
    dsimp only [Option.orElse]
    simp only [List.find?_filter]
    congr 2
    funext o
    cases o.data <;> simp [ObjData.isInterface, ObjData.deletable]
  have second : ((objs.filter (·.data.isInterface)).foldl (scanStep (P.getChannelName channel)) (none, none)).2 =
      (vlanPaths objs).find? (pathFind ·.str (P.getChannelName channel)) := by
    rw [foldl_scanStep_snd, vlanPaths, List.find?_map]
    dsimp only [Option.orElse]
    simp only [List.find?_filter]
    congr 2
    funext o
    cases o.data <;> simp [ObjData.isInterface]
  generalize (objs.filter (·.data.isInterface)).foldl (scanStep (P.getChannelName channel)) (none, none) = found
    at first second
  obtain ⟨_, _⟩ := found
  subst first second
  cases (physicalPaths objs).find? (pathFind ·.str (P.getChannelName channel)) <;> rfl

@[simp] theorem physicalPaths_append_vlan (objs : List Obj) (path : ObjPath) (id : Nat) (d : DHCPConf) :
    physicalPaths (objs ++ [⟨path, .vlan id d⟩]) = physicalPaths objs := by
  simp [physicalPaths, ObjData.deletable]

@[simp] theorem vlanPaths_append_vlan (objs : List Obj) (path : ObjPath) (id : Nat) (d : DHCPConf) :
    vlanPaths (objs ++ [⟨path, .vlan id d⟩]) = vlanPaths objs ++ [path] := by
  simp [vlanPaths]

/-! ### The teardown keeps the physical interfaces -/

theorem Net.physical_iface {o : Obj} (present : o ∈ n.objs) (physical : o.data.deletable = false) :
    ∃ name, o.path = .iface name := by
  have shaped := n.shaped o present
  obtain ⟨path, data⟩ := o
  cases data with
  | ethernet =>
    cases path with
    | iface name => exact ⟨name, rfl⟩
    | child => simp [ObjData.isInterface, ObjPath.childId?] at shaped
  | _ => cases physical

theorem physicalPaths_delete {path : ObjPath} (h : n.delete path = .ok n') :
    physicalPaths n'.objs = physicalPaths n.objs := by
  obtain ⟨-, ⟨o, found, deletable⟩, rfl⟩ := Net.delete_eq_ok.mp h
  unfold physicalPaths
  rw [Net.removeWhere_objs, List.filter_filter]
  congr 1
  refine List.filter_congr fun e present => ?_
  cases physical : e.data.deletable
  · obtain ⟨name, iface⟩ := Net.physical_iface present physical
    cases under : e.path.under path
    · rfl
    · have same : e.path = path := by
        rw [iface] at under ⊢
        cases path <;> simp_all [ObjPath.under]
      have found' : n.find? path = some e := same ▸ Net.find?_of_mem present
      cases found.symm.trans found'
      simp [physical] at deletable
  · rfl

theorem deleteObjectIfExists_physical {path : ObjPath} (h : deleteObjectIfExists path n = (.ok u, n')) :
    physicalPaths n'.objs = physicalPaths n.objs ∧ n'.faults = n.faults := by
  rcases deleteObjectIfExists_eq_ok.mp h with deleted | ⟨rfl, -, -⟩
  · obtain ⟨-, -, rfl⟩ := Net.delete_eq_ok.mp deleted
    exact ⟨physicalPaths_delete deleted, rfl⟩
  · exact ⟨rfl, rfl⟩

theorem deconfigureObjects_physical (objs : List Obj) :
    ∀ params n params' n', deconfigureObjects params objs n = (.ok params', n') →
      physicalPaths n'.objs = physicalPaths n.objs ∧ n'.faults = n.faults := by
  induction objs with
  | nil =>
    intro params n params' n' h
    cases h
    exact ⟨rfl, rfl⟩
  | cons o rest ih =>
    intro params n params' n' h
    unfold deconfigureObjects at h
    split at h
    · obtain ⟨_, n1, deleted, later⟩ := StM.bind_eq_ok h
      obtain ⟨physical, faults⟩ := deleteObjectIfExists_physical deleted
      obtain ⟨physical', faults'⟩ := ih _ _ _ _ later
      exact ⟨physical'.trans physical, faults'.trans faults⟩
    · exact ih _ _ _ _ h

theorem physicalPaths_updateAt_setDHCP {path : ObjPath} {d : DHCPConf} :
    physicalPaths (n.updateAt path (ObjData.setDHCP d) (ObjData.setDHCP_isInterface d)).objs =
      physicalPaths n.objs := by
  have keeps : ∀ o : Obj, (if o.path = path then { o with data := o.data.setDHCP d } else o).data.deletable =
      o.data.deletable ∧ (if o.path = path then { o with data := o.data.setDHCP d } else o).path = o.path := by
    intro o
    split
    · exact ⟨ObjData.deletable_setDHCP d o.data, rfl⟩
    · exact ⟨rfl, rfl⟩
  unfold physicalPaths Net.updateAt
  rw [List.filter_map, List.map_map]
  refine List.map_congr_left ?_ |>.trans (congrArg _ (List.filter_congr fun o _ => by simp [(keeps o).1]))
  exact fun o _ => (keeps o).2

theorem deconfigureChannel_physical (h : deconfigureChannel params n = (.ok params', n')) :
    physicalPaths n'.objs = physicalPaths n.objs ∧ n'.faults = n.faults := by
  unfold deconfigureChannel at h
  obtain ⟨objs, -, h⟩ := readNet_bind_eq_ok h
  obtain ⟨params1, n1, looped, h⟩ := StM.bind_eq_ok h
  obtain ⟨_, n2, reset, returned⟩ := StM.bind_eq_ok h
  cases returned
  obtain ⟨physical, faults⟩ := deconfigureObjects_physical _ _ _ _ _ looped
  obtain ⟨-, rfl⟩ := setDHCPv6Property_replace_eq_ok reset
  exact ⟨physicalPaths_updateAt_setDHCP.trans physical, faults⟩

theorem createVLAN_objs {vlan : Nat} (h : createVLAN params vlan n = (.ok params', n')) :
    (vlan = 0 ∧ n' = n) ∨ (vlan ≠ 0 ∧ n.find? (.iface (params.ifname ++ "_" ++ toString vlan)) = none ∧
      n'.objs = n.objs ++ [⟨.iface (params.ifname ++ "_" ++ toString vlan), .vlan vlan .none⟩] ∧
      n'.faults = n.faults) := by
  unfold createVLAN at h
  by_cases zero : vlan = 0
  · rw [if_pos zero] at h
    cases h
    exact .inl ⟨zero, rfl⟩
  · rw [if_neg zero] at h
    obtain ⟨_, _, ⟨⟩, h⟩ := StM.bind_eq_ok h
    obtain ⟨newPath, n1, created, returned⟩ := StM.bind_eq_ok h
    obtain ⟨-, rfl, vacant, objs, faults, -⟩ := Net.createVLAN_eq_ok (callNet_eq_ok.mp created)
    cases returned
    exact .inr ⟨zero, vacant, objs, faults⟩

/-! ### The channel after a swap -/

theorem Cleared.vlan_find? {name : String} (cleared : Cleared name n) :
    (vlanPaths n.objs).find? (pathFind ·.str name) = none := by
  refine List.find?_eq_none.mpr fun p listed contains => ?_
  obtain ⟨o, kept, rfl⟩ := List.mem_map.mp listed
  obtain ⟨present, vlan⟩ := List.mem_filter.mp kept
  have kept := cleared o present contains
  obtain ⟨path, data⟩ := o
  cases data <;> simp_all [ObjData.deletable]

/-- After `reconfigureVLAN`, the channel resolves to its physical interface and the new one. -/
theorem reconfigureVLAN_resolves {vlan : Nat} (resolves : resolveChannel P channel n.objs = some params)
    (returns : reconfigureVLAN P params vlan n = (.ok params', n')) :
    resolveChannel P channel n'.objs = some { params with logicalPath :=
        (if vlan = 0 then params.ifPath else .iface (params.ifname ++ "_" ++ toString vlan)) } ∧
      n'.faults = n.faults := by
  obtain ⟨dhcp, params1, n1, n2, n3, -, torn, created, reset, replayed⟩ := reconfigureVLAN_eq_ok returns
  obtain ⟨⟨sameName, -, -⟩, cleared, -⟩ := deconfigureChannel_eq_ok torn
  obtain ⟨physical, faults⟩ := deconfigureChannel_physical torn
  obtain ⟨-, rfl⟩ := setDHCPv6Property_replace_eq_ok reset
  rw [replayed.leaf.resolve, resolveChannel_updateAt (scanStep_setDHCP dhcp), replayed.leaf.faults,
    Net.updateAt_faults]
  rw [resolveChannel_search] at resolves ⊢
  split at resolves
  · cases resolves
  rw [if_neg ‹_›]
  obtain ⟨ifPath, found, rfl⟩ := Option.map_eq_some'.mp resolves
  have noVlan := cleared.vlan_find?
  rcases createVLAN_objs created with ⟨zero, rfl⟩ | ⟨nonzero, -, objs, sameFaults⟩
  · rw [physical, found, noVlan, if_pos zero]
    exact ⟨rfl, faults⟩
  · rw [objs, sameName, physicalPaths_append_vlan, vlanPaths_append_vlan, List.find?_append, physical, found,
      noVlan, if_neg nonzero]
    refine ⟨?_, sameFaults.trans faults⟩
    simp [pathFind_vlanPath]

theorem setDHCPv6Property_reads {d : DHCPConf} {mode : Bool} (h : setDHCPv6Property params d mode n = (.ok u, n')) :
    .getProperty ∉ n.faults := by
  unfold setDHCPv6Property getDHCPProperty at h
  obtain ⟨_, read, -⟩ := readNet_bind_eq_ok h
  exact (Net.getDHCP_eq_ok.mp read).1

theorem reconfigureVLAN_newVlan {vlan : Nat} (nonzero : vlan ≠ 0) (resolves : resolveChannel P channel n.objs = some params)
    (returns : reconfigureVLAN P params vlan n = (.ok params', n')) :
    (∃ d, n'.find? (.iface (params.ifname ++ "_" ++ toString vlan)) =
        some ⟨.iface (params.ifname ++ "_" ++ toString vlan), .vlan vlan d⟩) ∧
      .getProperty ∉ n'.faults ∧ params.ifPath ≠ .iface (params.ifname ++ "_" ++ toString vlan) := by
  obtain ⟨dhcp, params1, n1, n2, n3, -, torn, created, reset, replayed⟩ := reconfigureVLAN_eq_ok returns
  obtain ⟨logical, -⟩ := teardown_eq_ok resolves torn created
  obtain ⟨⟨sameName, -, -⟩, -, -⟩ := deconfigureChannel_eq_ok torn
  obtain ⟨physical, -⟩ := deconfigureChannel_physical torn
  have reads := setDHCPv6Property_reads reset
  obtain ⟨-, rfl⟩ := setDHCPv6Property_replace_eq_ok reset
  rcases createVLAN_objs created with ⟨zero, -⟩ | ⟨-, vacant, objs, -⟩
  · exact absurd zero nonzero
  rw [sameName] at vacant objs
  rw [if_neg nonzero] at logical
  have listed : params.ifPath ∈ physicalPaths n1.objs := by
    rw [physical]
    rw [resolveChannel_search] at resolves
    split at resolves
    · cases resolves
    obtain ⟨ifPath, found, rfl⟩ := Option.map_eq_some'.mp resolves
    exact List.mem_of_find?_eq_some found
  refine ⟨⟨dhcp, ?_⟩, by rw [replayed.leaf.faults]; exact reads, fun same => ?_⟩
  · rw [← logical, replayed.find, Net.find?_updateAt_self, logical, Net.find?, objs, List.find?_append]
    simp only [Net.find?] at vacant
    simp [vacant, ObjData.setDHCP]
  · obtain ⟨o, kept, here⟩ := List.mem_map.mp listed
    exact List.find?_eq_none.mp vacant o (List.mem_filter.mp kept).1 (by simp [here, same])

/-! ### Get VLANId -/

theorem getVLANProperty_physical (same : params.ifPath = params.logicalPath) :
    getVLANProperty params n = (.ok 0, n) := by
  unfold getVLANProperty
  rw [if_pos same]
  rfl

theorem getVLANProperty_vlan {id : Nat} {d : DHCPConf} (differ : params.ifPath ≠ params.logicalPath)
    (reads : .getProperty ∉ n.faults) (found : n.find? params.logicalPath = some ⟨params.logicalPath, .vlan id d⟩)
    (small : id < 2 ^ 12) : getVLANProperty params n = (.ok id, n) := by
  have got : n.getVLANId params.logicalPath = .ok id := by
    simp [Net.getVLANId, Net.serve, reads, found]
  have masked : id &&& VLAN_VALUE_MASK = id := by
    rw [VLAN_VALUE_MASK, show 0x0fff = 2 ^ 12 - 1 from rfl, Nat.and_pow_two_sub_one_eq_mod, Nat.mod_eq_of_lt small]
  unfold getVLANProperty
  rw [if_neg differ, StM.pure_bind]
  dsimp only
  rw [StM.bind_ok (readNet_eq_ok.mpr ⟨got, rfl⟩), if_neg (by rw [masked]; exact not_not.mpr rfl)]
  rfl

theorem readLastDisabledVlan_fst (channel : Nat) (s : State) :
    ∃ s', readLastDisabledVlan channel s = (.ok ((s.lastDisabledVlan channel).getD 0), s') := by
  unfold readLastDisabledVlan
  split <;> simp_all

theorem getLanVlanId_run {channel vlan : Nat} {ret : List Bool} {s : State} (lists : .subTree ∉ s.net.faults)
    (resolves : resolveChannel P channel s.net.objs = some params)
    (property : getVLANProperty params s.net = (.ok vlan, s.net)) :
    (GetLan.vlanId P channel ret s).1 = .ok (responseSuccess (ret ++ natBits 16
      (if vlan ≠ 0 then vlan ||| VLAN_ENABLE_FLAG else (s.lastDisabledVlan channel).getD 0))) := by
  have called : onNet (channelCall P channel getVLANProperty) s = (.ok vlan, s) := by
    show ((channelCall P channel getVLANProperty s.net).1,
      { s with net := (channelCall P channel getVLANProperty s.net).2 }) = _
    rw [channelCall_run lists resolves, property]
  unfold GetLan.vlanId
  rw [StM.bind_ok called]
  by_cases zero : vlan = 0
  · simp only [zero, ne_eq, not_true_eq_false, if_false]
    obtain ⟨s', read⟩ := readLastDisabledVlan_fst channel s
    rw [StM.bind_ok read]
    rfl
  · simp only [ne_eq, zero, not_false_eq_true, if_true]
    rfl

/-! ### Set VLANId, then Get VLANId -/

theorem setVlan_success {channel vlan : Nat} {s : State}
    (h : respond ((discard (onNet (channelCall P channel (reconfigureVLAN P · vlan))) >>= fun _ =>
      pure responseSuccess) s).1 = responseSuccess) :
    .subTree ∉ s.net.faults ∧ ∃ params params' n', resolveChannel P channel s.net.objs = some params ∧
      reconfigureVLAN P params vlan s.net = (.ok params', n') ∧
      ((discard (onNet (channelCall P channel (reconfigureVLAN P · vlan))) >>= fun _ =>
        pure responseSuccess) s).2 = { s with net := n' } := by
  cases ran : channelCall P channel (reconfigureVLAN P · vlan) s.net with
  | mk r n' =>
    cases r with
    | error e =>
      have failed : (discard (onNet (channelCall P channel (reconfigureVLAN P · vlan))) : M Unit) s =
          (.error e, { s with net := n' }) := StM.bind_error (onNet_eq ran)
      rw [StM.bind_error failed] at h
      cases respond_eq_success h
    | ok params' =>
      obtain ⟨lists, params, resolves, returned⟩ := channelCall_eq_ok ran
      have swapped : (discard (onNet (channelCall P channel (reconfigureVLAN P · vlan))) : M Unit) s =
          (.ok (), { s with net := n' }) := StM.bind_ok (onNet_eq ran)
      exact ⟨lists, params, params', n', resolves, returned, by rw [StM.bind_ok swapped]; rfl⟩

/-- A successful Set VLANId with an enabled word moves the channel onto that VLAN. -/
theorem vlan_set_get (P : Platform) (ctxChannel channelBits id : Nat) (s : State) (nonzero : 0 < id)
    (belowMask : id < VLAN_VALUE_MASK)
    (succeeds : respond (setLan P ctxChannel channelBits 0 20
      (bytesOfBits (natBits 16 (id ||| VLAN_ENABLE_FLAG))) s).1 = responseSuccess) :
    respond (getLan P ctxChannel channelBits 0 false 20 0 0
        (setLan P ctxChannel channelBits 0 20 (bytesOfBits (natBits 16 (id ||| VLAN_ENABLE_FLAG))) s).2).1 =
      responseSuccess (natBits 8 current_revision ++ natBits 16 (id ||| VLAN_ENABLE_FLAG)) := by
  have enabled : id ≠ 0 := Nat.pos_iff_ne_zero.mp nonzero
  obtain ⟨valid, dispatched⟩ := setLan_success (show LanParam.ofNat? 20 = some .vlanId from rfl) succeeds
  rw [dispatched, setLanParam, setLanVlanId_enable P _ id nonzero belowMask] at succeeds ⊢
  obtain ⟨lists, params, params', n', resolves, returned, after⟩ := setVlan_success succeeds
  obtain ⟨resolves', faults⟩ := reconfigureVLAN_resolves resolves returned
  obtain ⟨⟨d, found⟩, reads, differ⟩ := reconfigureVLAN_newVlan enabled resolves returned
  rw [if_neg enabled] at resolves'
  have property : getVLANProperty { params with logicalPath := .iface (params.ifname ++ "_" ++ toString id) } n' =
      (.ok id, n') := getVLANProperty_vlan differ reads found (by simp only [VLAN_VALUE_MASK] at belowMask; omega)
  rw [after, getLan_valid (show LanParam.ofNat? 20 = some .vlanId from rfl) valid, getLanParam,
    getLanVlanId_run (show .subTree ∉ n'.faults by rw [faults]; exact lists) resolves' property, if_pos enabled]
  rfl

/-- `eth0` on channel 1, with the VLAN interface `eth0_3` on it. -/
def vlanState : State :=
  .init (.ofObjs [⟨.iface "eth0", .ethernet .none (Mathlib.Vector.replicate 6 2)⟩, ⟨.iface "eth0_3", .vlan 3 .none⟩]
    none none [] (by decide) (by decide)) ⟨[], none⟩

theorem vlan_set_get_eth0 :
    0 < 5 ∧ 5 < VLAN_VALUE_MASK ∧
      respond (setLan interfacePlatform 1 1 0 20 (bytesOfBits (natBits 16 (5 ||| VLAN_ENABLE_FLAG))) vlanState).1 =
        responseSuccess ∧
      respond (getLan interfacePlatform 1 1 0 false 20 0 0
          (setLan interfacePlatform 1 1 0 20 (bytesOfBits (natBits 16 (5 ||| VLAN_ENABLE_FLAG))) vlanState).2).1 =
        responseSuccess (natBits 8 current_revision ++ natBits 16 (5 ||| VLAN_ENABLE_FLAG)) :=
  have succeeds : respond (setLan interfacePlatform 1 1 0 20
      (bytesOfBits (natBits 16 (5 ||| VLAN_ENABLE_FLAG))) vlanState).1 = responseSuccess := by decide
  ⟨by decide, by decide, succeeds, vlan_set_get interfacePlatform 1 1 5 vlanState (by decide) (by decide) succeeds⟩

/-- A successful Set VLANId with a disabled word leaves the channel on its physical interface. -/
theorem vlan_disable_set_get (P : Platform) (ctxChannel channelBits id : Nat) (s : State) (small : id < 2 ^ 12)
    (succeeds : respond (setLan P ctxChannel channelBits 0 20 (bytesOfBits (natBits 16 id)) s).1 = responseSuccess) :
    respond (getLan P ctxChannel channelBits 0 false 20 0 0
        (setLan P ctxChannel channelBits 0 20 (bytesOfBits (natBits 16 id)) s).2).1 =
      responseSuccess (natBits 8 current_revision ++ natBits 16 id) := by
  obtain ⟨valid, dispatched⟩ := setLan_success (show LanParam.ofNat? 20 = some .vlanId from rfl) succeeds
  rw [dispatched, setLanParam, setLanVlanId_disable P _ id small,
    StM.bind_ok (show storeLastDisabledVlan _ id s = _ from rfl)] at succeeds ⊢
  obtain ⟨lists, params, params', n', resolves, returned, after⟩ := setVlan_success succeeds
  obtain ⟨resolves', faults⟩ := reconfigureVLAN_resolves resolves returned
  rw [if_pos rfl] at resolves'
  rw [after, getLan_valid (show LanParam.ofNat? 20 = some .vlanId from rfl) valid, getLanParam,
    getLanVlanId_run (show .subTree ∉ n'.faults by rw [faults]; exact lists) resolves' (getVLANProperty_physical rfl),
    if_neg (not_not.mpr rfl)]
  simp

theorem vlan_disable_set_get_eth0 :
    7 < 2 ^ 12 ∧ respond (setLan interfacePlatform 1 1 0 20 (bytesOfBits (natBits 16 7)) vlanState).1 = responseSuccess ∧
      respond (getLan interfacePlatform 1 1 0 false 20 0 0
          (setLan interfacePlatform 1 1 0 20 (bytesOfBits (natBits 16 7)) vlanState).2).1 =
        responseSuccess (natBits 8 current_revision ++ natBits 16 7) :=
  have succeeds : respond (setLan interfacePlatform 1 1 0 20 (bytesOfBits (natBits 16 7)) vlanState).1 =
      responseSuccess := by decide
  ⟨by decide, succeeds, vlan_disable_set_get interfacePlatform 1 1 7 vlanState (by decide) succeeds⟩

end Ipmi.Transport
