import TransportHandler.Proofs.Calls

/-!
# The handlers' writes

What each writer leaves behind when it returns; none touches an interface, a gateway or the
failing methods.
-/

namespace Ipmi.Transport

variable {n n' n1 : Net} {params : ChannelParams} {u : Unit} {f : Family}

/-! ### Changes beneath the interfaces -/

/-- `n'` has the interfaces, gateways and failing methods of `n`. -/
structure LeafChange (n n' : Net) : Prop where
  ifaces : n'.objs.filter (·.data.isInterface) = n.objs.filter (·.data.isInterface)
  faults : n'.faults = n.faults
  gateway : ∀ f, n'.gateway f = n.gateway f

namespace LeafChange

theorem refl (n : Net) : LeafChange n n := ⟨rfl, rfl, fun _ => rfl⟩

theorem trans (first : LeafChange n n1) (second : LeafChange n1 n') : LeafChange n n' :=
  ⟨second.ifaces.trans first.ifaces, second.faults.trans first.faults,
    fun f => (second.gateway f).trans (first.gateway f)⟩

theorem resolve (c : LeafChange n n') (P : Platform) (channel : Nat) :
    resolveChannel P channel n'.objs = resolveChannel P channel n.objs :=
  resolveChannel_congr c.ifaces

theorem servesReads (c : LeafChange n n') (reads : n.ServesReads) : n'.ServesReads := by
  rw [Net.ServesReads, c.faults]
  exact reads

end LeafChange

/-- The service after `deleteObjectIfExists` of the object at `path`, if there is one. -/
def Net.without (n : Net) : Option ObjPath → Net
  | none => n
  | some path => n.removeWhere (·.path.under path)

@[simp] theorem Net.without_nextId (old : Option ObjPath) : (n.without old).nextId = n.nextId := by
  cases old <;> rfl

@[simp] theorem Net.without_faults (old : Option ObjPath) : (n.without old).faults = n.faults := by
  cases old <;> rfl

theorem leafChange_addChild {parent : String} {kind : ChildKind} {data : ObjData}
    (leaf : data.isInterface = false) : LeafChange n (n.addChild parent kind data leaf) :=
  ⟨by simp [List.filter_append, leaf], rfl, fun _ => rfl⟩

theorem leafChange_removeWhere_child {parent : String} {kind : ChildKind} {id : Nat} :
    LeafChange n (n.removeWhere (·.path.under (.child parent kind id))) := by
  refine ⟨?_, rfl, fun _ => rfl⟩
  simp only [Net.removeWhere_objs, List.filter_filter]
  refine List.filter_congr fun o present => ?_
  have shaped := n.shaped o present
  cases iface : o.data.isInterface
  · rfl
  · rw [iface] at shaped
    match o.path, shaped with
    | .iface _, _ => rfl

/-! ### Addresses and neighbor entries beneath an interface -/

theorem filterMap_filter_path {β : Type} {read : Obj → Option β} {path : β → ObjPath}
    (keepsPath : ∀ o b, read o = some b → path b = o.path) (keep : ObjPath → Bool) (l : List Obj) :
    (l.filter (keep ·.path)).filterMap read = (l.filterMap read).filter (keep ∘ path) := by
  induction l with
  | nil => rfl
  | cons o rest ih =>
    cases found : read o with
    | none => by_cases kept : keep o.path <;> simp [List.filter_cons, kept, found, ih]
    | some b => by_cases kept : keep o.path <;> simp [List.filter_cons, kept, found, ih, keepsPath o b found]

theorem IfAddr.ofObj?_path {origins : List AddressOrigin} {o : Obj} {a : IfAddr f}
    (h : IfAddr.ofObj? f origins o = some a) : a.path = o.path := by
  unfold IfAddr.ofObj? at h
  split at h
  · split at h
    · split at h
      · cases h; rfl
      · cases h
    · cases h
  · cases h

theorem IfNeigh.ofObj?_path {o : Obj} {nb : IfNeigh f} (h : IfNeigh.ofObj? f o = some nb) :
    nb.path = o.path := by
  unfold IfNeigh.ofObj? at h
  split at h
  · obtain ⟨a, -, rfl⟩ := Option.map_eq_some'.mp h
    rfl
  · cases h

theorem ifAddrs_without (origins : List AddressOrigin) (root : ObjPath) (old : Option ObjPath) :
    (n.without old).ifAddrs f origins root =
      (n.ifAddrs f origins root).filter fun a => !(old.map a.path.under).getD false := by
  cases old with
  | none => simp [Net.without]
  | some path =>
    have keeps := filterMap_filter_path (fun _ _ h => @IfAddr.ofObj?_path f origins _ _ h)
      (fun p => !p.under path) (n.below root .ip)
    simpa [Net.without, Net.ifAddrs] using keeps

theorem neighbors_without (root : ObjPath) (old : Option ObjPath) :
    (n.without old).neighbors f root =
      (n.neighbors f root).filter fun nb => !(old.map nb.path.under).getD false := by
  cases old with
  | none => simp [Net.without]
  | some path =>
    have keeps := filterMap_filter_path (fun _ _ h => IfNeigh.ofObj?_path (f := f) h)
      (fun p => !p.under path) (n.below root .neighbor)
    simpa [Net.without, Net.neighbors] using keeps

theorem ifAddrs_addChild_ip {name : String} {kind : ChildKind} {a : Addr f} {p : Nat}
    (origins : List AddressOrigin) :
    (n.addChild name kind (.ip (.of f a) p .static) rfl).ifAddrs f origins (.iface name) =
      n.ifAddrs f origins (.iface name) ++
        if .static ∈ origins then [⟨.child name kind n.nextId, a, .static, p⟩] else [] := by
  simp only [Net.ifAddrs, Net.below_addChild, List.filterMap_append]
  split <;> simp_all [ObjPath.under, ObjData.implements, IfAddr.ofObj?]

theorem neighbors_addChild_neighbor {name : String} {ip : Addr f} {mac : MAC} :
    (n.addChild name .staticNeighbor (.neighbor (.of f ip) mac .permanent) rfl).neighbors f (.iface name) =
      n.neighbors f (.iface name) ++ [⟨.child name .staticNeighbor n.nextId, ip, mac⟩] := by
  simp [Net.neighbors, ObjPath.under, ObjData.implements, IfNeigh.ofObj?]

theorem leaf_of_ifAddrs {origins : List AddressOrigin} {root : ObjPath} {a : IfAddr f}
    (h : a ∈ n.ifAddrs f origins root) :
    ∃ o ∈ n.objs, o.path = a.path ∧ o.data.isInterface = false := by
  obtain ⟨o, below, read⟩ := List.mem_filterMap.mp h
  refine ⟨o, (List.mem_filter.mp below).1, (IfAddr.ofObj?_path read).symm, ?_⟩
  unfold IfAddr.ofObj? at read
  split at read
  · rename_i data
    rw [data]
    rfl
  · cases read

theorem leaf_of_neighbors {root : ObjPath} {nb : IfNeigh f} (h : nb ∈ n.neighbors f root) :
    ∃ o ∈ n.objs, o.path = nb.path ∧ o.data.isInterface = false := by
  obtain ⟨o, below, read⟩ := List.mem_filterMap.mp h
  refine ⟨o, (List.mem_filter.mp below).1, (IfNeigh.ofObj?_path read).symm, ?_⟩
  unfold IfNeigh.ofObj? at read
  split at read
  · rename_i data
    rw [data]
    rfl
  · cases read

/-! ### The writers -/

theorem deleteObjectIfExists_leaf {o : Obj} (present : o ∈ n.objs) (leaf : o.data.isInterface = false)
    (h : deleteObjectIfExists o.path n = (.ok u, n')) :
    n' = n.without (some o.path) ∧ LeafChange n n' := by
  obtain ⟨parent, kind, id, child⟩ := Net.childId_of_leaf present leaf
  rcases deleteObjectIfExists_eq_ok.mp h with deleted | ⟨-, -, absent⟩
  · obtain ⟨-, -, rfl⟩ := Net.delete_eq_ok.mp deleted
    rw [child]
    exact ⟨rfl, leafChange_removeWhere_child⟩
  · rw [Net.find?_of_mem present] at absent
    cases absent

theorem deleteObjectIfExists_found {path : ObjPath}
    (found : ∃ o ∈ n.objs, o.path = path ∧ o.data.isInterface = false)
    (h : deleteObjectIfExists path n = (.ok u, n')) : n' = n.without (some path) ∧ LeafChange n n' := by
  obtain ⟨o, present, rfl, leaf⟩ := found
  exact deleteObjectIfExists_leaf present leaf h

theorem createIfAddr_eq_ok {address : Addr f} {prefixLength : Nat}
    (h : createIfAddr f params address prefixLength n = (.ok u, n')) :
    .createIP ∉ n.faults ∧ ∃ name, params.logicalPath = .iface name ∧
      n' = n.addChild name (IPAddr.of f address).kind (.ip (.of f address) prefixLength .static) rfl := by
  obtain ⟨serves, name, named, rfl⟩ := Net.createIP_eq_ok.mp (writeNet_eq_ok.mp h)
  exact ⟨serves, name, Net.ifaceAt?_eq_some named, rfl⟩

theorem createNeighbor_eq_ok {address : Addr f} {mac : MAC}
    (h : createNeighbor f params address mac n = (.ok u, n')) :
    .createNeighbor ∉ n.faults ∧ ∃ name, params.logicalPath = .iface name ∧
      n' = n.addChild name .staticNeighbor (.neighbor (.of f address) mac .permanent) rfl := by
  obtain ⟨serves, name, named, rfl⟩ := Net.createNeighbor_eq_ok.mp (writeNet_eq_ok.mp h)
  exact ⟨serves, name, Net.ifaceAt?_eq_some named, rfl⟩

theorem reconfigureIfAddr4_eq_ok {address : Option (Addr .inet)} {prefixLength : Option Nat}
    (h : reconfigureIfAddr4 params address prefixLength n = (.ok u, n')) :
    let old := (n.ifAddrs .inet originsV4 params.logicalPath)[0]?
    ∃ newAddress name, address.orElse (fun _ => old.map (·.address)) = some newAddress ∧
      params.logicalPath = .iface name ∧ .createIP ∉ (n.without (old.map (·.path))).faults ∧
      n' = (n.without (old.map (·.path))).addChild name (IPAddr.of .inet newAddress).kind
        (.ip (.of .inet newAddress) (prefixLength.getD ((old.map (·.prefixLength)).getD 32)) .static) rfl ∧
      LeafChange n n' := by
  obtain ⟨ifaddr, n1, got, rest⟩ := StM.bind_eq_ok h
  obtain ⟨same, first⟩ := getIfAddr_eq_ok got
  subst n1
  rw [← first]
  dsimp only at rest ⊢
  cases chosen : address.orElse (fun _ => ifaddr.map (·.address)) with
  | none => rw [chosen] at rest; cases rest
  | some newAddress =>
    rw [chosen] at rest
    dsimp only at rest
    cases ifaddr with
    | none =>
      simp only [StM.pure_bind] at rest
      obtain ⟨serves, name, named, rfl⟩ := createIfAddr_eq_ok rest
      exact ⟨newAddress, name, rfl, named, serves, rfl, leafChange_addChild _⟩
    | some old =>
      obtain ⟨_, n2, deleted, created⟩ := StM.bind_eq_ok rest
      obtain ⟨rfl, cleared⟩ :=
        deleteObjectIfExists_found (leaf_of_ifAddrs (List.getElem?_mem first.symm)) deleted
      obtain ⟨serves, name, named, rfl⟩ := createIfAddr_eq_ok created
      exact ⟨newAddress, name, rfl, named, serves, rfl, cleared.trans (leafChange_addChild _)⟩

theorem deconfigureIfAddr6_eq_ok {idx : Nat} (h : deconfigureIfAddr6 params idx n = (.ok u, n')) :
    n' = n.without (((n.ifAddrs .inet6 originsV6Static params.logicalPath)[idx]?).map (·.path)) ∧
      LeafChange n n' := by
  obtain ⟨ifaddr, n1, got, deleted⟩ := StM.bind_eq_ok h
  obtain ⟨same, slot⟩ := getIfAddr_eq_ok got
  subst n1
  rw [← slot]
  cases ifaddr with
  | none => cases deleted; exact ⟨rfl, LeafChange.refl _⟩
  | some old => exact deleteObjectIfExists_found (leaf_of_ifAddrs (List.getElem?_mem slot.symm)) deleted

theorem reconfigureIfAddr6_eq_ok {idx : Nat} {address : Addr .inet6} {prefixLength : Nat}
    (h : reconfigureIfAddr6 params idx address prefixLength n = (.ok u, n')) :
    let cleared := n.without (((n.ifAddrs .inet6 originsV6Static params.logicalPath)[idx]?).map (·.path))
    ∃ name, params.logicalPath = .iface name ∧ .createIP ∉ cleared.faults ∧
      n' = cleared.addChild name (IPAddr.of .inet6 address).kind (.ip (.of .inet6 address) prefixLength .static) rfl ∧
        LeafChange n n' := by
  obtain ⟨_, n1, deconfigured, created⟩ := StM.bind_eq_ok h
  obtain ⟨rfl, cleared⟩ := deconfigureIfAddr6_eq_ok deconfigured
  obtain ⟨serves, name, named, rfl⟩ := createIfAddr_eq_ok created
  exact ⟨name, named, serves, rfl, cleared.trans (leafChange_addChild _)⟩

theorem reconfigureGatewayMAC_eq_ok {mac : MAC} (h : reconfigureGatewayMAC f params mac n = (.ok u, n')) :
    ∃ gateway, n.gateway f = some gateway ∧ .getProperty ∉ n.faults ∧ .subTree ∉ n.faults ∧
      let cleared := n.without ((((n.neighbors f params.logicalPath).find? (·.ip == gateway))).map (·.path))
      ∃ name, params.logicalPath = .iface name ∧ .createNeighbor ∉ cleared.faults ∧
        n' = cleared.addChild name .staticNeighbor (.neighbor (.of f gateway) mac .permanent) rfl ∧
        LeafChange n n' := by
  obtain ⟨found, n1, got, rest⟩ := StM.bind_eq_ok h
  obtain ⟨call, same⟩ := readNet_eq_ok.mp got
  subst n1
  obtain ⟨reads, rfl⟩ := Net.getGateway_eq_ok.mp call
  cases hgateway : n.gateway f with
  | none => rw [hgateway] at rest; cases rest
  | some gateway =>
    rw [hgateway] at rest
    dsimp only at rest
    obtain ⟨neighbors, n2, listed, rest⟩ := StM.bind_eq_ok rest
    obtain ⟨call, same⟩ := readNet_eq_ok.mp listed
    subst n2
    obtain ⟨lists, rfl⟩ := Net.lookup_eq_ok call
    refine ⟨gateway, rfl, reads, lists, ?_⟩
    dsimp only at rest ⊢
    have same : (n.neighbors f params.logicalPath).find? (·.ip == gateway) =
        findStaticNeighbor f gateway (n.below params.logicalPath .neighbor) := rfl
    rw [same]
    cases entry : findStaticNeighbor f gateway (n.below params.logicalPath .neighbor) with
    | none =>
      rw [entry] at rest
      simp only [StM.pure_bind] at rest
      obtain ⟨serves, name, named, rfl⟩ := createNeighbor_eq_ok rest
      exact ⟨name, named, serves, rfl, leafChange_addChild _⟩
    | some old =>
      rw [entry] at rest
      rw [← same] at entry
      obtain ⟨_, n3, deleted, created⟩ := StM.bind_eq_ok rest
      obtain ⟨rfl, cleared⟩ :=
        deleteObjectIfExists_found (leaf_of_neighbors (List.mem_of_find?_eq_some entry)) deleted
      obtain ⟨serves, name, named, rfl⟩ := createNeighbor_eq_ok created
      exact ⟨name, named, serves, rfl, cleared.trans (leafChange_addChild _)⟩

end Ipmi.Transport
