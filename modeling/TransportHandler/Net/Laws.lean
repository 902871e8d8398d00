import TransportHandler.Net.Service

/-!
# What each call of the network service does

One lemma per method; the proofs about handlers cite these and never unfold a method.
-/

namespace Ipmi.Transport

namespace Net

variable {n n' : Net} {path : ObjPath}

/-! ### The object lists of the writers -/

@[simp] theorem removeWhere_objs (drop : Obj → Bool) :
    (n.removeWhere drop).objs = n.objs.filter (fun o => !drop o) := rfl

@[simp] theorem removeWhere_faults (drop : Obj → Bool) : (n.removeWhere drop).faults = n.faults := rfl

@[simp] theorem removeWhere_gateway (drop : Obj → Bool) (f : Family) :
    (n.removeWhere drop).gateway f = n.gateway f := rfl

section Writers

variable {change : ObjData → ObjData} {keeps : ∀ d, (change d).isInterface = d.isInterface}
  {parent : String} {kind : ChildKind} {data : ObjData} {leaf : data.isInterface = false}

@[simp] theorem updateAt_faults : (n.updateAt path change keeps).faults = n.faults := rfl

@[simp] theorem updateAt_gateway (f : Family) : (n.updateAt path change keeps).gateway f = n.gateway f := rfl

@[simp] theorem addChild_objs :
    (n.addChild parent kind data leaf).objs = n.objs ++ [⟨.child parent kind n.nextId, data⟩] := rfl

@[simp] theorem addChild_faults : (n.addChild parent kind data leaf).faults = n.faults := rfl

@[simp] theorem addChild_gateway (f : Family) : (n.addChild parent kind data leaf).gateway f = n.gateway f := rfl

end Writers

/-! ### Paths and the objects beneath an interface -/

/-- An object that is not an interface sits beneath one. -/
theorem childId_of_leaf {o : Obj} (present : o ∈ n.objs) (leaf : o.data.isInterface = false) :
    ∃ parent kind id, o.path = .child parent kind id := by
  have shaped := n.shaped o present
  rw [leaf] at shaped
  match o.path, shaped with
  | .child parent kind id, _ => exact ⟨parent, kind, id, rfl⟩

@[simp] theorem below_removeWhere (drop : Obj → Bool) (root : ObjPath) (intf : Intf) :
    (n.removeWhere drop).below root intf = (n.below root intf).filter (fun o => !drop o) := by
  simp only [below, removeWhere_objs, List.filter_filter, Bool.and_comm]

@[simp] theorem below_addChild {parent : String} {kind : ChildKind} {data : ObjData}
    {leaf : data.isInterface = false} (root : ObjPath) (intf : Intf) :
    (n.addChild parent kind data leaf).below root intf = n.below root intf ++
      [(⟨.child parent kind n.nextId, data⟩ : Obj)].filter
        (fun o => o.path.under root && o.data.implements intf) := by
  simp only [below, addChild_objs, List.filter_append]

theorem ifaceAt?_eq_some {name : String} (h : n.ifaceAt? path = some name) : path = .iface name := by
  cases path with
  | iface x =>
    simp only [ifaceAt?] at h
    split_ifs at h
    cases h
    rfl
  | child => cases h

/-! ### Calls that returned -/

theorem serve_eq_ok {α : Type} {m : Method} {result : Except BusError α} {a : α} :
    n.serve m result = .ok a ↔ m ∉ n.faults ∧ result = .ok a := by
  unfold serve
  split <;> simp_all

theorem subTree_eq_ok {select : Obj → Bool} {objs : List Obj} :
    n.subTree select = .ok objs ↔ .subTree ∉ n.faults ∧ objs = n.objs.filter select := by
  rw [subTree, serve_eq_ok, Except.ok.injEq, @eq_comm _ objs]

theorem lookup_eq_ok {root : ObjPath} {intf : Intf} {objs : List Obj} (h : n.lookup root intf = .ok objs) :
    .subTree ∉ n.faults ∧ objs = n.below root intf := by
  obtain ⟨serves, listed⟩ := serve_eq_ok.mp h
  refine ⟨serves, ?_⟩
  split at listed
  · exact (Except.ok.inj listed).symm
  · exact (Except.ok.inj (serve_eq_ok.mp listed).2).symm

theorem lookup_run {root : ObjPath} {intf : Intf} (lists : .subTree ∉ n.faults)
    (reads : .getProperty ∉ n.faults) : n.lookup root intf = .ok (n.below root intf) := by
  unfold lookup serve
  simp only [lists, reads, if_false, ite_self]

theorem getDHCP_eq_ok {d : DHCPConf} :
    n.getDHCP path = .ok d ↔ .getProperty ∉ n.faults ∧ (n.find? path).bind (·.data.dhcp?) = some d := by
  unfold getDHCP
  rw [serve_eq_ok]
  cases found : (n.find? path).bind (·.data.dhcp?) <;> simp

theorem setDHCP_eq_ok {d : DHCPConf} :
    n.setDHCP path d = .ok n' ↔ .setProperty ∉ n.faults ∧ ((n.find? path).bind (·.data.dhcp?)).isSome ∧
      n' = n.updateAt path (ObjData.setDHCP d) (ObjData.setDHCP_isInterface d) := by
  unfold setDHCP
  rw [serve_eq_ok]
  cases found : (n.find? path).bind (·.data.dhcp?) <;> simp [@eq_comm _ n']

theorem delete_eq_ok :
    n.delete path = .ok n' ↔ .delete ∉ n.faults ∧
      (∃ o, n.find? path = some o ∧ o.data.deletable) ∧ n' = n.removeWhere (·.path.under path) := by
  unfold delete
  rw [serve_eq_ok]
  cases found : n.find? path with
  | none => simp
  | some o => by_cases deletable : o.data.deletable <;> simp [deletable, @eq_comm _ n']

theorem delete_eq_error {e : BusError} (h : n.delete path = .error e) :
    (e = .failed ∧ .delete ∈ n.faults) ∨ (e = .unknownObject ∧ .delete ∉ n.faults ∧ n.find? path = none) ∨
      (e = .unknownMethod ∧ ∃ o, n.find? path = some o ∧ o.data.deletable = false) := by
  unfold delete serve at h
  split at h
  · cases h; exact .inl ⟨rfl, ‹_›⟩
  · split at h
    · cases h; exact .inr (.inl ⟨rfl, ‹_›, ‹_›⟩)
    · split at h
      · cases h
      · cases h; exact .inr (.inr ⟨rfl, _, ‹_›, Bool.eq_false_iff.mpr ‹_›⟩)

theorem createIP_eq_ok {address : IPAddr} {prefixLength : Nat} :
    n.createIP path address prefixLength = .ok n' ↔ .createIP ∉ n.faults ∧
      ∃ name, n.ifaceAt? path = some name ∧
        n' = n.addChild name address.kind (.ip address prefixLength .static) rfl := by
  unfold createIP
  rw [serve_eq_ok]
  cases n.ifaceAt? path <;> simp [@eq_comm _ n']

theorem createNeighbor_eq_ok {ip : IPAddr} {mac : MAC} :
    n.createNeighbor path ip mac = .ok n' ↔ .createNeighbor ∉ n.faults ∧
      ∃ name, n.ifaceAt? path = some name ∧
        n' = n.addChild name .staticNeighbor (.neighbor ip mac .permanent) rfl := by
  unfold createNeighbor
  rw [serve_eq_ok]
  cases n.ifaceAt? path <;> simp [@eq_comm _ n']

theorem createVLAN_eq_ok {ifname : String} {id : Nat} {created : ObjPath}
    (h : n.createVLAN ifname id = .ok (created, n')) : .createVLAN ∉ n.faults ∧
      created = .iface (ifname ++ "_" ++ toString id) ∧ n.find? created = none ∧
      n'.objs = n.objs ++ [⟨created, .vlan id .none⟩] ∧ n'.faults = n.faults ∧
      ∀ f, n'.gateway f = n.gateway f := by
  obtain ⟨serves, made⟩ := serve_eq_ok.mp h
  split at made
  · cases made
  · cases made
    exact ⟨serves, rfl, ‹_›, rfl, rfl, fun _ => rfl⟩

theorem getGateway_eq_ok {f : Family} {g : Option (Addr f)} :
    n.getGateway f = .ok g ↔ .getProperty ∉ n.faults ∧ g = n.gateway f := by
  rw [getGateway, serve_eq_ok, Except.ok.injEq, @eq_comm _ g]

end Net

end Ipmi.Transport
