import TransportHandler.Proofs.Isolation
import Mathlib.Tactic.ExtractLets
import Mathlib.Tactic.LiftLets

/-!
# Swapping the VLAN beneath a channel

`reconfigureVLAN` saves the first IPv4 address and at most `MAX_IPV6_STATIC_ADDRESSES`
static IPv6 addresses, tears the channel down, and writes them back as static.
-/

namespace Ipmi.Transport

variable {α : Type} {name : String} {n n' n1 : Net} {params params' : ChannelParams} {u : Unit}

/-! ### Object data under the writers -/

theorem ObjData.deletable_setDHCP (d : DHCPConf) (data : ObjData) :
    (data.setDHCP d).deletable = data.deletable := by
  cases data <;> rfl

theorem ObjData.deletable_of_implements {data : ObjData} {intf : Intf} (h : data.implements intf) :
    data.deletable := by
  cases data with
  | ethernet => cases intf <;> cases h
  | _ => rfl

theorem ObjData.dhcp?_setDHCP (d : DHCPConf) {data : ObjData} (h : data.dhcp?.isSome) :
    (data.setDHCP d).dhcp? = some d := by
  cases data <;> first | rfl | cases h

theorem ObjData.implements_setDHCP (d : DHCPConf) (data : ObjData) (intf : Intf) :
    (data.setDHCP d).implements intf = data.implements intf := by
  cases data <;> rfl

theorem ObjData.setDHCP_of_implements (d : DHCPConf) {data : ObjData} {intf : Intf} (h : data.implements intf) :
    data.setDHCP d = data := by
  cases data with
  | ethernet | vlan => cases intf <;> cases h
  | _ => rfl

theorem Net.find?_updateAt_self {path : ObjPath} {change : ObjData → ObjData}
    {keeps : ∀ d, (change d).isInterface = d.isInterface} :
    (n.updateAt path change keeps).find? path = (n.find? path).map fun o => { o with data := change o.data } := by
  have samePath : ((·.path == path) ∘ fun o : Obj => if o.path = path then { o with data := change o.data } else o) =
      (·.path == path) := by
    funext o
    by_cases here : o.path = path <;> simp [here]
  simp only [Net.find?, Net.updateAt, List.find?_map, samePath]
  cases found : n.objs.find? (·.path == path) with
  | none => rfl
  | some o => simp [show o.path = path by simpa using List.find?_some found]

theorem Net.dhcp_updateAt_setDHCP {path : ObjPath} {d : DHCPConf}
    (hasMode : ((n.find? path).bind (·.data.dhcp?)).isSome) :
    ((n.updateAt path (ObjData.setDHCP d) (ObjData.setDHCP_isInterface d)).find? path).bind (·.data.dhcp?) =
      some d := by
  rw [Net.find?_updateAt_self]
  cases found : n.find? path with
  | none => simp [found] at hasMode
  | some o =>
    simp only [found, Option.some_bind] at hasMode
    exact ObjData.dhcp?_setDHCP d hasMode

theorem Net.below_updateAt_setDHCP {path root : ObjPath} {d : DHCPConf} (intf : Intf) :
    (n.updateAt path (ObjData.setDHCP d) (ObjData.setDHCP_isInterface d)).below root intf = n.below root intf := by
  have samePred : ((fun o : Obj => o.path.under root && o.data.implements intf) ∘
      fun o => if o.path = path then { o with data := o.data.setDHCP d } else o) =
        fun o => o.path.under root && o.data.implements intf := by
    funext o
    by_cases here : o.path = path <;> simp [here, ObjData.implements_setDHCP]
  simp only [Net.below, Net.updateAt, List.filter_map, samePred]
  refine (List.map_congr_left fun o listed => ?_).trans (List.map_id _)
  have implements := (Bool.and_eq_true _ _ ▸ (List.mem_filter.mp listed).2).2
  show (if o.path = path then _ else o) = o
  split
  · rw [ObjData.setDHCP_of_implements d implements]
  · rfl

/-! ### What the teardown leaves -/

/-- No deletable object of `n` has a path that contains `name`. -/
def Cleared (name : String) (n : Net) : Prop :=
  ∀ o ∈ n.objs, pathFind o.path.str name → o.data.deletable = false

theorem Cleared.below_eq_nil {root : ObjPath} (cleared : Cleared name n) (contains : pathFind root.str name)
    (intf : Intf) : n.below root intf = [] := by
  refine List.filter_eq_nil_iff.mpr fun o present listed => ?_
  simp only [Bool.and_eq_true] at listed
  have kept := cleared o present (pathFind_of_under listed.1 contains)
  exact Bool.false_ne_true (kept.symm.trans (ObjData.deletable_of_implements listed.2))

theorem Cleared.setDHCP {path : ObjPath} {d : DHCPConf} (cleared : Cleared name n) :
    Cleared name (n.updateAt path (ObjData.setDHCP d) (ObjData.setDHCP_isInterface d)) := by
  intro o present contains
  obtain ⟨o0, present0, rfl⟩ := List.mem_map.mp present
  have outside := cleared o0 present0
  by_cases here : o0.path = path
  · rw [if_pos here] at contains ⊢
    exact (ObjData.deletable_setDHCP d o0.data).trans (outside contains)
  · rw [if_neg here] at contains ⊢
    exact outside contains

theorem deleteObjectIfExists_removes {path : ObjPath} (h : deleteObjectIfExists path n = (.ok u, n')) :
    n'.objs ⊆ n.objs ∧ ∀ o ∈ n'.objs, o.path ≠ path := by
  rcases deleteObjectIfExists_eq_ok.mp h with deleted | ⟨rfl, -, absent⟩
  · obtain ⟨-, -, rfl⟩ := Net.delete_eq_ok.mp deleted
    refine ⟨(List.filter_sublist _).subset, fun o present here => ?_⟩
    simpa [here] using (List.mem_filter.mp present).2
  · exact ⟨List.Subset.refl _, fun o present here => by simpa [here] using List.find?_eq_none.mp absent o present⟩

theorem deconfigureObjects_removes (objs : List Obj) :
    ∀ params n params' n', deconfigureObjects params objs n = (.ok params', n') →
      n'.objs ⊆ n.objs ∧ ∀ o ∈ objs, pathFind o.path.str params.ifname → ∀ o' ∈ n'.objs, o'.path ≠ o.path := by
  induction objs with
  | nil =>
    intro params n params' n' h
    cases h
    exact ⟨List.Subset.refl _, fun _ absent => absurd absent (List.not_mem_nil _)⟩
  | cons o rest ih =>
    intro params n params' n' h
    unfold deconfigureObjects at h
    split at h
    · obtain ⟨_, n1, deleted, later⟩ := StM.bind_eq_ok h
      obtain ⟨kept, removed⟩ := deleteObjectIfExists_removes deleted
      obtain ⟨keptLater, removedLater⟩ := ih _ _ _ _ later
      have sameName : (if o.path = params.logicalPath then { params with logicalPath := params.ifPath }
          else params).ifname = params.ifname := by
        split <;> rfl
      rw [sameName] at removedLater
      refine ⟨keptLater.trans kept, fun o'' listed contains o' present => ?_⟩
      rcases List.mem_cons.mp listed with rfl | later
      · exact removed o' (keptLater present)
      · exact removedLater o'' later contains o' present
    · obtain ⟨kept, removed⟩ := ih _ _ _ _ h
      refine ⟨kept, fun o'' listed contains => ?_⟩
      rcases List.mem_cons.mp listed with rfl | later
      · contradiction
      · exact removed o'' later contains

theorem deconfigureObjects_collapses (objs : List Obj) :
    ∀ params n params' n', deconfigureObjects params objs n = (.ok params', n') →
      (∃ o ∈ objs, o.path = params.logicalPath ∧ pathFind o.path.str params.ifname) →
      params'.logicalPath = params.ifPath := by
  induction objs with
  | nil => exact fun _ _ _ _ _ ⟨_, absent, _⟩ => absurd absent (List.not_mem_nil _)
  | cons o rest ih =>
    intro params n params' n' h ⟨o', listed, logical, contains⟩
    unfold deconfigureObjects at h
    split at h
    · obtain ⟨_, n1, -, later⟩ := StM.bind_eq_ok h
      by_cases collapse : o.path = params.logicalPath
      · obtain ⟨-, physical, result⟩ := deconfigureObjects_collapsed _ _ _ _ _ later
        simp only [collapse, if_true] at physical result
        exact result.elim id id
      · simp only [collapse, if_false] at later
        rcases List.mem_cons.mp listed with rfl | later'
        · exact absurd logical collapse
        · exact ih _ _ _ _ later ⟨o', later', logical, contains⟩
    · rcases List.mem_cons.mp listed with rfl | later'
      · contradiction
      · exact ih _ _ _ _ h ⟨o', later', logical, contains⟩

theorem setDHCPv6Property_replace_eq_ok {d : DHCPConf} (h : setDHCPv6Property params d false n = (.ok u, n')) :
    ((n.find? params.logicalPath).bind (·.data.dhcp?)).isSome ∧
      n' = n.updateAt params.logicalPath (ObjData.setDHCP d) (ObjData.setDHCP_isInterface d) := by
  unfold setDHCPv6Property at h
  obtain ⟨current, -, written⟩ := readNet_bind_eq_ok h
  simp only [Bool.false_eq_true, if_false] at written
  obtain ⟨-, found, rfl⟩ := Net.setDHCP_eq_ok.mp (writeNet_eq_ok.mp written)
  exact ⟨found, rfl⟩

theorem deconfigureChannel_eq_ok (h : deconfigureChannel params n = (.ok params', n')) :
    Collapsed params params' ∧ Cleared params.ifname n' ∧
      ((∃ o ∈ n.objs, o.path = params.logicalPath ∧ o.data.deletable ∧ pathFind o.path.str params.ifname) →
        params'.logicalPath = params.ifPath) := by
  unfold deconfigureChannel at h
  obtain ⟨objs, listed, h⟩ := readNet_bind_eq_ok h
  obtain ⟨-, rfl⟩ := Net.subTree_eq_ok.mp listed
  obtain ⟨params1, n1, looped, h⟩ := StM.bind_eq_ok h
  obtain ⟨_, n2, reset, returned⟩ := StM.bind_eq_ok h
  cases returned
  obtain ⟨kept, removed⟩ := deconfigureObjects_removes _ _ _ _ _ looped
  obtain ⟨-, rfl⟩ := setDHCPv6Property_replace_eq_ok reset
  refine ⟨deconfigureObjects_collapsed _ _ _ _ _ looped, Cleared.setDHCP fun o present contains => ?_,
    fun ⟨o, present, logical, deletable, contains⟩ =>
      deconfigureObjects_collapses _ _ _ _ _ looped ⟨o, List.mem_filter.mpr ⟨present, deletable⟩, logical, contains⟩⟩
  cases deletable : o.data.deletable
  · rfl
  · exact absurd rfl (removed o (List.mem_filter.mpr ⟨kept present, deletable⟩) contains o present)

theorem createVLAN_eq_ok {vlan : Nat} (h : createVLAN params vlan n = (.ok params', n')) :
    (vlan = 0 ∧ params' = params ∧ n' = n) ∨
      (vlan ≠ 0 ∧ params' = { params with logicalPath := .iface (params.ifname ++ "_" ++ toString vlan) } ∧
        ∀ root intf, n'.below root intf = n.below root intf) := by
  unfold createVLAN at h
  by_cases zero : vlan = 0
  · rw [if_pos zero] at h
    cases h
    exact .inl ⟨zero, rfl, rfl⟩
  · rw [if_neg zero] at h
    obtain ⟨_, _, ⟨⟩, h⟩ := StM.bind_eq_ok h
    obtain ⟨newPath, n1, created, returned⟩ := StM.bind_eq_ok h
    have made := callNet_eq_ok.mp created
    obtain ⟨-, rfl, -, objs, -⟩ := Net.createVLAN_eq_ok made
    cases returned
    refine .inr ⟨zero, rfl, fun root intf => ?_⟩
    cases intf <;> simp [Net.below, objs, ObjData.implements]

/-! ### Writing back -/

/-- `n'` is `n` with the objects `ds` added beneath the interface at `root`, in some order. -/
structure Appends (root : ObjPath) (ds : List ObjData) (n n' : Net) : Prop where
  find : n'.find? root = n.find? root
  below : ∀ intf, ((n'.below root intf).map Obj.data).Perm
    ((n.below root intf).map Obj.data ++ ds.filter (·.implements intf))
  leaf : LeafChange n n'

namespace Appends

variable {root : ObjPath} {ds ds' : List ObjData}

theorem refl (root : ObjPath) (n : Net) : Appends root [] n n :=
  ⟨rfl, fun _ => .of_eq (List.append_nil _).symm, LeafChange.refl n⟩

theorem trans (first : Appends root ds n n1) (second : Appends root ds' n1 n') : Appends root (ds ++ ds') n n' :=
  ⟨second.find.trans first.find, fun intf => by
    rw [List.filter_append, ← List.append_assoc]
    exact (second.below intf).trans ((first.below intf).append_right _), first.leaf.trans second.leaf⟩

theorem addChild {kind : ChildKind} {data : ObjData} {leaf : data.isInterface = false} :
    Appends (.iface name) [data] n (n.addChild name kind data leaf) := by
  refine ⟨?_, fun intf => ?_, leafChange_addChild leaf⟩
  · simp [Net.find?, List.find?_append]
  · apply List.Perm.of_eq
    simp [Net.below_addChild, ObjPath.under, List.filter_cons]
    split <;> rfl

theorem forM {write : α → NetM Unit} {data : α → ObjData}
    (each : ∀ a n n' u, write a n = (.ok u, n') → Appends root [data a] n n') :
    ∀ (l : List α) n n' u, l.forM write n = (.ok u, n') → Appends root (l.map data) n n' := by
  intro l
  induction l with
  | nil =>
    intro n n' u h
    cases h
    exact refl root n
  | cons a rest ih =>
    intro n n' u h
    obtain ⟨_, n1, wrote, later⟩ := StM.bind_eq_ok (show (write a >>= fun _ => rest.forM write) n = _ from h)
    exact (each a n n1 _ wrote).trans (ih n1 n' u later)

end Appends

theorem createIfAddr_appends {f : Family} (address : Addr f) (prefixLength : Nat)
    (h : createIfAddr f params address prefixLength n = (.ok u, n')) :
    Appends params.logicalPath [.ip (.of f address) prefixLength .static] n n' := by
  obtain ⟨-, name, named, rfl⟩ := createIfAddr_eq_ok h
  rw [named]
  exact Appends.addChild

theorem createNeighbor_appends {f : Family} (address : Addr f) (mac : MAC)
    (h : createNeighbor f params address mac n = (.ok u, n')) :
    Appends params.logicalPath [.neighbor (.of f address) mac .permanent] n n' := by
  obtain ⟨-, name, named, rfl⟩ := createNeighbor_eq_ok h
  rw [named]
  exact Appends.addChild

/-! ### What `reconfigureVLAN` saves -/

/-- The static neighbor entry of family `f` beneath `root` for that family's gateway. -/
def Net.gatewayNeighbor (n : Net) (f : Family) (root : ObjPath) : Option (IfNeigh f) :=
  (n.gateway f).bind fun g => (n.neighbors f root).find? (·.ip == g)

/-- The addresses `reconfigureVLAN` writes back, all static. -/
def savedAddresses (P : Platform) (n : Net) (root : ObjPath) : List ObjData :=
  (n.ifAddrs .inet originsV4 root).head?.toList.map (fun a => .ip (.v4 a.address) a.prefixLength .static) ++
    ((n.ifAddrs .inet6 originsV6Static root).take P.maxStatic).map fun a => .ip (.v6 a.address) a.prefixLength .static

/-- The neighbor entries it writes back. -/
def savedNeighbors (n : Net) (root : ObjPath) : List ObjData :=
  (n.gatewayNeighbor .inet root).toList.map (fun nb => .neighbor (.v4 nb.ip) nb.mac .permanent) ++
    (n.gatewayNeighbor .inet6 root).toList.map fun nb => .neighbor (.v6 nb.ip) nb.mac .permanent

theorem savedAddresses_filter (P : Platform) (n : Net) (root : ObjPath) :
    (savedAddresses P n root ++ savedNeighbors n root).filter (·.implements .ip) = savedAddresses P n root := by
  have addresses : ∀ d ∈ savedAddresses P n root, d.implements .ip := by
    simp only [savedAddresses, List.mem_append, List.mem_map]
    rintro d (⟨a, -, rfl⟩ | ⟨a, -, rfl⟩) <;> rfl
  have entries : ∀ d ∈ savedNeighbors n root, ¬ d.implements .ip := by
    simp only [savedNeighbors, List.mem_append, List.mem_map]
    rintro d (⟨a, -, rfl⟩ | ⟨a, -, rfl⟩) <;> exact Bool.false_ne_true
  rw [List.filter_append, List.filter_eq_self.mpr addresses, List.filter_eq_nil_iff.mpr entries, List.append_nil]

theorem savedNeighbors_filter (P : Platform) (n : Net) (root : ObjPath) :
    (savedAddresses P n root ++ savedNeighbors n root).filter (·.implements .neighbor) = savedNeighbors n root := by
  have addresses : ∀ d ∈ savedAddresses P n root, ¬ d.implements .neighbor := by
    simp only [savedAddresses, List.mem_append, List.mem_map]
    rintro d (⟨a, -, rfl⟩ | ⟨a, -, rfl⟩) <;> exact Bool.false_ne_true
  have entries : ∀ d ∈ savedNeighbors n root, d.implements .neighbor := by
    simp only [savedNeighbors, List.mem_append, List.mem_map]
    rintro d (⟨a, -, rfl⟩ | ⟨a, -, rfl⟩) <;> rfl
  rw [List.filter_append, List.filter_eq_nil_iff.mpr addresses, List.filter_eq_self.mpr entries, List.nil_append]

theorem findGatewayNeighbor_bind_eq_ok {β : Type} {f : Family} {root : ObjPath} {k : Option (IfNeigh f) → NetM β}
    {b : β} (h : (findGatewayNeighbor f params (n.below root .neighbor) >>= k) n = (.ok b, n')) :
    k (n.gatewayNeighbor f root) n = (.ok b, n') := by
  obtain ⟨found, n1, searched, rest⟩ := StM.bind_eq_ok h
  unfold findGatewayNeighbor at searched
  obtain ⟨gateway, read, returned⟩ := readNet_bind_eq_ok searched
  obtain ⟨-, configured⟩ := Net.getGateway_eq_ok.mp read
  rw [Net.gatewayNeighbor, ← configured]
  cases gateway <;> cases returned <;> exact rest

theorem collectIfAddrs6_eq_take (ips : List Obj) (count : Nat) :
    ∀ i, collectIfAddrs6 ips i count = ((ips.filterMap (IfAddr.ofObj? .inet6 originsV6Static)).drop i).take count := by
  induction count with
  | zero => exact fun _ => rfl
  | succ count ih =>
    intro i
    have slot : findIfAddr .inet6 originsV6Static i ips =
        ((ips.filterMap (IfAddr.ofObj? .inet6 originsV6Static)).drop i).head? := (List.head?_drop _ _).symm
    rw [collectIfAddrs6, slot, ih, ← List.tail_drop]
    cases (ips.filterMap (IfAddr.ofObj? .inet6 originsV6Static)).drop i <;> rfl

theorem reconfigureVLAN_eq_ok {P : Platform} {vlan : Nat} (h : reconfigureVLAN P params vlan n = (.ok params', n')) :
    ∃ dhcp params1 n1 n2 n3, (n.find? params.logicalPath).bind (·.data.dhcp?) = some dhcp ∧
      deconfigureChannel params n = (.ok params1, n1) ∧ createVLAN params1 vlan n1 = (.ok params', n2) ∧
      setDHCPv6Property params' dhcp false n2 = (.ok (), n3) ∧
      Appends params'.logicalPath (savedAddresses P n params.logicalPath ++ savedNeighbors n params.logicalPath)
        n3 n' := by
  unfold reconfigureVLAN at h
  obtain ⟨ips, lookedUp, h⟩ := readNet_bind_eq_ok h
  obtain ⟨-, rfl⟩ := Net.lookup_eq_ok lookedUp
  obtain ⟨dhcp, read, h⟩ := readNet_bind_eq_ok h
  obtain ⟨neighbors, lookedUp, h⟩ := readNet_bind_eq_ok h
  obtain ⟨-, rfl⟩ := Net.lookup_eq_ok lookedUp
  have h := findGatewayNeighbor_bind_eq_ok (findGatewayNeighbor_bind_eq_ok h)
  obtain ⟨params1, n1, torn, h⟩ := StM.bind_eq_ok h
  obtain ⟨params2, n2, created, h⟩ := StM.bind_eq_ok h
  obtain ⟨_, n3, reset, h⟩ := StM.bind_eq_ok h
  generalize savedAddress4 : findIfAddr .inet originsV4 0 (n.below params.logicalPath .ip) = ifaddr4 at h
  generalize savedEntry4 : n.gatewayNeighbor .inet params.logicalPath = neighbor4 at h
  generalize savedEntry6 : n.gatewayNeighbor .inet6 params.logicalPath = neighbor6 at h
  lift_lets at h
  extract_lets finish afterFour afterAddress4 at h
  obtain ⟨n4, address4, h⟩ : ∃ n4, Appends params2.logicalPath
      (ifaddr4.toList.map fun a => .ip (.v4 a.address) a.prefixLength .static) n3 n4 ∧
        afterAddress4 () n4 = (.ok params', n') := by
    cases ifaddr4 with
    | none => obtain ⟨_, _, ⟨⟩, h⟩ := StM.bind_eq_ok h; exact ⟨n3, Appends.refl _ _, h⟩
    | some a => obtain ⟨_, n4, wrote, h⟩ := StM.bind_eq_ok h; exact ⟨n4, createIfAddr_appends _ _ wrote, h⟩
  obtain ⟨_, n5, wrote6, h⟩ := StM.bind_eq_ok h
  have addresses6 :=
    Appends.forM (fun (a : IfAddr .inet6) _ _ _ => createIfAddr_appends a.address a.prefixLength) _ _ _ _ wrote6
  obtain ⟨n6, entry4, h⟩ : ∃ n6, Appends params2.logicalPath
      (neighbor4.toList.map fun nb => .neighbor (.v4 nb.ip) nb.mac .permanent) n5 n6 ∧
        afterFour () n6 = (.ok params', n') := by
    cases neighbor4 with
    | none => obtain ⟨_, _, ⟨⟩, h⟩ := StM.bind_eq_ok h; exact ⟨n5, Appends.refl _ _, h⟩
    | some nb => obtain ⟨_, n6, wrote, h⟩ := StM.bind_eq_ok h; exact ⟨n6, createNeighbor_appends _ _ wrote, h⟩
  obtain ⟨n7, entry6, h⟩ : ∃ n7, Appends params2.logicalPath
      (neighbor6.toList.map fun nb => .neighbor (.v6 nb.ip) nb.mac .permanent) n6 n7 ∧
        finish () n7 = (.ok params', n') := by
    cases neighbor6 with
    | none => obtain ⟨_, _, ⟨⟩, h⟩ := StM.bind_eq_ok h; exact ⟨n6, Appends.refl _ _, h⟩
    | some nb => obtain ⟨_, n7, wrote, h⟩ := StM.bind_eq_ok h; exact ⟨n7, createNeighbor_appends _ _ wrote, h⟩
  cases h
  subst ifaddr4 neighbor4 neighbor6
  refine ⟨dhcp, params1, n1, n2, n3, (Net.getDHCP_eq_ok.mp read).2, torn, created, reset, ?_⟩
  have replayed := ((address4.trans addresses6).trans entry4).trans entry6
  rwa [collectIfAddrs6_eq_take, List.drop_zero, findIfAddr, ← List.head?_eq_getElem?, List.append_assoc] at replayed

/-! ### The new logical interface -/

theorem resolveChannel_logical {P : Platform} {channel : Nat} {objs : List Obj}
    (h : resolveChannel P channel objs = some params) :
    params.logicalPath = params.ifPath ∨
      ∃ o ∈ objs, o.path = params.logicalPath ∧ o.data.deletable ∧ pathFind o.path.str params.ifname := by
  refine (resolveChannel_found h).2.2.2.imp_right fun ⟨o, present, here, contains, vlan⟩ =>
    ⟨o, present, here, ?_, contains⟩
  obtain ⟨path, data⟩ := o
  cases data <;> first | rfl | cases vlan

theorem pathFind_vlanPath (ifname : String) (vlan : Nat) :
    pathFind (ObjPath.iface (ifname ++ "_" ++ toString vlan)).str ifname := by
  simp only [pathFind, ObjPath.str, decide_eq_true_eq]
  exact ⟨(PATH_ROOT ++ "/").data, ("_" ++ toString vlan).data, by simp [List.append_assoc]⟩

theorem teardown_eq_ok {P : Platform} {channel vlan : Nat} {params1 : ChannelParams} {n2 : Net}
    (resolves : resolveChannel P channel n.objs = some params)
    (torn : deconfigureChannel params n = (.ok params1, n1)) (created : createVLAN params1 vlan n1 = (.ok params', n2)) :
    params'.logicalPath = (if vlan = 0 then params.ifPath else .iface (params.ifname ++ "_" ++ toString vlan)) ∧
      ∀ intf, n2.below params'.logicalPath intf = [] := by
  obtain ⟨-, -, physical, -⟩ := resolveChannel_paths resolves
  obtain ⟨⟨sameName, -, collapsed⟩, cleared, collapses⟩ := deconfigureChannel_eq_ok torn
  rcases createVLAN_eq_ok created with ⟨zero, rfl, rfl⟩ | ⟨nonzero, rfl, below⟩
  · have toPhysical : params'.logicalPath = params.ifPath := by
      rcases resolveChannel_logical resolves with same | deleted
      · rw [← same]
        exact collapsed.elim id (·.trans same.symm)
      · exact collapses deleted
    rw [if_pos zero, toPhysical]
    exact ⟨rfl, cleared.below_eq_nil physical⟩
  · rw [if_neg nonzero, sameName]
    refine ⟨rfl, fun intf => ?_⟩
    rw [below]
    exact cleared.below_eq_nil (pathFind_vlanPath _ _) intf

/-- Beneath the new logical interface are, up to order, exactly the saved addresses and entries. -/
theorem reconfigureVLAN_replays (P : Platform) (channel vlan : Nat) (n n' : Net) (params params' : ChannelParams)
    (resolves : resolveChannel P channel n.objs = some params)
    (returns : reconfigureVLAN P params vlan n = (.ok params', n')) :
    params'.logicalPath = (if vlan = 0 then params.ifPath else .iface (params.ifname ++ "_" ++ toString vlan)) ∧
      (n'.find? params'.logicalPath).bind (·.data.dhcp?) = (n.find? params.logicalPath).bind (·.data.dhcp?) ∧
      ((n'.below params'.logicalPath .ip).map Obj.data).Perm (savedAddresses P n params.logicalPath) ∧
      ((n'.below params'.logicalPath .neighbor).map Obj.data).Perm (savedNeighbors n params.logicalPath) := by
  obtain ⟨dhcp, params1, n1, n2, n3, read, torn, created, reset, replayed⟩ := reconfigureVLAN_eq_ok returns
  obtain ⟨logical, empty⟩ := teardown_eq_ok resolves torn created
  obtain ⟨hasMode, rfl⟩ := setDHCPv6Property_replace_eq_ok reset
  have below : ∀ intf, ((n'.below params'.logicalPath intf).map Obj.data).Perm
      ((savedAddresses P n params.logicalPath ++ savedNeighbors n params.logicalPath).filter (·.implements intf)) := by
    intro intf
    have replay := replayed.below intf
    rwa [Net.below_updateAt_setDHCP, empty, List.map_nil, List.nil_append] at replay
  refine ⟨logical, ?_, ?_, ?_⟩
  · rw [replayed.find, Net.dhcp_updateAt_setDHCP hasMode, read]
  · simpa only [savedAddresses_filter] using below .ip
  · simpa only [savedNeighbors_filter P] using below .neighbor

def leasePlatform : Platform := .ofNames [(1, "eth0")] 15 15

def leaseAddr (last : UInt8) : Addr .inet := ⟨[10, 0, 0, last], rfl⟩

/-- `eth0` (DHCPv4) with the lease 10.0.0.1/24 and the static 10.0.0.2/24 and 10.0.0.3/24. -/
def leaseNet : Net :=
  .ofObjs [⟨.iface "eth0", .ethernet .v4 (Mathlib.Vector.replicate 6 2)⟩,
      ⟨.child "eth0" .ipv4 1, .ip (.v4 (leaseAddr 1)) 24 .dhcp⟩,
      ⟨.child "eth0" .ipv4 2, .ip (.v4 (leaseAddr 2)) 24 .static⟩,
      ⟨.child "eth0" .ipv4 3, .ip (.v4 (leaseAddr 3)) 24 .static⟩]
    none none [] (by decide) (by decide)

def leaseParams : ChannelParams := ⟨1, "eth0", .iface "eth0", .iface "eth0"⟩

def leaseSwap : Except Exn ChannelParams × Net := reconfigureVLAN leasePlatform leaseParams 5 leaseNet

theorem reconfigureVLAN_replays_lease :
    resolveChannel leasePlatform 1 leaseNet.objs = some leaseParams ∧
      leaseSwap = (.ok { leaseParams with logicalPath := .iface "eth0_5" }, leaseSwap.2) ∧
      ((ObjPath.iface "eth0_5" = if 5 = 0 then leaseParams.ifPath else .iface (leaseParams.ifname ++ "_" ++ toString 5)) ∧
        (leaseSwap.2.find? (.iface "eth0_5")).bind (·.data.dhcp?) = (leaseNet.find? (.iface "eth0")).bind (·.data.dhcp?) ∧
        ((leaseSwap.2.below (.iface "eth0_5") .ip).map Obj.data).Perm
          (savedAddresses leasePlatform leaseNet (.iface "eth0")) ∧
        ((leaseSwap.2.below (.iface "eth0_5") .neighbor).map Obj.data).Perm (savedNeighbors leaseNet (.iface "eth0"))) :=
  have resolves : resolveChannel leasePlatform 1 leaseNet.objs = some leaseParams := by decide
  have returns : leaseSwap = (.ok { leaseParams with logicalPath := .iface "eth0_5" }, leaseSwap.2) := Prod.ext rfl rfl
  ⟨resolves, returns, reconfigureVLAN_replays leasePlatform 1 5 leaseNet _ leaseParams _ resolves returns⟩

def leaseState : State := .init leaseNet ⟨[], none⟩

/-- Bug: after Set VLANId 5, `eth0_5` holds the DHCP lease as its one static IPv4 address. -/
theorem vlan_swap_replaces_static_address :
    (leaseNet.ifAddrs .inet [.dhcp] (.iface "eth0")).map (fun a => (a.address, a.prefixLength)) =
        [(leaseAddr 1, 24)] ∧
      (leaseNet.ifAddrs .inet [.static] (.iface "eth0")).map (fun a => (a.address, a.prefixLength)) =
        [(leaseAddr 2, 24), (leaseAddr 3, 24)] ∧
      respond (setLan leasePlatform 1 1 0 20 [5, 0x80] leaseState).1 = responseSuccess ∧
      ((setLan leasePlatform 1 1 0 20 [5, 0x80] leaseState).2.net.ifAddrs .inet [.static] (.iface "eth0_5")).map
        (fun a => (a.address, a.prefixLength)) = [(leaseAddr 1, 24)] ∧
      (setLan leasePlatform 1 1 0 20 [5, 0x80] leaseState).2.net.ifAddrs .inet [.dhcp] (.iface "eth0_5") = [] := by
  decide

end Ipmi.Transport
