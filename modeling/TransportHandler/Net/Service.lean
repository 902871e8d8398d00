import TransportHandler.Net.Objects

/-!
# The network service's methods

A call of a method the transport fails reports `failed` and changes nothing.
-/

namespace Ipmi.Transport

inductive BusError where
  | internalFailure | unknownObject | unknownMethod | unknownProperty | invalidArgument | failed
  deriving DecidableEq, Repr

/-- The object kinds the handler looks up beneath an interface (`INTF_IP`, `INTF_NEIGHBOR`). -/
inductive Intf where
  | ip | neighbor
  deriving DecidableEq, Repr

namespace ObjData

/-- The object implements `xyz.openbmc_project.Object.Delete`. -/
def deletable : ObjData → Bool
  | .ethernet .. => false
  | _ => true

def implements : ObjData → Intf → Bool
  | .ip .., .ip => true
  | .neighbor .., .neighbor => true
  | _, _ => false

def dhcp? : ObjData → Option DHCPConf
  | .ethernet d _ | .vlan _ d => some d
  | _ => none

def setDHCP (d : DHCPConf) : ObjData → ObjData
  | .ethernet _ mac => .ethernet d mac
  | .vlan id _ => .vlan id d
  | other => other

def setMAC (mac : MAC) : ObjData → ObjData
  | .ethernet d _ => .ethernet d mac
  | other => other

theorem setDHCP_isInterface (d : DHCPConf) (data : ObjData) : (data.setDHCP d).isInterface = data.isInterface := by
  cases data <;> rfl

theorem setMAC_isInterface (mac : MAC) (data : ObjData) : (data.setMAC mac).isInterface = data.isInterface := by
  cases data <;> rfl

end ObjData

def IPAddr.kind : IPAddr → ChildKind
  | .v4 _ => .ipv4
  | .v6 _ => .ipv6

namespace Net

def removeWhere (n : Net) (drop : Obj → Bool) : Net where
  objs := n.objs.filter (fun o => !drop o)
  nextId := n.nextId
  gateway4 := n.gateway4
  gateway6 := n.gateway6
  faults := n.faults
  unique := n.unique.sublist ((List.filter_sublist _).map _)
  fresh o member := n.fresh o (List.mem_of_mem_filter member)
  shaped o member := n.shaped o (List.mem_of_mem_filter member)

def updateAt (n : Net) (path : ObjPath) (change : ObjData → ObjData)
    (keeps : ∀ d, (change d).isInterface = d.isInterface) : Net where
  objs := n.objs.map (fun o => if o.path = path then { o with data := change o.data } else o)
  nextId := n.nextId
  gateway4 := n.gateway4
  gateway6 := n.gateway6
  faults := n.faults
  unique := by
    rw [List.map_map]
    convert n.unique using 2
    funext o
    by_cases h : o.path = path <;> simp [h]
  fresh o member := by
    obtain ⟨original, present, rfl⟩ := List.mem_map.mp member
    by_cases h : original.path = path <;> simpa [h] using n.fresh original present
  shaped o member := by
    obtain ⟨original, present, rfl⟩ := List.mem_map.mp member
    by_cases h : original.path = path <;> simpa [h, keeps] using n.shaped original present

/-- A new object beneath `parent`, added at the end: the real ObjectTree sorts by path. -/
def addChild (n : Net) (parent : String) (kind : ChildKind) (data : ObjData)
    (leaf : data.isInterface = false) : Net where
  objs := n.objs ++ [⟨.child parent kind n.nextId, data⟩]
  nextId := n.nextId + 1
  gateway4 := n.gateway4
  gateway6 := n.gateway6
  faults := n.faults
  unique := by
    rw [List.map_append, List.nodup_append]
    refine ⟨n.unique, List.nodup_singleton _, ?_⟩
    intro path old new
    obtain ⟨o, present, rfl⟩ := List.mem_map.mp old
    simp only [List.map_cons, List.map_nil, List.mem_singleton] at new
    have below := n.fresh o present n.nextId (by simp [new, ObjPath.childId?])
    omega
  fresh o member id h := by
    rcases List.mem_append.mp member with old | new
    · exact Nat.lt_succ_of_lt (n.fresh o old id h)
    · simp only [List.mem_singleton] at new
      subst new
      simp only [ObjPath.childId?, Option.mem_def, Option.some.injEq] at h
      omega
  shaped o member := by
    rcases List.mem_append.mp member with old | new
    · exact n.shaped o old
    · simp only [List.mem_singleton] at new
      subst new
      simpa [ObjPath.childId?] using leaf

def addIface (n : Net) (path : ObjPath) (data : ObjData) (vacant : n.find? path = none)
    (named : path.childId? = none) (iface : data.isInterface) : Net where
  objs := n.objs ++ [⟨path, data⟩]
  nextId := n.nextId
  gateway4 := n.gateway4
  gateway6 := n.gateway6
  faults := n.faults
  unique := by
    rw [List.map_append, List.nodup_append]
    refine ⟨n.unique, List.nodup_singleton _, ?_⟩
    intro p old new
    obtain ⟨o, present, rfl⟩ := List.mem_map.mp old
    simp only [List.map_cons, List.map_nil, List.mem_singleton] at new
    have absent := List.find?_eq_none.mp vacant o present
    simp [new] at absent
  fresh o member id h := by
    rcases List.mem_append.mp member with old | new
    · exact n.fresh o old id h
    · simp only [List.mem_singleton] at new
      subst new
      simp [named] at h
  shaped o member := by
    rcases List.mem_append.mp member with old | new
    · exact n.shaped o old
    · simp only [List.mem_singleton] at new
      subst new
      simp [named, iface]

def ofObjs (objs : List Obj) (gateway4 : Option (Addr .inet)) (gateway6 : Option (Addr .inet6))
    (faults : List Method) (unique : (objs.map Obj.path).Nodup)
    (shaped : ∀ o ∈ objs, o.data.isInterface = o.path.childId?.isNone) : Net where
  objs := objs
  nextId := (objs.filterMap (·.path.childId?)).foldr max 0 + 1
  gateway4 := gateway4
  gateway6 := gateway6
  faults := faults
  unique := unique
  fresh o member id h := by
    have used : id ∈ objs.filterMap (·.path.childId?) := List.mem_filterMap.mpr ⟨o, member, h⟩
    have bounded : ∀ ids : List Nat, id ∈ ids → id ≤ ids.foldr max 0 := by
      intro ids
      induction ids with
      | nil => simp
      | cons x xs ih =>
        intro mem
        rcases List.mem_cons.mp mem with rfl | later
        · exact le_max_left _ _
        · exact (ih later).trans (le_max_right _ _)
    exact Nat.lt_succ_of_le (bounded _ used)
  shaped := shaped

/-! ### Calls -/

/-- A call of method `m` that comes back with `result`, unless the transport fails `m`. -/
def serve {α : Type} (n : Net) (m : Method) (result : Except BusError α) : Except BusError α :=
  if m ∈ n.faults then .error .failed else result

/-- `GetSubTree` on the mapper: the objects `select` keeps, in the mapper's order. -/
def subTree (n : Net) (select : Obj → Bool) : Except BusError (List Obj) :=
  n.serve .subTree (.ok (n.objs.filter select))

def below (n : Net) (root : ObjPath) (intf : Intf) : List Obj :=
  n.objs.filter (fun o => o.path.under root && o.data.implements intf)

/-- `getAllDbusObjects` of `intf` below `root`, then each object's `GetAll`. -/
def lookup (n : Net) (root : ObjPath) (intf : Intf) : Except BusError (List Obj) :=
  n.serve .subTree <|
    if (n.below root intf).isEmpty then .ok (n.below root intf)
    else n.serve .getProperty (.ok (n.below root intf))

def getDHCP (n : Net) (path : ObjPath) : Except BusError DHCPConf :=
  n.serve .getProperty <|
    match (n.find? path).bind (·.data.dhcp?) with
    | some d => .ok d
    | none => .error .unknownObject

def setDHCP (n : Net) (path : ObjPath) (d : DHCPConf) : Except BusError Net :=
  n.serve .setProperty <|
    match (n.find? path).bind (·.data.dhcp?) with
    | some _ => .ok (n.updateAt path (ObjData.setDHCP d) (ObjData.setDHCP_isInterface d))
    | none => .error .unknownObject

def getMAC (n : Net) (path : ObjPath) : Except BusError MAC :=
  n.serve .getProperty <|
    match n.find? path with
    | some ⟨_, .ethernet _ mac⟩ => .ok mac
    | _ => .error .unknownObject

def setMAC (n : Net) (path : ObjPath) (mac : MAC) : Except BusError Net :=
  n.serve .setProperty <|
    match n.find? path with
    | some ⟨_, .ethernet _ _⟩ => .ok (n.updateAt path (ObjData.setMAC mac) (ObjData.setMAC_isInterface mac))
    | _ => .error .unknownObject

def getVLANId (n : Net) (path : ObjPath) : Except BusError Nat :=
  n.serve .getProperty <|
    match n.find? path with
    | some ⟨_, .vlan id _⟩ => .ok id
    | _ => .error .unknownObject

/-- Modelled from the spec: reading the gateway property of family `f`. -/
def getGateway (n : Net) (f : Family) : Except BusError (Option (Addr f)) :=
  n.serve .getProperty (.ok (n.gateway f))

/-- Modelled from the spec: writing the gateway property of family `f`. -/
def setGateway (n : Net) : (f : Family) → Addr f → Except BusError Net
  | .inet, a => n.serve .setProperty (.ok { n with gateway4 := some a })
  | .inet6, a => n.serve .setProperty (.ok { n with gateway6 := some a })

/-- `Delete` on the object at `path`; a VLAN interface goes with every object beneath it. -/
def delete (n : Net) (path : ObjPath) : Except BusError Net :=
  n.serve .delete <|
    match n.find? path with
    | none => .error .unknownObject
    | some o => if o.data.deletable then .ok (n.removeWhere (·.path.under path)) else .error .unknownMethod

def ifaceAt? (n : Net) : ObjPath → Option String
  | .iface name => if ((n.find? (.iface name)).map (·.data.isInterface)).getD false then some name else none
  | .child .. => none

/-- The `IP` method on the interface at `path`: a new static address beneath it. -/
def createIP (n : Net) (path : ObjPath) (address : IPAddr) (prefixLength : Nat) :
    Except BusError Net :=
  n.serve .createIP <|
    match n.ifaceAt? path with
    | some name => .ok (n.addChild name address.kind (.ip address prefixLength .static) rfl)
    | none => .error .unknownObject

/-- The `Neighbor` method on the interface at `path`: a new static neighbor entry. -/
def createNeighbor (n : Net) (path : ObjPath) (ip : IPAddr) (mac : MAC) : Except BusError Net :=
  n.serve .createNeighbor <|
    match n.ifaceAt? path with
    | some name => .ok (n.addChild name .staticNeighbor (.neighbor ip mac .permanent) rfl)
    | none => .error .unknownObject

/-- The `VLAN` method: a new VLAN interface `<ifname>_<id>`, refused when the name is taken. -/
def createVLAN (n : Net) (ifname : String) (id : Nat) : Except BusError (ObjPath × Net) :=
  n.serve .createVLAN <|
    match vacant : n.find? (.iface (ifname ++ "_" ++ toString id)) with
    | some _ => .error .invalidArgument
    | none => .ok (.iface (ifname ++ "_" ++ toString id), n.addIface _ (.vlan id .none) vacant rfl rfl)

end Net

end Ipmi.Transport
