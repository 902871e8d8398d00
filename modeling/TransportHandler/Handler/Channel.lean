import TransportHandler.Handler.State

/-!
# Channel resolution

`maybeGetChannelParams` turns a channel number into its physical and logical interface
objects, both picked by a substring search of the object paths.
-/

namespace Ipmi.Transport

/-- The channel, its interface name, the physical interface and the logical one addresses go on. -/
structure ChannelParams where
  id : Nat
  ifname : String
  ifPath : ObjPath
  logicalPath : ObjPath
  deriving DecidableEq, Repr

/-- `path.find(name) != path.npos`. -/
def pathFind (path name : String) : Bool := decide (name.data <:+: path.data)

/-- One step of `maybeGetChannelParams`'s loop over the interface objects. -/
def scanStep (ifname : String) (found : Option ObjPath × Option ObjPath) (o : Obj) :
    Option ObjPath × Option ObjPath :=
  if !pathFind o.path.str ifname then found else
    let vlan := match o.data with | .vlan .. => true | _ => false
    let ethernet := o.data.isInterface
    (if found.1.isNone && !vlan && ethernet then some o.path else found.1,
     if found.2.isNone && vlan then some o.path else found.2)

def channelParamsOf (channel : Nat) (ifname : String) (objs : List Obj) : Option ChannelParams :=
  match objs.foldl (scanStep ifname) (none, none) with
  | (none, _) => none
  | (some ifPath, logicalPath) =>
    some { id := channel, ifname, ifPath, logicalPath := logicalPath.getD ifPath }

def maybeGetChannelParams (P : Platform) (channel : Nat) : NetM (Option ChannelParams) := do
  let ifname := P.getChannelName channel
  if ifname.isEmpty then return none
  let objs ← readNet (·.subTree (·.data.isInterface))
  return channelParamsOf channel ifname objs

def getChannelParams (P : Platform) (channel : Nat) : NetM ChannelParams := do
  match ← maybeGetChannelParams P channel with
  | some params => return params
  | none => throw .internalFailure

/-- `channelCall<func>(channel, args...)`. -/
def channelCall {α : Type} (P : Platform) (channel : Nat) (func : ChannelParams → NetM α) :
    NetM α := do
  let params ← getChannelParams P channel
  func params

/-! ### The loop as a search -/

theorem foldl_scanStep_fst (ifname : String) (objs : List Obj) (found : Option ObjPath × Option ObjPath) :
    (objs.foldl (scanStep ifname) found).1 = found.1.orElse fun _ =>
      (objs.find? (fun o => pathFind o.path.str ifname && o.data matches .ethernet ..)).map (·.path) := by
  induction objs generalizing found with
  | nil => obtain ⟨i, l⟩ := found; cases i <;> rfl
  | cons o rest ih =>
    rw [List.foldl_cons, ih, List.find?_cons]
    obtain ⟨path, data⟩ := o
    obtain ⟨i, l⟩ := found
    cases data <;> cases hfind : pathFind path.str ifname <;> cases i <;>
      simp [scanStep, hfind, ObjData.isInterface]

theorem foldl_scanStep_snd (ifname : String) (objs : List Obj) (found : Option ObjPath × Option ObjPath) :
    (objs.foldl (scanStep ifname) found).2 = found.2.orElse fun _ =>
      (objs.find? (fun o => pathFind o.path.str ifname && o.data matches .vlan ..)).map (·.path) := by
  induction objs generalizing found with
  | nil => obtain ⟨i, l⟩ := found; cases l <;> rfl
  | cons o rest ih =>
    rw [List.foldl_cons, ih, List.find?_cons]
    obtain ⟨path, data⟩ := o
    obtain ⟨i, l⟩ := found
    cases data <;> cases hfind : pathFind path.str ifname <;> cases l <;>
      simp [scanStep, hfind, ObjData.isInterface]

end Ipmi.Transport
