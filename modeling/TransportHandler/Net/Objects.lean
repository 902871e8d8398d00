import TransportHandler.Wire.Bits
import Mathlib.Data.List.Nodup

/-!
# The network service's objects

`Net` is the network-management service as the handler sees it through the mapper. Distinct
paths and fresh ids are fields of `Net`.
-/

namespace Ipmi.Transport

/-- An address family, `AF_INET` or `AF_INET6`. -/
inductive Family where
  | inet | inet6
  deriving DecidableEq, Repr

/-- The length of an address of the family, in bytes. -/
def Family.width : Family → Nat
  | .inet => 4
  | .inet6 => 16

/-- Modelled from the spec: `AddrFamily<family>::defaultPrefix` of transporthandler.hpp. -/
def Family.defaultPrefix : Family → Nat
  | .inet => 32
  | .inet6 => 128

/-- `in_addr` and `in6_addr`: an address's bytes in network order. -/
abbrev Addr (f : Family) := Mathlib.Vector UInt8 f.width

/-- `ether_addr`. -/
abbrev MAC := Mathlib.Vector UInt8 6

/-- An address as the service stores it, of either family. -/
inductive IPAddr where
  | v4 (address : Addr .inet)
  | v6 (address : Addr .inet6)
  deriving DecidableEq

def IPAddr.of : (f : Family) → Addr f → IPAddr
  | .inet, a => .v4 a
  | .inet6, a => .v6 a

/-- `maybeStringToAddr<family>`: the address, when it is of family `f`. -/
def IPAddr.get? : (f : Family) → IPAddr → Option (Addr f)
  | .inet, .v4 a => some a
  | .inet6, .v6 a => some a
  | _, _ => none

@[simp] theorem IPAddr.get?_of (f : Family) (a : Addr f) : (IPAddr.of f a).get? f = some a := by
  cases f <;> rfl

/-- `IP::AddressOrigin`. -/
inductive AddressOrigin where
  | static | dhcp | linkLocal | slaac
  deriving DecidableEq, Repr

/-- `EthernetInterface::DHCPConf`: DHCP for both families, one of them, or neither. -/
inductive DHCPConf where
  | both | v6 | v4 | none
  deriving DecidableEq, Repr

/-- `Neighbor::State`; a static entry is `permanent`. -/
inductive NeighborState where
  | incomplete | reachable | stale | invalid | permanent
  deriving DecidableEq, Repr

/-- What an object holds, by the interfaces it implements. -/
inductive ObjData where
  | ethernet (dhcp : DHCPConf) (mac : MAC)
  | vlan (id : Nat) (dhcp : DHCPConf)
  | ip (address : IPAddr) (prefixLength : Nat) (origin : AddressOrigin)
  | neighbor (ip : IPAddr) (mac : MAC) (state : NeighborState)
  deriving DecidableEq

def ObjData.isInterface : ObjData → Bool
  | .ethernet .. | .vlan .. => true
  | _ => false

/-- The kind of object the service puts beneath an interface. -/
inductive ChildKind where
  | ipv4 | ipv6 | staticNeighbor
  deriving DecidableEq, Repr

/-- `PATH_ROOT/<name>` for an interface, `PATH_ROOT/<interface>/<kind>/<id>` beneath one. -/
inductive ObjPath where
  | iface (name : String)
  | child (parent : String) (kind : ChildKind) (id : Nat)
  deriving DecidableEq, Repr

/-- Modelled from the spec: `PATH_ROOT`, the fixed root of the network service's objects. -/
def PATH_ROOT : String := "/xyz/openbmc_project/network"

def ChildKind.str : ChildKind → String
  | .ipv4 => "ipv4"
  | .ipv6 => "ipv6"
  | .staticNeighbor => "static_neighbor"

def ObjPath.str : ObjPath → String
  | .iface name => PATH_ROOT ++ "/" ++ name
  | .child parent kind id => PATH_ROOT ++ "/" ++ parent ++ "/" ++ kind.str ++ "/" ++ toString id

def ObjPath.childId? : ObjPath → Option Nat
  | .iface _ => none
  | .child _ _ id => some id

/-- `path` is at or below the interface object `root`. -/
def ObjPath.under (path root : ObjPath) : Bool :=
  match path, root with
  | .child parent _ _, .iface name => parent == name
  | _, _ => path == root

@[simp] theorem ObjPath.under_self (p : ObjPath) : p.under p = true := by
  cases p <;> simp [ObjPath.under]

@[simp] theorem ObjPath.under_child (p : ObjPath) (parent : String) (kind : ChildKind) (id : Nat) :
    p.under (.child parent kind id) = (p == .child parent kind id) := by
  cases p <;> rfl

structure Obj where
  path : ObjPath
  data : ObjData
  deriving DecidableEq

/-- A method of the service whose calls the transport fails. -/
inductive Method where
  | subTree | getProperty | setProperty | delete | createIP | createNeighbor | createVLAN
  deriving DecidableEq, Repr

/-- The network service: its objects, the next object id, the gateways and the methods that fail. -/
structure Net where
  objs : List Obj
  nextId : Nat
  gateway4 : Option (Addr .inet)
  gateway6 : Option (Addr .inet6)
  faults : List Method
  unique : (objs.map Obj.path).Nodup
  fresh : ∀ o ∈ objs, ∀ id ∈ o.path.childId?, id < nextId
  shaped : ∀ o ∈ objs, o.data.isInterface = o.path.childId?.isNone

/-- Modelled from the spec: the gateway of family `f`, a plain property of the service. -/
def Net.gateway (n : Net) : (f : Family) → Option (Addr f)
  | .inet => n.gateway4
  | .inet6 => n.gateway6

def Net.find? (n : Net) (path : ObjPath) : Option Obj := n.objs.find? (·.path == path)

theorem find?_path_of_mem {objs : List Obj} (unique : (objs.map Obj.path).Nodup) {o : Obj}
    (h : o ∈ objs) : objs.find? (·.path == o.path) = some o := by
  induction objs with
  | nil => cases h
  | cons x xs ih =>
    simp only [List.map_cons, List.nodup_cons] at unique
    rcases List.mem_cons.mp h with rfl | later
    · simp
    · have differ : x.path ≠ o.path := fun same => unique.1 (same ▸ List.mem_map_of_mem _ later)
      simp [List.find?_cons, differ, ih unique.2 later]

theorem Net.find?_of_mem {n : Net} {o : Obj} (h : o ∈ n.objs) : n.find? o.path = some o :=
  find?_path_of_mem n.unique h

end Ipmi.Transport
