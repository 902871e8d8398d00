import TransportHandler.Handler.Channel

/-!
# Reconciliation against the network service

The helpers between the parameter switch and the service. Those of transporthandler.hpp,
which src/ does not hold, follow the spec.
-/

namespace Ipmi.Transport

/-! ### DHCP -/

def getDHCPProperty (params : ChannelParams) : NetM DHCPConf := readNet (·.getDHCP params.logicalPath)

/-- The mode the DHCP setters write, for the family whose mode is `mine`, beside `other`. -/
def nextDhcp (mine other currentDhcp requestedDhcp : DHCPConf) : DHCPConf :=
  if currentDhcp = other ∧ requestedDhcp = mine then .both
  else if currentDhcp = .none ∧ requestedDhcp = mine then requestedDhcp
  else if requestedDhcp = .none then
    if currentDhcp = .both then other
    else if currentDhcp = mine then .none
    else .none
  else currentDhcp

def setDHCPv4Property (params : ChannelParams) (requestedDhcp : DHCPConf) : NetM Unit := do
  let currentDhcp ← getDHCPProperty params
  writeNet (·.setDHCP params.logicalPath (nextDhcp .v4 .v6 currentDhcp requestedDhcp))

/-- Unlike the IPv4 setter, `defaultMode = false` writes the requested mode as it is. -/
def setDHCPv6Property (params : ChannelParams) (requestedDhcp : DHCPConf)
    (defaultMode : Bool := true) : NetM Unit := do
  let currentDhcp ← getDHCPProperty params
  let nextDhcp := if defaultMode then nextDhcp .v6 .v4 currentDhcp requestedDhcp else requestedDhcp
  writeNet (·.setDHCP params.logicalPath nextDhcp)

/-! ### MAC and deletion -/

def getMACProperty (params : ChannelParams) : NetM MAC := readNet (·.getMAC params.ifPath)

def setMACProperty (params : ChannelParams) (mac : MAC) : NetM Unit :=
  writeNet (·.setMAC params.ifPath mac)

def deleteObjectIfExists (path : ObjPath) : NetM Unit :=
  tryCatch (writeNet (·.delete path)) fun
    | .bus .internalFailure | .bus .unknownObject => pure ()
    | e => throw e

/-! ### Addresses -/

/-- `IfAddr<family>`. -/
structure IfAddr (f : Family) where
  path : ObjPath
  address : Addr f
  origin : AddressOrigin
  prefixLength : Nat
  deriving DecidableEq

def originsV4 : List AddressOrigin := [.static, .dhcp]

/-- Modelled from the spec: `originsV6Static` of transporthandler.hpp. -/
def originsV6Static : List AddressOrigin := [.static]

/-- Modelled from the spec: `originsV6Dynamic` of transporthandler.hpp. -/
def originsV6Dynamic : List AddressOrigin := [.dhcp, .slaac]

def IfAddr.ofObj? (f : Family) (origins : List AddressOrigin) (o : Obj) : Option (IfAddr f) :=
  match o.data with
  | .ip address prefixLength origin =>
    match address.get? f with
    | some a => if origin ∈ origins then some ⟨o.path, a, origin, prefixLength⟩ else none
    | none => none
  | _ => none

/-- Modelled from the spec: `findIfAddr<family>`, the address at slot `idx` in enumeration order. -/
def findIfAddr (f : Family) (origins : List AddressOrigin) (idx : Nat) (ips : List Obj) :
    Option (IfAddr f) :=
  (ips.filterMap (IfAddr.ofObj? f origins))[idx]?

/-- Modelled from the spec: `getIfAddr<family>`. -/
def getIfAddr (f : Family) (params : ChannelParams) (idx : Nat) (origins : List AddressOrigin) :
    NetM (Option (IfAddr f)) := do
  let ips ← readNet (·.lookup params.logicalPath .ip)
  return findIfAddr f origins idx ips

def createIfAddr (f : Family) (params : ChannelParams) (address : Addr f) (prefixLength : Nat) :
    NetM Unit :=
  writeNet (·.createIP params.logicalPath (.of f address) prefixLength)

def getIfAddr4 (params : ChannelParams) : NetM (Option (IfAddr .inet)) :=
  getIfAddr .inet params 0 originsV4

def reconfigureIfAddr4 (params : ChannelParams) (address : Option (Addr .inet))
    (prefixLength : Option Nat) : NetM Unit := do
  let ifaddr ← getIfAddr4 params
  let some newAddress := address.orElse fun _ => ifaddr.map (·.address)
    | throw .internalFailure
  let fallbackPrefix := (ifaddr.map (·.prefixLength)).getD Family.inet.defaultPrefix
  if let some old := ifaddr then deleteObjectIfExists old.path
  createIfAddr .inet params newAddress (prefixLength.getD fallbackPrefix)

def deconfigureIfAddr6 (params : ChannelParams) (idx : Nat) : NetM Unit := do
  let ifaddr ← getIfAddr .inet6 params idx originsV6Static
  if let some old := ifaddr then deleteObjectIfExists old.path

def reconfigureIfAddr6 (params : ChannelParams) (idx : Nat) (address : Addr .inet6)
    (prefixLength : Nat) : NetM Unit := do
  deconfigureIfAddr6 params idx
  createIfAddr .inet6 params address prefixLength

/-! ### Gateways and their neighbor entries -/

/-- `IfNeigh<family>`. -/
structure IfNeigh (f : Family) where
  path : ObjPath
  ip : Addr f
  mac : MAC
  deriving DecidableEq

def IfNeigh.ofObj? (f : Family) (o : Obj) : Option (IfNeigh f) :=
  match o.data with
  | .neighbor ip mac .permanent => (ip.get? f).map fun a => ⟨o.path, a, mac⟩
  | _ => none

/-- Modelled from the spec: `findStaticNeighbor<family>`, the first static entry for `ip`. -/
def findStaticNeighbor (f : Family) (ip : Addr f) (neighbors : List Obj) : Option (IfNeigh f) :=
  (neighbors.filterMap (IfNeigh.ofObj? f)).find? (·.ip == ip)

/-- Modelled from the spec: `getGatewayProperty<family>`. -/
def getGatewayProperty (f : Family) (_params : ChannelParams) : NetM (Option (Addr f)) :=
  readNet (·.getGateway f)

/-- Modelled from the spec: `setGatewayProperty<family>`, a plain property write. -/
def setGatewayProperty (f : Family) (_params : ChannelParams) (address : Addr f) : NetM Unit :=
  writeNet (·.setGateway f address)

/-- Modelled from the spec: `createNeighbor<family>`. -/
def createNeighbor (f : Family) (params : ChannelParams) (address : Addr f) (mac : MAC) : NetM Unit :=
  writeNet (·.createNeighbor params.logicalPath (.of f address) mac)

def findGatewayNeighbor (f : Family) (params : ChannelParams) (neighbors : List Obj) :
    NetM (Option (IfNeigh f)) := do
  let some gateway ← getGatewayProperty f params | return none
  return findStaticNeighbor f gateway neighbors

def getGatewayNeighbor (f : Family) (params : ChannelParams) : NetM (Option (IfNeigh f)) := do
  let neighbors ← readNet (·.lookup params.logicalPath .neighbor)
  findGatewayNeighbor f params neighbors

def reconfigureGatewayMAC (f : Family) (params : ChannelParams) (mac : MAC) : NetM Unit := do
  let some gateway ← getGatewayProperty f params | throw .internalFailure
  let neighbors ← readNet (·.lookup params.logicalPath .neighbor)
  if let some neighbor := findStaticNeighbor f gateway neighbors then
    deleteObjectIfExists neighbor.path
  createNeighbor f params gateway mac

/-! ### VLANs -/

/-- Modelled from the spec: `VLAN_VALUE_MASK`, the 12-bit VLAN id. -/
def VLAN_VALUE_MASK : Nat := 0x0fff

/-- Modelled from the spec: `VLAN_ENABLE_FLAG`, bit 15 of the VLAN word. -/
def VLAN_ENABLE_FLAG : Nat := 0x8000

def getVLANProperty (params : ChannelParams) : NetM Nat := do
  if params.ifPath = params.logicalPath then return 0
  let vlan ← readNet (·.getVLANId params.logicalPath)
  if vlan &&& VLAN_VALUE_MASK ≠ vlan then throw .internalFailure
  return vlan

/-- The loop of `deconfigureChannel` over the deletable objects. -/
def deconfigureObjects (params : ChannelParams) : List Obj → NetM ChannelParams
  | [] => pure params
  | o :: rest =>
    if pathFind o.path.str params.ifname then do
      deleteObjectIfExists o.path
      deconfigureObjects
        (if o.path = params.logicalPath then { params with logicalPath := params.ifPath } else params)
        rest
    else deconfigureObjects params rest

def deconfigureChannel (params : ChannelParams) : NetM ChannelParams := do
  let objs ← readNet (·.subTree (·.data.deletable))
  let params ← deconfigureObjects params objs
  setDHCPv6Property params .none false
  return params

def createVLAN (params : ChannelParams) (vlan : Nat) : NetM ChannelParams := do
  if vlan = 0 then return params
  let newPath ← callNet (·.createVLAN params.ifname vlan)
  return { params with logicalPath := newPath }

/-- The snapshot loop of `reconfigureVLAN`: slots from `i` on, until one is empty, at most `count`. -/
def collectIfAddrs6 (ips : List Obj) (i : Nat) : Nat → List (IfAddr .inet6)
  | 0 => []
  | count + 1 =>
    match findIfAddr .inet6 originsV6Static i ips with
    | none => []
    | some ifaddr6 => ifaddr6 :: collectIfAddrs6 ips (i + 1) count

def reconfigureVLAN (P : Platform) (params : ChannelParams) (vlan : Nat) : NetM ChannelParams := do
  let ips ← readNet (·.lookup params.logicalPath .ip)
  let ifaddr4 := findIfAddr .inet originsV4 0 ips
  let ifaddrs6 := collectIfAddrs6 ips 0 P.maxStatic
  let dhcp ← getDHCPProperty params
  let neighbors ← readNet (·.lookup params.logicalPath .neighbor)
  let neighbor4 ← findGatewayNeighbor .inet params neighbors
  let neighbor6 ← findGatewayNeighbor .inet6 params neighbors
  let params ← deconfigureChannel params
  let params ← createVLAN params vlan
  setDHCPv6Property params dhcp false
  if let some a := ifaddr4 then createIfAddr .inet params a.address a.prefixLength
  ifaddrs6.forM fun a => createIfAddr .inet6 params a.address a.prefixLength
  if let some n := neighbor4 then createNeighbor .inet params n.ip n.mac
  if let some n := neighbor6 then createNeighbor .inet6 params n.ip n.mac
  return params

end Ipmi.Transport
