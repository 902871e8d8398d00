import TransportHandler.Handler.Reconcile
import TransportHandler.Handler.Netmask
import TransportHandler.Wire.Unpack

/-!
# Parameter selectors and the per-channel maps

The selectors and field codes of the LAN configuration parameters, and the two maps
transporthandler.cpp keeps per channel.
-/

namespace Ipmi.Transport

/-- Modelled from the spec: `LanParam` of transporthandler.hpp, with the protocol's selectors. -/
inductive LanParam where
  | setStatus | authSupport | authEnables | ip | ipSrc | mac | subnetMask | gateway1 | gateway1MAC
  | vlanId | ciphersuiteSupport | ciphersuiteEntries | cipherSuitePrivilegeLevels | ipFamilySupport
  | ipFamilyEnables | ipv6Status | ipv6StaticAddresses | ipv6DynamicAddresses | ipv6RouterControl
  | ipv6StaticRouter1IP | ipv6StaticRouter1MAC | ipv6StaticRouter1PrefixLength
  | ipv6StaticRouter1PrefixValue
  deriving DecidableEq, Repr

/-- `static_cast<LanParam>(parameter)`, for the selectors the switch names. -/
def LanParam.ofNat? : Nat → Option LanParam
  | 0 => some .setStatus
  | 1 => some .authSupport
  | 2 => some .authEnables
  | 3 => some .ip
  | 4 => some .ipSrc
  | 5 => some .mac
  | 6 => some .subnetMask
  | 12 => some .gateway1
  | 13 => some .gateway1MAC
  | 20 => some .vlanId
  | 22 => some .ciphersuiteSupport
  | 23 => some .ciphersuiteEntries
  | 24 => some .cipherSuitePrivilegeLevels
  | 50 => some .ipFamilySupport
  | 51 => some .ipFamilyEnables
  | 55 => some .ipv6Status
  | 56 => some .ipv6StaticAddresses
  | 59 => some .ipv6DynamicAddresses
  | 64 => some .ipv6RouterControl
  | 65 => some .ipv6StaticRouter1IP
  | 66 => some .ipv6StaticRouter1MAC
  | 67 => some .ipv6StaticRouter1PrefixLength
  | 68 => some .ipv6StaticRouter1PrefixValue
  | _ => none

/-- Modelled from the spec: `IPSrc`, the address source of parameter IPSrc. -/
inductive IPSrc where
  | unspecified | static | dhcp | bios | bmc
  deriving DecidableEq, Repr

def IPSrc.code : IPSrc → Nat
  | .unspecified => 0
  | .static => 1
  | .dhcp => 2
  | .bios => 3
  | .bmc => 4

def IPSrc.ofNat? : Nat → Option IPSrc
  | 0 => some .unspecified
  | 1 => some .static
  | 2 => some .dhcp
  | 3 => some .bios
  | 4 => some .bmc
  | _ => none

/-- Modelled from the spec: `IPFamilyEnables`. -/
inductive IPFamilyEnables where
  | ipv4Only | ipv6Only | dualStack
  deriving DecidableEq, Repr

def IPFamilyEnables.ofNat? : Nat → Option IPFamilyEnables
  | 0 => some .ipv4Only
  | 1 => some .ipv6Only
  | 2 => some .dualStack
  | _ => none

/-- Modelled from the spec: `IPv6Source`, the four-bit source of an IPv6 address slot. -/
inductive IPv6Source where
  | static | slaac | dhcp
  deriving DecidableEq, Repr

def IPv6Source.code : IPv6Source → Nat
  | .static => 0
  | .slaac => 1
  | .dhcp => 2

/-- Modelled from the spec: `IPv6AddressStatus`. -/
inductive IPv6AddressStatus where
  | active | disabled
  deriving DecidableEq, Repr

def IPv6AddressStatus.code : IPv6AddressStatus → Nat
  | .active => 0
  | .disabled => 1

/-- Modelled from the spec: the flag bits of transporthandler.hpp. -/
def IPv6RouterControlFlag.Static : Nat := 0
def IPv6RouterControlFlag.Dynamic : Nat := 1
def IPFamilySupportFlag.DualStack : Nat := 1
def IPFamilySupportFlag.IPv6Alerts : Nat := 2
def IPv6StatusFlag.DHCP : Nat := 0
def IPv6StatusFlag.SLAAC : Nat := 1

def originToSourceType : AddressOrigin → NetM IPv6Source
  | .static => return .static
  | .dhcp => return .dhcp
  | .slaac => return .slaac
  | .linkLocal => throw .internalFailure

def isValidMACAddress (mac : MAC) : Bool :=
  if mac = Mathlib.Vector.replicate 6 0 then false
  else if mac.toList.headD 0 &&& 1 ≠ 0 then false
  else true

def oemCmdStart : Nat := 192

def oemCmdEnd : Nat := 255

/-! ### The per-channel maps -/

/-- `getSetStatus`: the channel's status, stored as `complete` when the channel has none. -/
def getSetStatus (channel : Nat) : M SetStatus := fun s =>
  match s.setStatus channel with
  | some status => (.ok status, s)
  | none => (.ok .complete, { s with setStatus := Function.update s.setStatus channel (some .complete) })

/-- `setStatus.at(channel)`, with `complete` for a channel that has no entry. -/
def readSetStatus (channel : Nat) : M SetStatus := fun s =>
  (.ok ((s.setStatus channel).getD .complete), s)

/-- An assignment through the reference `getSetStatus` returns. -/
def storeSetStatus (channel : Nat) (status : SetStatus) : M Unit := fun s =>
  (.ok (), { s with setStatus := Function.update s.setStatus channel (some status) })

/-- `lastDisabledVlan[channel] = vlan`. -/
def storeLastDisabledVlan (channel vlan : Nat) : M Unit := fun s =>
  (.ok (), { s with lastDisabledVlan := Function.update s.lastDisabledVlan channel (some vlan) })

/-- `lastDisabledVlan[channel]` as a read: a channel with no entry gets one, holding 0. -/
def readLastDisabledVlan (channel : Nat) : M Nat := fun s =>
  match s.lastDisabledVlan channel with
  | some vlan => (.ok vlan, s)
  | none => (.ok 0, { s with lastDisabledVlan := Function.update s.lastDisabledVlan channel (some 0) })

end Ipmi.Transport
