import TransportHandler.Handler.Params

/-!
# Set LAN Configuration Parameters

Each case of `setLan`'s switch is a definition of `SetLan`, in the order of the source.
-/

namespace Ipmi.Transport

namespace SetLan

variable (P : Platform) (channel : Nat) (req : List UInt8)

def setStatus : M Rsp := do
  let some (flag, rsvd) := unpackExact (do return (← unpackBits 2, ← unpackBits 6)) req
    | return response ccReqDataLenInvalid
  if rsvd ≠ 0 then return response ccInvalidFieldRequest
  match SetStatus.ofNat? flag with
  | some .complete =>
    storeSetStatus channel .complete
    return responseSuccess
  | some .inProgress =>
    if (← getSetStatus channel) = .inProgress then return response ccParamSetLocked
    storeSetStatus channel .inProgress
    return responseSuccess
  | some .commit =>
    if (← getSetStatus channel) ≠ .inProgress then return response ccInvalidFieldRequest
    return responseSuccess
  | none => return response ccParamNotSupported

/-- The parameters Set refuses as read-only. -/
def readOnly : M Rsp := return response ccParamReadOnly

def ip : M Rsp := onNet do
  let dhcp ← channelCall P channel getDHCPProperty
  if dhcp = .v4 ∨ dhcp = .both then return response ccCommandNotAvailable
  let some bytes := unpackExact (unpackArray Family.inet.width) req
    | return response ccReqDataLenInvalid
  channelCall P channel (reconfigureIfAddr4 · (some bytes) none)
  return responseSuccess

def ipSrc : M Rsp := onNet do
  let some (flag, rsvd) := unpackExact (do return (← unpackBits 4, ← unpackBits 4)) req
    | return response ccReqDataLenInvalid
  if rsvd ≠ 0 then return response ccInvalidFieldRequest
  match IPSrc.ofNat? flag with
  | some .dhcp =>
    channelCall P channel (setDHCPv4Property · .v4)
    return responseSuccess
  | some .unspecified | some .static =>
    channelCall P channel (setDHCPv4Property · .none)
    return responseSuccess
  | some .bios | some .bmc => return response ccInvalidFieldRequest
  | none => return response ccParamNotSupported

def mac : M Rsp := onNet do
  let some mac := unpackExact (unpackArray 6) req | return response ccReqDataLenInvalid
  if !isValidMACAddress mac then return response ccInvalidFieldRequest
  channelCall P channel (setMACProperty · mac)
  return responseSuccess

def subnetMask : M Rsp := onNet do
  let dhcp ← channelCall P channel getDHCPProperty
  if dhcp = .v4 ∨ dhcp = .both then return response ccCommandNotAvailable
  let some netmask := unpackExact (unpackArray Family.inet.width) req
    | return response ccReqDataLenInvalid
  let some prefixLength := netmaskToPrefix netmask | throw .internalFailure
  channelCall P channel (reconfigureIfAddr4 · none (some prefixLength))
  return responseSuccess

def gateway1 : M Rsp := onNet do
  let dhcp ← channelCall P channel getDHCPProperty
  if dhcp = .v4 ∨ dhcp = .both then return response ccCommandNotAvailable
  let some gateway := unpackExact (unpackArray Family.inet.width) req
    | return response ccReqDataLenInvalid
  channelCall P channel (setGatewayProperty .inet · gateway)
  return responseSuccess

/-- Gateway1MAC for IPv4 and IPv6StaticRouter1MAC for IPv6. -/
def gatewayMAC (f : Family) : M Rsp := onNet do
  let some gatewayMAC := unpackExact (unpackArray 6) req | return response ccReqDataLenInvalid
  channelCall P channel (reconfigureGatewayMAC f · gatewayMAC)
  return responseSuccess

def vlanId : M Rsp := do
  let some (vlanData, reserved, vlanEnable) :=
      unpackExact (do return (← unpackBits 12, ← unpackBits 3, ← unpackBool)) req
    | return response ccReqDataLenInvalid
  if reserved ≠ 0 then return response ccInvalidFieldRequest
  if !vlanEnable then
    storeLastDisabledVlan channel vlanData
  else if vlanData = 0 ∨ vlanData = VLAN_VALUE_MASK then
    return response ccInvalidFieldRequest
  let vlan := if vlanEnable then vlanData else 0
  discard <| onNet (channelCall P channel (reconfigureVLAN P · vlan))
  return responseSuccess

def ipFamilyEnables : M Rsp := do
  let some enables := unpackExact unpackU8 req | return response ccReqDataLenInvalid
  match IPFamilyEnables.ofNat? enables with
  | some .dualStack => return responseSuccess
  | some .ipv4Only | some .ipv6Only => return response ccParamNotSupported
  | none => return response ccParamNotSupported

def ipv6StaticAddresses : M Rsp := onNet do
  let some (set, rsvd, enabled, ip, prefixLength, _status) :=
      unpackExact (do return (← unpackU8, ← unpackBits 7, ← unpackBool,
        ← unpackArray Family.inet6.width, ← unpackU8, ← unpackU8)) req
    | return response ccReqDataLenInvalid
  if rsvd ≠ 0 then return response ccInvalidFieldRequest
  if enabled then
    channelCall P channel (reconfigureIfAddr6 · set ip prefixLength)
  else
    channelCall P channel (deconfigureIfAddr6 · set)
  return responseSuccess

def ipv6RouterControl : M Rsp := onNet do
  let some control := unpackExact unpackU8 req | return response ccReqDataLenInvalid
  let dhcp ← channelCall P channel getDHCPProperty
  let expected := if dhcp = .both ∨ dhcp = .v6 then 2 ^ IPv6RouterControlFlag.Dynamic
    else 2 ^ IPv6RouterControlFlag.Static
  if expected ≠ control then return response ccInvalidFieldRequest
  return responseSuccess

def ipv6StaticRouter1IP : M Rsp := onNet do
  let some gateway := unpackExact (unpackArray Family.inet6.width) req
    | return response ccReqDataLenInvalid
  channelCall P channel (setGatewayProperty .inet6 · gateway)
  return responseSuccess

def ipv6StaticRouter1PrefixLength : M Rsp := do
  let some prefixLength := unpackExact unpackU8 req | return response ccReqDataLenInvalid
  if prefixLength ≠ 0 then return response ccInvalidFieldRequest
  return responseSuccess

def ipv6StaticRouter1PrefixValue : M Rsp := do
  let some _ := unpackExact (unpackArray Family.inet6.width) req | return response ccReqDataLenInvalid
  return responseSuccess

def cipherSuitePrivilegeLevels : M Rsp := do
  let some (reserved, cipherSuitePrivs) :=
      unpackExact (do return (← unpackU8, ← unpackFields 4 P.maxCSRecords)) req
    | return response ccReqDataLenInvalid
  if reserved ≠ 0 then return response ccInvalidFieldRequest
  let resp := P.setCSPrivilegeLevels channel cipherSuitePrivs
  if resp = ccSuccess then return responseSuccess
  return response resp

end SetLan

/-- The weak default of the OEM extension. -/
def setLanOem (_channel _parameter : Nat) (_req : List UInt8) : M Rsp :=
  return response ccParamNotSupported

def setLanParam (P : Platform) (channel : Nat) (req : List UInt8) : LanParam → M Rsp
  | .setStatus => SetLan.setStatus channel req
  | .authSupport | .authEnables => SetLan.readOnly
  | .ip => SetLan.ip P channel req
  | .ipSrc => SetLan.ipSrc P channel req
  | .mac => SetLan.mac P channel req
  | .subnetMask => SetLan.subnetMask P channel req
  | .gateway1 => SetLan.gateway1 P channel req
  | .gateway1MAC => SetLan.gatewayMAC P channel req .inet
  | .vlanId => SetLan.vlanId P channel req
  | .ciphersuiteSupport | .ciphersuiteEntries | .ipFamilySupport => SetLan.readOnly
  | .ipFamilyEnables => SetLan.ipFamilyEnables req
  | .ipv6Status => SetLan.readOnly
  | .ipv6StaticAddresses => SetLan.ipv6StaticAddresses P channel req
  | .ipv6DynamicAddresses => SetLan.readOnly
  | .ipv6RouterControl => SetLan.ipv6RouterControl P channel req
  | .ipv6StaticRouter1IP => SetLan.ipv6StaticRouter1IP P channel req
  | .ipv6StaticRouter1MAC => SetLan.gatewayMAC P channel req .inet6
  | .ipv6StaticRouter1PrefixLength => SetLan.ipv6StaticRouter1PrefixLength req
  | .ipv6StaticRouter1PrefixValue => SetLan.ipv6StaticRouter1PrefixValue req
  | .cipherSuitePrivilegeLevels => SetLan.cipherSuitePrivilegeLevels P channel req

/-- Set LAN Configuration Parameters. -/
def setLan (P : Platform) (ctxChannel channelBits reserved1 parameter : Nat) (req : List UInt8) :
    M Rsp := do
  let channel := P.convertCurrentChannelNum channelBits ctxChannel
  if reserved1 ≠ 0 ∨ !P.isValidChannel channel then return response ccInvalidFieldRequest
  match LanParam.ofNat? parameter with
  | some param => setLanParam P channel req param
  | none =>
    if oemCmdStart ≤ parameter ∧ parameter ≤ oemCmdEnd then return ← setLanOem channel parameter req
    return response ccParamNotSupported

theorem setLan_param {P : Platform} {ctxChannel channelBits parameter : Nat} {req : List UInt8}
    {param : LanParam} (selects : LanParam.ofNat? parameter = some param) :
    setLan P ctxChannel channelBits 0 parameter req =
      if P.isValidChannel (P.convertCurrentChannelNum channelBits ctxChannel) then
        setLanParam P (P.convertCurrentChannelNum channelBits ctxChannel) req param
      else pure (response ccInvalidFieldRequest) := by
  unfold setLan
  simp only [selects]
  cases P.isValidChannel (P.convertCurrentChannelNum channelBits ctxChannel) <;> rfl

end Ipmi.Transport
