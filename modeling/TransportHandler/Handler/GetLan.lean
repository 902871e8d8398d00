import TransportHandler.Handler.SetLan

/-!
# Get LAN Configuration Parameters

Each case of `getLan`'s switch is a definition of `GetLan`; `ret` is the revision byte.
-/

namespace Ipmi.Transport

/-- The parameter revision every response starts with. -/
def current_revision : Nat := 0x11

/-- What `getLanIPv6Address` packs for one slot. -/
def packIPv6Address (set : Nat) (source : IPv6Source) (enabled : Bool) (addr : Addr .inet6)
    (prefixLength : Nat) (status : IPv6AddressStatus) : List Bool :=
  natBits 8 set ++ natBits 4 source.code ++ natBits 3 0 ++ natBits 1 enabled.toNat ++
    payloadBits addr.toList ++ natBits 8 prefixLength ++ natBits 8 status.code

def getLanIPv6Address (P : Platform) (channel set : Nat) (origins : List AddressOrigin) :
    NetM (List Bool) := do
  match ← channelCall P channel (getIfAddr .inet6 · set origins) with
  | some ifaddr =>
    let source ← originToSourceType ifaddr.origin
    return packIPv6Address set source true ifaddr.address ifaddr.prefixLength .active
  | none =>
    return packIPv6Address set .static false (Mathlib.Vector.replicate _ 0)
      Family.inet6.defaultPrefix .disabled

/-- `getLan`'s one-time load of the cipher list: the reserved byte, then the file's ciphers. -/
def loadCipherList (P : Platform) : M Unit := fun s =>
  match s.cipherList, P.cipherRecords with
  | none, some records => (.ok (), { s with cipherList := some (0 :: records) })
  | _, _ => (.ok (), s)

def readCipherList : M (Option (List UInt8)) := fun s => (.ok s.cipherList, s)

namespace GetLan

variable (P : Platform) (channel : Nat) (ret : List Bool)

def setStatus : M Rsp := do
  let status ← readSetStatus channel
  return responseSuccess (ret ++ natBits 2 status.code ++ natBits 6 0)

def authSupport : M Rsp := return responseSuccess (ret ++ natBits 6 0 ++ natBits 2 0)

def authEnables : M Rsp := return responseSuccess (ret ++ natBits 40 0)

def ip : M Rsp := onNet do
  let ifaddr ← channelCall P channel getIfAddr4
  let addr := (ifaddr.map (·.address)).getD (Mathlib.Vector.replicate _ 0)
  return responseSuccess (ret ++ payloadBits addr.toList)

def ipSrc : M Rsp := onNet do
  let dhcp ← channelCall P channel getDHCPProperty
  let src := if dhcp = .v4 ∨ dhcp = .both then IPSrc.dhcp else IPSrc.static
  return responseSuccess (ret ++ natBits 4 src.code ++ natBits 4 0)

def mac : M Rsp := onNet do
  let mac ← channelCall P channel getMACProperty
  return responseSuccess (ret ++ payloadBits mac.toList)

def subnetMask : M Rsp := onNet do
  let ifaddr ← channelCall P channel getIfAddr4
  let prefixLength := (ifaddr.map (·.prefixLength)).getD Family.inet.defaultPrefix
  let some netmask := prefixToNetmask prefixLength | throw .internalFailure
  return responseSuccess (ret ++ payloadBits netmask.toList)

def gateway1 : M Rsp := onNet do
  let gateway ← channelCall P channel (getGatewayProperty .inet)
  return responseSuccess (ret ++ payloadBits (gateway.getD (Mathlib.Vector.replicate _ 0)).toList)

/-- Gateway1MAC for IPv4 and IPv6StaticRouter1MAC for IPv6. -/
def gatewayMAC (f : Family) : M Rsp := onNet do
  let neighbor ← channelCall P channel (getGatewayNeighbor f)
  let mac := (neighbor.map (·.mac)).getD (Mathlib.Vector.replicate _ 0)
  return responseSuccess (ret ++ payloadBits mac.toList)

def vlanId : M Rsp := do
  let vlan ← onNet (channelCall P channel getVLANProperty)
  let vlan ← if vlan ≠ 0 then pure (vlan ||| VLAN_ENABLE_FLAG) else readLastDisabledVlan channel
  return responseSuccess (ret ++ natBits 16 vlan)

/-- CiphersuiteSupport (`entries = false`) and CiphersuiteEntries (`entries = true`). -/
def ciphersuite (entries : Bool) : M Rsp := do
  if P.sessionless channel then return response ccInvalidFieldRequest
  let some cipherList ← readCipherList | return response ccUnspecifiedError
  if entries then return responseSuccess (ret ++ payloadBits cipherList)
  return responseSuccess (ret ++ natBits 8 (cipherList.length - 1))

def ipFamilySupport : M Rsp :=
  return responseSuccess (ret ++ natBits 8
    (2 ^ IPFamilySupportFlag.DualStack + 2 ^ IPFamilySupportFlag.IPv6Alerts))

def ipFamilyEnables : M Rsp := return responseSuccess (ret ++ natBits 8 2)

def ipv6Status : M Rsp :=
  return responseSuccess (ret ++ natBits 8 P.maxStatic ++ natBits 8 P.maxDynamic ++
    natBits 8 (2 ^ IPv6StatusFlag.DHCP + 2 ^ IPv6StatusFlag.SLAAC))

/-- IPv6StaticAddresses and IPv6DynamicAddresses, with their bound and origins. -/
def ipv6Addresses (set limit : Nat) (origins : List AddressOrigin) : M Rsp := do
  if set ≥ limit then return response ccParmOutOfRange
  let address ← onNet (getLanIPv6Address P channel set origins)
  return responseSuccess (ret ++ address)

def ipv6RouterControl : M Rsp := onNet do
  let dhcp ← channelCall P channel getDHCPProperty
  let control := if dhcp = .both ∨ dhcp = .v6 then 2 ^ IPv6RouterControlFlag.Dynamic
    else 2 ^ IPv6RouterControlFlag.Static
  return responseSuccess (ret ++ natBits 8 control)

def ipv6StaticRouter1IP : M Rsp := onNet do
  let dhcp ← channelCall P channel getDHCPProperty
  let gateway ← if dhcp = .v4 ∨ dhcp = .none then
      pure ((← channelCall P channel (getGatewayProperty .inet6)).getD (Mathlib.Vector.replicate _ 0))
    else pure (Mathlib.Vector.replicate _ 0)
  return responseSuccess (ret ++ payloadBits gateway.toList)

/-- The source packs UINT8_C(0), which is an int: four zero bytes. -/
def ipv6StaticRouter1PrefixLength : M Rsp := return responseSuccess (ret ++ natBits 32 0)

def ipv6StaticRouter1PrefixValue : M Rsp := return responseSuccess (ret ++ natBits 128 0)

def cipherSuitePrivilegeLevels : M Rsp :=
  match P.getCSPrivilegeLevels channel with
  | .ok csPrivilegeLevels =>
    return responseSuccess (ret ++ natBits 8 0 ++ (csPrivilegeLevels.map (natBits 4)).flatten)
  | .error resp => return response resp

end GetLan

/-- The weak default of the OEM extension. -/
def getLanOem (_channel _parameter _set _block : Nat) : M Rsp := return response ccParamNotSupported

def getLanParam (P : Platform) (channel set : Nat) (ret : List Bool) : LanParam → M Rsp
  | .setStatus => GetLan.setStatus channel ret
  | .authSupport => GetLan.authSupport ret
  | .authEnables => GetLan.authEnables ret
  | .ip => GetLan.ip P channel ret
  | .ipSrc => GetLan.ipSrc P channel ret
  | .mac => GetLan.mac P channel ret
  | .subnetMask => GetLan.subnetMask P channel ret
  | .gateway1 => GetLan.gateway1 P channel ret
  | .gateway1MAC => GetLan.gatewayMAC P channel ret .inet
  | .vlanId => GetLan.vlanId P channel ret
  | .ciphersuiteSupport => GetLan.ciphersuite P channel ret false
  | .ciphersuiteEntries => GetLan.ciphersuite P channel ret true
  | .ipFamilySupport => GetLan.ipFamilySupport ret
  | .ipFamilyEnables => GetLan.ipFamilyEnables ret
  | .ipv6Status => GetLan.ipv6Status P ret
  | .ipv6StaticAddresses => GetLan.ipv6Addresses P channel ret set P.maxStatic originsV6Static
  | .ipv6DynamicAddresses => GetLan.ipv6Addresses P channel ret set P.maxDynamic originsV6Dynamic
  | .ipv6RouterControl => GetLan.ipv6RouterControl P channel ret
  | .ipv6StaticRouter1IP => GetLan.ipv6StaticRouter1IP P channel ret
  | .ipv6StaticRouter1MAC => GetLan.gatewayMAC P channel ret .inet6
  | .ipv6StaticRouter1PrefixLength => GetLan.ipv6StaticRouter1PrefixLength ret
  | .ipv6StaticRouter1PrefixValue => GetLan.ipv6StaticRouter1PrefixValue ret
  | .cipherSuitePrivilegeLevels => GetLan.cipherSuitePrivilegeLevels P channel ret

def getLan (P : Platform) (ctxChannel channelBits reserved : Nat) (revOnly : Bool)
    (parameter set block : Nat) : M Rsp := do
  let ret := natBits 8 current_revision
  if revOnly then return responseSuccess ret
  let channel := P.convertCurrentChannelNum channelBits ctxChannel
  if reserved ≠ 0 ∨ !P.isValidChannel channel then return response ccInvalidFieldRequest
  loadCipherList P
  match LanParam.ofNat? parameter with
  | some param => getLanParam P channel set ret param
  | none =>
    if oemCmdStart ≤ parameter ∧ parameter ≤ oemCmdEnd then return ← getLanOem channel parameter set block
    return response ccParamNotSupported

theorem getLan_param {P : Platform} {ctxChannel channelBits parameter set block : Nat}
    {param : LanParam} (selects : LanParam.ofNat? parameter = some param) :
    getLan P ctxChannel channelBits 0 false parameter set block =
      if P.isValidChannel (P.convertCurrentChannelNum channelBits ctxChannel) then
        loadCipherList P >>= fun _ =>
          getLanParam P (P.convertCurrentChannelNum channelBits ctxChannel) set
            (natBits 8 current_revision) param
      else pure (response ccInvalidFieldRequest) := by
  unfold getLan
  simp only [selects]
  cases P.isValidChannel (P.convertCurrentChannelNum channelBits ctxChannel) <;> rfl

end Ipmi.Transport
