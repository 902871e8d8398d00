import TransportHandler.Handler.GetLan

/-!
# SOL configuration parameters

`setSOLConfParams` and `getSOLConfParams` pass the serial-over-LAN settings to and from
the SOL service's object for the channel's interface, one property per field.
-/

namespace Ipmi.Transport

/-- `sol::Parameter`. -/
inductive SolParameter where
  | progress | enable | authentication | accumulate | retry | nvbitrate | vbitrate | channel | port
  deriving DecidableEq, Repr

def SolParameter.ofNat? : Nat → Option SolParameter
  | 0 => some .progress
  | 1 => some .enable
  | 2 => some .authentication
  | 3 => some .accumulate
  | 4 => some .retry
  | 5 => some .nvbitrate
  | 6 => some .vbitrate
  | 7 => some .channel
  | 8 => some .port
  | _ => none

/-- `sol::Privilege::userPriv` and `sol::Privilege::oemPriv`, the bounds a privilege must keep. -/
def userPriv : Nat := 2
def oemPriv : Nat := 5

def progressMask : Nat := 0x03
def enableMask : Nat := 0x01
def retryMask : Nat := 0x07
def privilegeMask : Nat := 0xf
def retryCountMask : Nat := 0x07
def ipmiStdPort : Nat := 623
def solParameterRevision : Nat := 0x11

/-- `getSOLParameter`; `none` is its -1, for a missing object or property. -/
def getSOLParameter (P : Platform) (property : String) (channelNum : Nat) : SolM (Option Value) :=
  fun sol => (.ok ((sol.objs.lookup (P.getChannelName channelNum)).bind (·.lookup property)), sol)

def setProperty (props : List (String × Value)) (property : String) (value : Value) :
    List (String × Value) :=
  props.map fun entry => if entry.1 = property then (property, value) else entry

/-- `setSOLParameter`; a missing object or property, or a value of another type, is its -1. -/
def setSOLParameter (P : Platform) (property : String) (value : Value) (channelNum : Nat) :
    SolM Bool := fun sol =>
  let ethdevice := P.getChannelName channelNum
  match sol.objs.lookup ethdevice with
  | some props =>
    match props.lookup property with
    | some old =>
      if old.sameType value then
        (.ok true, { sol with objs := sol.objs.map fun entry =>
          if entry.1 = ethdevice then (ethdevice, setProperty props property value) else entry })
      else (.ok false, sol)
    | none => (.ok false, sol)
  | none => (.ok false, sol)

/-- `getSOLBaudRate`: the console's `baudrate`; `none` is its -1. -/
def getSOLBaudRate : SolM (Option Value) := fun sol => (.ok sol.baudrate, sol)

/-- `std::get<uint8_t>`. -/
def Value.getU8 : Value → SolM Nat
  | .u8 n => return n
  | _ => throw .badVariantAccess

/-- `std::get<bool>`. -/
def Value.getBool : Value → SolM Bool
  | .bool b => return b
  | _ => throw .badVariantAccess

namespace SetSol

variable (P : Platform) (channelNum configParamData1 : Nat) (configParamData2 : Option Nat)

def progress : SolM Rsp := do
  if configParamData2.isSome then return response ccReqDataLenInvalid
  let progress := configParamData1 &&& progressMask
  let some currentProgress ← getSOLParameter P "Progress" channelNum
    | return response ccUnspecifiedError
  if (← currentProgress.getU8) = 1 ∧ progress = 1 then return response ccSetInProgressActive
  if !(← setSOLParameter P "Progress" (.u8 progress) channelNum) then
    return response ccUnspecifiedError
  return responseSuccess

def enable : SolM Rsp := do
  if configParamData2.isSome then return response ccReqDataLenInvalid
  let enable := configParamData1 &&& enableMask ≠ 0
  if !(← setSOLParameter P "Enable" (.bool enable) channelNum) then
    return response ccUnspecifiedError
  return responseSuccess

/-- The encryption and authentication checks are commented out in the source. -/
def authentication : SolM Rsp := do
  if configParamData2.isSome then return response ccReqDataLenInvalid
  let privilege := configParamData1 &&& privilegeMask
  if privilege < userPriv ∨ privilege > oemPriv then return response ccInvalidFieldRequest
  if !(← setSOLParameter P "Privilege" (.u8 privilege) channelNum) then
    return response ccUnspecifiedError
  return responseSuccess

def accumulate : SolM Rsp := do
  let some data2 := configParamData2 | return response ccReqDataLenInvalid
  if data2 = 0 then return response ccInvalidFieldRequest
  if !(← setSOLParameter P "AccumulateIntervalMS" (.u8 configParamData1) channelNum) then
    return response ccUnspecifiedError
  if !(← setSOLParameter P "Threshold" (.u8 data2) channelNum) then
    return response ccUnspecifiedError
  return responseSuccess

def retry : SolM Rsp := do
  let some data2 := configParamData2 | return response ccReqDataLenInvalid
  if !(← setSOLParameter P "RetryCount" (.u8 (configParamData1 &&& retryMask)) channelNum) then
    return response ccUnspecifiedError
  if !(← setSOLParameter P "RetryIntervalMS" (.u8 data2) channelNum) then
    return response ccUnspecifiedError
  return responseSuccess

end SetSol

def setSOLConfParams (P : Platform) (ctxChannel chNum reserved paramSelector configParamData1 : Nat)
    (configParamData2 : Option Nat) : M Rsp := do
  let channelNum := P.convertCurrentChannelNum chNum ctxChannel
  if reserved ≠ 0 ∨ !P.isValidChannel channelNum then return response ccInvalidFieldRequest
  if !P.isLanChannel channelNum then return response ccInvalidFieldRequest
  match SolParameter.ofNat? paramSelector with
  | some .progress => onSol (SetSol.progress P channelNum configParamData1 configParamData2)
  | some .enable => onSol (SetSol.enable P channelNum configParamData1 configParamData2)
  | some .authentication => onSol (SetSol.authentication P channelNum configParamData1 configParamData2)
  | some .accumulate => onSol (SetSol.accumulate P channelNum configParamData1 configParamData2)
  | some .retry => onSol (SetSol.retry P channelNum configParamData1 configParamData2)
  | some .port => return response ccSystemInfoParameterSetReadOnly
  | _ => return response ccParmNotSupported

def solResponse (data1 data2 : Option Nat) : Rsp :=
  responseSuccess (natBits 8 solParameterRevision ++ ((data1.map (natBits 8)).getD []) ++
    ((data2.map (natBits 8)).getD []))

def bitRateOf : Nat → Nat
  | 9600 => 0x06
  | 19200 => 0x07
  | 38400 => 0x08
  | 57600 => 0x09
  | 115200 => 0x0a
  | _ => 0

namespace GetSol

variable (P : Platform) (channelNum : Nat)

/-- Progress, Enable, Accumulate and Retry: the first property, and the second one if any. -/
def properties (first : String) (read : Value → SolM Nat) (second : Option String) : SolM Rsp := do
  let some value ← getSOLParameter P first channelNum | return response ccUnspecifiedError
  match second with
  | none => return solResponse (some (← read value)) none
  | some name =>
    let some value1 ← getSOLParameter P name channelNum | return response ccUnspecifiedError
    return solResponse (some (← read value)) (some (← value1.getU8))

def authentication : SolM Rsp := do
  let some value ← getSOLParameter P "Privilege" channelNum | return response ccUnspecifiedError
  let authentication := (← value.getU8) &&& 0x0f
  let some value ← getSOLParameter P "ForceAuthentication" channelNum
    | return response ccUnspecifiedError
  let authentication := authentication ||| (← value.getBool).toNat <<< 6
  let some value ← getSOLParameter P "ForceEncryption" channelNum
    | return response ccUnspecifiedError
  let authentication := authentication ||| (← value.getBool).toNat <<< 7
  return solResponse (some authentication) none

/-- A baud rate that is not a `uint32_t` is dereferenced through a null pointer in the source; here it throws. -/
def bitrate : SolM Rsp := do
  let some value ← getSOLBaudRate | return response ccUnspecifiedError
  let .u32 baudRate := value | throw .badVariantAccess
  return solResponse (some (bitRateOf baudRate)) none

end GetSol

def getSOLConfParams (P : Platform) (ctxChannel chNum reserved : Nat) (getParamRev : Bool)
    (paramSelector _setSelector _blockSelector : Nat) : M Rsp := do
  let channelNum := P.convertCurrentChannelNum chNum ctxChannel
  if reserved ≠ 0 ∨ !P.isValidChannel channelNum ∨ P.sessionless channelNum then
    return response ccInvalidFieldRequest
  if !P.isLanChannel channelNum then return response ccInvalidFieldRequest
  if getParamRev then return solResponse none none
  match SolParameter.ofNat? paramSelector with
  | some .progress => onSol (GetSol.properties P channelNum "Progress" Value.getU8 none)
  | some .enable =>
    onSol (GetSol.properties P channelNum "Enable" (fun v => do return (← v.getBool).toNat) none)
  | some .authentication => onSol (GetSol.authentication P channelNum)
  | some .accumulate =>
    onSol (GetSol.properties P channelNum "AccumulateIntervalMS" Value.getU8 (some "Threshold"))
  | some .retry =>
    onSol (GetSol.properties P channelNum "RetryCount" (fun v => do return (← v.getU8) &&& retryCountMask)
      (some "RetryIntervalMS"))
  | some .channel => return solResponse (some channelNum) none
  | some .port => return solResponse (some (ipmiStdPort % 256)) (some (ipmiStdPort / 256))
  | some .nvbitrate | some .vbitrate => onSol GetSol.bitrate
  | none => return response ccParmNotSupported

end Ipmi.Transport
