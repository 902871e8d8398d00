import TransportHandler.Net.Service

/-!
# Handler state and the handler monad

A handler may throw, and whatever it did before stays done, so `M` keeps the state on both
outcomes.
-/

namespace Ipmi.Transport

/-- `SetStatus`: the set-in-progress flag of the LAN parameters. -/
inductive SetStatus where
  | complete | inProgress | commit
  deriving DecidableEq, Repr

def SetStatus.code : SetStatus → Nat
  | .complete => 0
  | .inProgress => 1
  | .commit => 2

/-- `static_cast<SetStatus>(flag)`: the value 3 names no status. -/
def SetStatus.ofNat? : Nat → Option SetStatus
  | 0 => some .complete
  | 1 => some .inProgress
  | 2 => some .commit
  | _ => none

abbrev Cc := UInt8

/-- Modelled from the spec: the completion codes of include/ipmid/api.hpp (not in src/). -/
def ccSuccess : Cc := 0x00
def ccParamNotSupported : Cc := 0x80
def ccParamSetLocked : Cc := 0x81
def ccParamReadOnly : Cc := 0x82
def ccReqDataLenInvalid : Cc := 0xC7
def ccParmOutOfRange : Cc := 0xC9
def ccInvalidFieldRequest : Cc := 0xCC
def ccCommandNotAvailable : Cc := 0xD5
def ccUnspecifiedError : Cc := 0xFF

/-- The codes transporthandler.cpp defines for the SOL commands. -/
def ccParmNotSupported : Cc := 0x80
def ccSetInProgressActive : Cc := 0x81
def ccSystemInfoParameterSetReadOnly : Cc := 0x82

/-- The codes of a malformed or refused request, not of success or a failed service. -/
def Cc.protocolLevel (cc : Cc) : Bool :=
  cc ∈ [ccReqDataLenInvalid, ccInvalidFieldRequest, ccParamNotSupported, ccParamReadOnly,
    ccCommandNotAvailable, ccParamSetLocked, ccParmOutOfRange]

structure Rsp where
  cc : Cc
  data : List UInt8 := []
  deriving DecidableEq, Repr

/-- `response(cc)`. -/
def response (cc : Cc) : Rsp := { cc }

/-- `responseSuccess(ret)`, with the bits the handler packed. -/
def responseSuccess (packed : List Bool := []) : Rsp := { cc := ccSuccess, data := bytesOfBits packed }

/-- `ipmi::Value`, the variant a property read returns. -/
inductive Value where
  | bool (b : Bool)
  | u8 (n : Nat)
  | u32 (n : Nat)
  | str (s : String)
  deriving DecidableEq, Repr

def Value.sameType : Value → Value → Bool
  | .bool _, .bool _ | .u8 _, .u8 _ | .u32 _, .u32 _ | .str _, .str _ => true
  | _, _ => false

/-- The SOL objects (`/xyz/openbmc_project/ipmi/sol/<ifname>`) by interface name, and the console's `baudrate`. -/
structure SolService where
  objs : List (String × List (String × Value))
  baudrate : Option Value

/-- What transporthandler.cpp takes from the channel layer, the cipher-suite component and transporthandler.hpp. -/
structure Platform where
  getChannelName : Nat → String
  isValidChannel : Nat → Bool
  convertCurrentChannelNum : Nat → Nat → Nat
  /-- `getChannelInfo` succeeds and reports the medium `lan8032`. -/
  isLanChannel : Nat → Bool
  /-- `getChannelSessionSupport` reports `none`. -/
  sessionless : Nat → Bool
  /-- `MAX_IPV6_STATIC_ADDRESSES`. -/
  maxStatic : Nat
  /-- `MAX_IPV6_DYNAMIC_ADDRESSES`. -/
  maxDynamic : Nat
  /-- `ipmi::maxCSRecords`, the number of cipher suites the privilege levels cover. -/
  maxCSRecords : Nat
  /-- The `cipher` values of the cipher-suite file, when it can be read and parsed. -/
  cipherRecords : Option (List UInt8)
  getCSPrivilegeLevels : Nat → Except Cc (List Nat)
  setCSPrivilegeLevels : Nat → List Nat → Cc

def Platform.ofNames (names : List (Nat × String)) (maxStatic maxDynamic : Nat) : Platform where
  getChannelName channel := (names.lookup channel).getD ""
  isValidChannel channel := (names.lookup channel).isSome
  convertCurrentChannelNum chNum devChannel := if chNum = 0xE then devChannel else chNum
  isLanChannel channel := (names.lookup channel).isSome
  sessionless _ := false
  maxStatic := maxStatic
  maxDynamic := maxDynamic
  maxCSRecords := 16
  cipherRecords := none
  getCSPrivilegeLevels _ := .error ccUnspecifiedError
  setCSPrivilegeLevels _ _ := ccUnspecifiedError

/-- A failed D-Bus call, the handler's own `elog<InternalFailure>()`, or `std::get` of the wrong alternative. -/
inductive Exn where
  | bus (e : BusError)
  | internalFailure
  | badVariantAccess
  deriving DecidableEq, Repr

/-- The network and SOL services, the file's static maps, and `getLan`'s cached cipher list. -/
structure State where
  net : Net
  sol : SolService
  setStatus : Nat → Option SetStatus
  lastDisabledVlan : Nat → Option Nat
  cipherList : Option (List UInt8)

/-- The state at process start: the maps are empty and no cipher list is loaded. -/
def State.init (net : Net) (sol : SolService) : State := ⟨net, sol, fun _ => none, fun _ => none, none⟩

/-- An exception that escapes a handler is answered with the unspecified error. -/
def respond : Except Exn Rsp → Rsp
  | .ok rsp => rsp
  | .error _ => response ccUnspecifiedError

@[simp] theorem respond_ok (rsp : Rsp) : respond (.ok rsp) = rsp := rfl

theorem respond_eq_success {r : Except Exn Rsp} {packed : List Bool} (h : respond r = responseSuccess packed) :
    r = .ok (responseSuccess packed) := by
  cases r with
  | error => cases h
  | ok rsp => cases h; rfl

/-- A step over the state `σ`: its value or exception, and the state it leaves either way. -/
def StM (σ α : Type) : Type := σ → Except Exn α × σ

instance {σ : Type} : Monad (StM σ) where
  pure a s := (.ok a, s)
  bind m k s := match m s with
    | (.ok a, s') => k a s'
    | (.error e, s') => (.error e, s')

instance {σ : Type} : MonadExceptOf Exn (StM σ) where
  throw e s := (.error e, s)
  tryCatch m handle s := match m s with
    | (.error e, s') => handle e s'
    | done => done

abbrev M := StM State

abbrev NetM := StM Net

abbrev SolM := StM SolService

namespace StM

variable {σ α β : Type} {m : StM σ α} {k : α → StM σ β} {s s' : σ}

@[simp] theorem pure_run (a : α) (s : σ) : (pure a : StM σ α) s = (.ok a, s) := rfl

@[simp] theorem throw_run (e : Exn) (s : σ) : (throw e : StM σ α) s = (.error e, s) := rfl

@[simp] theorem pure_bind (a : α) : (pure a >>= k) = k a := rfl

@[simp] theorem tryCatch_run (handle : Exn → StM σ α) (s : σ) :
    (tryCatch m handle : StM σ α) s = match m s with
      | (.error e, s') => handle e s'
      | done => done := rfl

theorem bind_run (s : σ) :
    (m >>= k) s = match m s with
      | (.ok a, s') => k a s'
      | (.error e, s') => (.error e, s') := rfl

theorem bind_ok {a : α} (h : m s = (.ok a, s')) : (m >>= k) s = k a s' := by
  rw [bind_run, h]

theorem bind_error {e : Exn} (h : m s = (.error e, s')) : (m >>= k) s = (.error e, s') := by
  rw [bind_run, h]

theorem bind_eq_ok {b : β} {s'' : σ} (h : (m >>= k) s = (.ok b, s'')) :
    ∃ a s', m s = (.ok a, s') ∧ k a s' = (.ok b, s'') := by
  rw [bind_run] at h
  split at h
  · exact ⟨_, _, ‹_›, h⟩
  · cases h

end StM

def onNet {α : Type} (m : NetM α) : M α := fun s => ((m s.net).1, { s with net := (m s.net).2 })

@[simp] theorem onNet_run_fst {α : Type} (m : NetM α) (s : State) : (onNet m s).1 = (m s.net).1 := rfl

@[simp] theorem onNet_run_snd {α : Type} (m : NetM α) (s : State) :
    (onNet m s).2 = { s with net := (m s.net).2 } := rfl

def onSol {α : Type} (m : SolM α) : M α := fun s => ((m s.sol).1, { s with sol := (m s.sol).2 })

def readNet {α : Type} (call : Net → Except BusError α) : NetM α := fun n =>
  match call n with
  | .ok a => (.ok a, n)
  | .error e => (.error (.bus e), n)

def writeNet (call : Net → Except BusError Net) : NetM Unit := fun n =>
  match call n with
  | .ok n' => (.ok (), n')
  | .error e => (.error (.bus e), n)

def callNet {α : Type} (call : Net → Except BusError (α × Net)) : NetM α := fun n =>
  match call n with
  | .ok (a, n') => (.ok a, n')
  | .error e => (.error (.bus e), n)

/-! ### Frames -/

/-- `m` leaves the `view` of the state as it found it, whatever it returns or throws. -/
def Keeps {α β : Type} (view : State → β) (m : M α) : Prop := ∀ s, view (m s).2 = view s

namespace Keeps

variable {α β γ : Type} {view : State → γ} {m : M α} {k : α → M β}

theorem pure (a : α) : Keeps view (Pure.pure a : M α) := fun _ => rfl

theorem bind (first : Keeps view m) (rest : ∀ a, Keeps view (k a)) : Keeps view (m >>= k) := by
  intro s
  rw [StM.bind_run]
  split
  · rename_i a s' h
    rw [rest a s', ← first s, h]
  · rename_i e s' h
    rw [← first s, h]

theorem onNet (m : NetM α) (blind : ∀ s n, view { s with net := n } = view s) :
    Keeps view (Transport.onNet m) := fun s => blind s _

theorem onSol (m : SolM α) (blind : ∀ s sol, view { s with sol := sol } = view s) :
    Keeps view (Transport.onSol m) := fun s => blind s _

end Keeps

end Ipmi.Transport
