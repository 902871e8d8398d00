import TransportHandler.Handler.GetLan
import TransportHandler.Net.Laws

/-!
# The handlers' calls

Call shapes, `deleteObjectIfExists` and channel resolution.
-/

namespace Ipmi.Transport

variable {σ α β : Type} {n n' : Net}

/-! ### The three call shapes -/

theorem readNet_eq_ok {call : Net → Except BusError α} {a : α} :
    readNet call n = (.ok a, n') ↔ call n = .ok a ∧ n' = n := by
  unfold readNet
  cases call n <;> simp [@eq_comm _ n']

theorem readNet_bind_eq_ok {call : Net → Except BusError α} {k : α → NetM β} {b : β}
    (h : (readNet call >>= k) n = (.ok b, n')) : ∃ a, call n = .ok a ∧ k a n = (.ok b, n') := by
  obtain ⟨a, n1, read, rest⟩ := StM.bind_eq_ok h
  obtain ⟨answered, rfl⟩ := readNet_eq_ok.mp read
  exact ⟨a, answered, rest⟩

theorem writeNet_eq_ok {call : Net → Except BusError Net} {u : Unit} :
    writeNet call n = (.ok u, n') ↔ call n = .ok n' := by
  unfold writeNet
  cases call n <;> simp

theorem callNet_eq_ok {call : Net → Except BusError (α × Net)} {a : α} :
    callNet call n = (.ok a, n') ↔ call n = .ok (a, n') := by
  unfold callNet
  cases call n with
  | error => simp
  | ok r => obtain ⟨b, n''⟩ := r; simp

theorem deleteObjectIfExists_eq_ok {path : ObjPath} {u : Unit} :
    deleteObjectIfExists path n = (.ok u, n') ↔
      n.delete path = .ok n' ∨ (n' = n ∧ .delete ∉ n.faults ∧ n.find? path = none) := by
  rw [deleteObjectIfExists, StM.tryCatch_run]
  unfold writeNet
  cases found : n.delete path with
  | ok n'' =>
    obtain ⟨-, ⟨o, present, -⟩, -⟩ := Net.delete_eq_ok.mp found
    simp [found, present]
  | error e =>
    rcases Net.delete_eq_error found with ⟨rfl, faulty⟩ | ⟨rfl, serves, absent⟩ | ⟨rfl, o, present, _⟩
    · simp [found, faulty]
    · simp [found, absent, serves, @eq_comm _ n']
    · simp [found, present]

/-! ### Reads -/

/-- `m` leaves the service it runs against as it found it, whatever it returns or throws. -/
def ReadOnly (m : StM σ α) : Prop := ∀ n, (m n).2 = n

namespace ReadOnly

theorem pure (a : α) : ReadOnly (Pure.pure a : StM σ α) := fun _ => rfl

theorem throw (e : Exn) : ReadOnly (MonadExcept.throw e : StM σ α) := fun _ => rfl

theorem bind {m : StM σ α} {k : α → StM σ β} (first : ReadOnly m) (rest : ∀ a, ReadOnly (k a)) :
    ReadOnly (m >>= k) := by
  intro n
  rw [StM.bind_run]
  split
  · rename_i a n' h
    rw [rest a n', ← first n, h]
  · rename_i e n' h
    rw [← first n, h]

theorem readNet (call : Net → Except BusError α) : ReadOnly (Transport.readNet call) := by
  intro n
  unfold Transport.readNet
  split <;> rfl

end ReadOnly

/-! ### Channel resolution -/

/-- The parameters `maybeGetChannelParams` resolves for `channel` from the objects `objs`. -/
def resolveChannel (P : Platform) (channel : Nat) (objs : List Obj) : Option ChannelParams :=
  if (P.getChannelName channel).isEmpty then none
  else channelParamsOf channel (P.getChannelName channel) (objs.filter (·.data.isInterface))

variable {P : Platform} {channel : Nat}

theorem resolveChannel_congr {objs objs' : List Obj}
    (same : objs'.filter (·.data.isInterface) = objs.filter (·.data.isInterface)) :
    resolveChannel P channel objs' = resolveChannel P channel objs := by
  rw [resolveChannel, resolveChannel, same]

theorem maybeGetChannelParams_eq_ok {found : Option ChannelParams}
    (h : maybeGetChannelParams P channel n = (.ok found, n')) :
    n' = n ∧ found = resolveChannel P channel n.objs ∧ (found.isSome → .subTree ∉ n.faults) := by
  unfold maybeGetChannelParams resolveChannel at *
  dsimp only at h
  split at h
  · cases h; simp_all
  · simp only [StM.pure_bind] at h
    obtain ⟨objs, n1, listed, returned⟩ := StM.bind_eq_ok h
    obtain ⟨listed, rfl⟩ := readNet_eq_ok.mp listed
    obtain ⟨lists, rfl⟩ := Net.subTree_eq_ok.mp listed
    cases returned
    simp_all

theorem maybeGetChannelParams_run (lists : .subTree ∉ n.faults) :
    maybeGetChannelParams P channel n = (.ok (resolveChannel P channel n.objs), n) := by
  unfold maybeGetChannelParams resolveChannel
  dsimp only
  split
  · simp_all
  · have listed : readNet (·.subTree (·.data.isInterface)) n =
        (.ok (n.objs.filter (·.data.isInterface)), n) :=
      readNet_eq_ok.mpr ⟨Net.subTree_eq_ok.mpr ⟨lists, rfl⟩, rfl⟩
    simp only [StM.pure_bind, StM.bind_ok listed]
    simp_all

theorem maybeGetChannelParams_readOnly (P : Platform) (channel : Nat) :
    ReadOnly (maybeGetChannelParams P channel) := by
  unfold maybeGetChannelParams
  dsimp only
  split
  · exact ReadOnly.pure _
  · exact ReadOnly.bind (ReadOnly.pure _) fun _ =>
      ReadOnly.bind (ReadOnly.readNet _) fun _ => ReadOnly.pure _

theorem channelCall_eq_ok {func : ChannelParams → NetM α} {a : α}
    (h : channelCall P channel func n = (.ok a, n')) :
    .subTree ∉ n.faults ∧ ∃ params, resolveChannel P channel n.objs = some params ∧
      func params n = (.ok a, n') := by
  obtain ⟨params, n1, got, called⟩ := StM.bind_eq_ok h
  obtain ⟨found, n2, resolved, returned⟩ := StM.bind_eq_ok got
  obtain ⟨rfl, resolvedTo, lists⟩ := maybeGetChannelParams_eq_ok resolved
  cases found with
  | none => cases returned
  | some p => cases returned; exact ⟨lists rfl, _, resolvedTo.symm, called⟩

theorem channelCall_run {func : ChannelParams → NetM α} {params : ChannelParams}
    (lists : .subTree ∉ n.faults) (resolves : resolveChannel P channel n.objs = some params) :
    channelCall P channel func n = func params n := by
  unfold channelCall getChannelParams
  rw [StM.bind_run, StM.bind_run, maybeGetChannelParams_run lists, resolves]

theorem channelCall_readOnly {func : ChannelParams → NetM α} (reads : ∀ params, ReadOnly (func params)) :
    ReadOnly (channelCall P channel func) :=
  ReadOnly.bind (ReadOnly.bind (maybeGetChannelParams_readOnly P channel) fun found => by
    cases found
    · exact ReadOnly.throw _
    · exact ReadOnly.pure _) reads

/-! ### Requests -/

theorem setLan_success {ctxChannel channelBits parameter : Nat} {req : List UInt8} {param : LanParam}
    {s : State} {packed : List Bool} (selects : LanParam.ofNat? parameter = some param)
    (h : respond (setLan P ctxChannel channelBits 0 parameter req s).1 = responseSuccess packed) :
    P.isValidChannel (P.convertCurrentChannelNum channelBits ctxChannel) ∧
      setLan P ctxChannel channelBits 0 parameter req s =
        setLanParam P (P.convertCurrentChannelNum channelBits ctxChannel) req param s := by
  rw [setLan_param selects] at h ⊢
  cases valid : P.isValidChannel (P.convertCurrentChannelNum channelBits ctxChannel)
  · rw [valid] at h
    cases h
  · exact ⟨rfl, rfl⟩

theorem loadCipherList_run (P : Platform) (s : State) :
    loadCipherList P s = (.ok (), { s with cipherList := (loadCipherList P s).2.cipherList }) := by
  unfold loadCipherList
  split <;> rfl

theorem getLan_valid {ctxChannel channelBits parameter set block : Nat} {param : LanParam} {s : State}
    (selects : LanParam.ofNat? parameter = some param)
    (valid : P.isValidChannel (P.convertCurrentChannelNum channelBits ctxChannel)) :
    getLan P ctxChannel channelBits 0 false parameter set block s =
      getLanParam P (P.convertCurrentChannelNum channelBits ctxChannel) set (natBits 8 current_revision)
        param { s with cipherList := (loadCipherList P s).2.cipherList } := by
  rw [getLan_param selects, if_pos valid, StM.bind_ok (loadCipherList_run P s)]

theorem onNet_eq {α : Type} {m : NetM α} {s : State} {r : Except Exn α} (h : m s.net = (r, n')) :
    onNet m s = (r, { s with net := n' }) := by
  show ((m s.net).1, { s with net := (m s.net).2 }) = _
  rw [h]

theorem onNet_success {m : NetM Rsp} {s : State} {packed : List Bool}
    (h : respond (onNet m s).1 = responseSuccess packed) :
    ∃ n', m s.net = (.ok (responseSuccess packed), n') ∧ (onNet m s).2 = { s with net := n' } := by
  rw [onNet_run_fst] at h
  exact ⟨_, by rw [← respond_eq_success h], rfl⟩

theorem onNet_call_success {α : Type} {m : NetM α} {s : State}
    (h : respond (onNet (m >>= fun _ => pure responseSuccess) s).1 = responseSuccess) :
    ∃ a n', m s.net = (.ok a, n') ∧ (onNet (m >>= fun _ => pure responseSuccess) s).2 = { s with net := n' } := by
  obtain ⟨n', ran, after⟩ := onNet_success h
  obtain ⟨a, n1, called, returned⟩ := StM.bind_eq_ok ran
  cases returned
  exact ⟨a, n', called, after⟩

theorem onNet_call_outcome {α : Type} (m : NetM α) (s : State) :
    respond (onNet (m >>= fun _ => pure responseSuccess) s).1 = responseSuccess ∨
      respond (onNet (m >>= fun _ => pure responseSuccess) s).1 = response ccUnspecifiedError := by
  rw [onNet_run_fst, StM.bind_run]
  split
  · exact .inl rfl
  · exact .inr rfl

/-! ### The readers -/

/-- The service answers the two read methods: the mapper's `GetSubTree` and property reads. -/
def Net.ServesReads (n : Net) : Prop := .subTree ∉ n.faults ∧ .getProperty ∉ n.faults

/-- The addresses of family `f` with one of the `origins` beneath `root`, in enumeration order. -/
def Net.ifAddrs (n : Net) (f : Family) (origins : List AddressOrigin) (root : ObjPath) :
    List (IfAddr f) :=
  (n.below root .ip).filterMap (IfAddr.ofObj? f origins)

def Net.neighbors (n : Net) (f : Family) (root : ObjPath) : List (IfNeigh f) :=
  (n.below root .neighbor).filterMap (IfNeigh.ofObj? f)

variable {params : ChannelParams}

theorem getIfAddr_eq_ok {f : Family} {idx : Nat} {origins : List AddressOrigin} {found : Option (IfAddr f)}
    (h : getIfAddr f params idx origins n = (.ok found, n')) :
    n' = n ∧ found = (n.ifAddrs f origins params.logicalPath)[idx]? := by
  obtain ⟨ips, n1, listed, returned⟩ := StM.bind_eq_ok h
  obtain ⟨listed, rfl⟩ := readNet_eq_ok.mp listed
  obtain ⟨-, rfl⟩ := Net.lookup_eq_ok listed
  cases returned
  exact ⟨rfl, rfl⟩

theorem getIfAddr_run {f : Family} {idx : Nat} {origins : List AddressOrigin} (reads : n.ServesReads) :
    getIfAddr f params idx origins n = (.ok (n.ifAddrs f origins params.logicalPath)[idx]?, n) := by
  unfold getIfAddr
  rw [StM.bind_ok (readNet_eq_ok.mpr ⟨Net.lookup_run reads.1 reads.2, rfl⟩)]
  rfl

theorem getGatewayNeighbor_run {f : Family} (reads : n.ServesReads) :
    getGatewayNeighbor f params n =
      (.ok ((n.gateway f).bind fun g => (n.neighbors f params.logicalPath).find? (·.ip == g)), n) := by
  have gateway : getGatewayProperty f params n = (.ok (n.gateway f), n) :=
    readNet_eq_ok.mpr ⟨Net.getGateway_eq_ok.mpr ⟨reads.2, rfl⟩, rfl⟩
  unfold getGatewayNeighbor findGatewayNeighbor
  rw [StM.bind_ok (readNet_eq_ok.mpr ⟨Net.lookup_run reads.1 reads.2, rfl⟩), StM.bind_run, gateway]
  cases n.gateway f <;> rfl

theorem getIfAddr_readOnly (f : Family) (params : ChannelParams) (idx : Nat) (origins : List AddressOrigin) :
    ReadOnly (getIfAddr f params idx origins) :=
  ReadOnly.bind (ReadOnly.readNet _) fun _ => ReadOnly.pure _

theorem findGatewayNeighbor_readOnly (f : Family) (params : ChannelParams) (neighbors : List Obj) :
    ReadOnly (findGatewayNeighbor f params neighbors) :=
  ReadOnly.bind (ReadOnly.readNet _) fun gateway => by
    cases gateway <;> exact ReadOnly.pure _

theorem getGatewayNeighbor_readOnly (f : Family) (params : ChannelParams) :
    ReadOnly (getGatewayNeighbor f params) :=
  ReadOnly.bind (ReadOnly.readNet _) (findGatewayNeighbor_readOnly f params)

theorem getVLANProperty_readOnly (params : ChannelParams) : ReadOnly (getVLANProperty params) := by
  unfold getVLANProperty
  split
  · exact ReadOnly.pure _
  · refine ReadOnly.bind (ReadOnly.pure _) fun _ => ReadOnly.bind (ReadOnly.readNet _) fun vlan => ?_
    dsimp only
    split
    · exact ReadOnly.throw _
    · exact ReadOnly.bind (ReadOnly.pure _) fun _ => ReadOnly.pure _

theorem getLanIPv6Address_readOnly (P : Platform) (channel set : Nat) (origins : List AddressOrigin) :
    ReadOnly (getLanIPv6Address P channel set origins) := by
  refine ReadOnly.bind (channelCall_readOnly fun params => getIfAddr_readOnly _ params _ _) fun found => ?_
  cases found with
  | none => exact ReadOnly.pure _
  | some ifaddr =>
    refine ReadOnly.bind ?_ fun _ => ReadOnly.pure _
    cases ifaddr.origin
    all_goals first | exact ReadOnly.pure _ | exact ReadOnly.throw _

end Ipmi.Transport
