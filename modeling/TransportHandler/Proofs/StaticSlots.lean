import TransportHandler.Proofs.Writers

/-!
# IPv6 address slots

IPv6StaticAddresses reaches the static IPv6 addresses of the logical interface by slot, an
address's index in the service's enumeration order. Get packs a slot the way Set unpacks it,
and refuses a slot past `MAX_IPV6_STATIC_ADDRESSES`, which Set does not check.
-/

namespace Ipmi.Transport

variable {f : Family} {n n' : Net} {origins : List AddressOrigin} {root : ObjPath}

/-! ### Addresses by slot -/

theorem ifAddrs_origin {a : IfAddr f} (h : a ∈ n.ifAddrs f origins root) : a.origin ∈ origins := by
  obtain ⟨o, -, read⟩ := List.mem_filterMap.mp h
  unfold IfAddr.ofObj? at read
  split at read
  · split at read
    · split at read
      · cases read
        assumption
      · cases read
    · cases read
  · cases read

theorem ifAddrs_paths_distinct : (n.ifAddrs f origins root).Pairwise (·.path ≠ ·.path) := by
  have objs : n.objs.Pairwise (·.path ≠ ·.path) := List.pairwise_map.mp n.unique
  refine List.pairwise_filterMap.mpr ((objs.sublist (List.filter_sublist _)).imp ?_)
  intro o o' differ a found a' found'
  rw [IfAddr.ofObj?_path found, IfAddr.ofObj?_path found']
  exact differ

theorem perm_cons_filter_path {l : List (IfAddr f)} (distinct : l.Pairwise (·.path ≠ ·.path))
    {a : IfAddr f} (mem : a ∈ l) : l.Perm (a :: l.filter fun b => !(b.path == a.path)) := by
  induction l with
  | nil => cases mem
  | cons b rest ih =>
    obtain ⟨differs, restDistinct⟩ := List.pairwise_cons.mp distinct
    rcases List.mem_cons.mp mem with rfl | later
    · have kept : rest.filter (fun b => !(b.path == a.path)) = rest :=
        List.filter_eq_self.mpr fun b present => by simpa using (differs b present).symm
      simp [kept]
    · have other : (b.path == a.path) = false := by simpa using differs a later
      simp only [List.filter_cons, other, Bool.not_false, ite_true]
      exact ((ih restDistinct later).cons b).trans (List.Perm.swap a b _)

theorem ifAddrs_perm_without {a : IfAddr f} (found : a ∈ n.ifAddrs f origins root) :
    (n.ifAddrs f origins root).Perm (a :: (n.without (some a.path)).ifAddrs f origins root) := by
  obtain ⟨o, present, samePath, leaf⟩ := leaf_of_ifAddrs found
  obtain ⟨parent, kind, id, child⟩ := Net.childId_of_leaf present leaf
  rw [ifAddrs_without]
  simp only [Option.map_some', Option.getD_some, ← samePath, child, ObjPath.under_child]
  rw [← child, samePath]
  exact perm_cons_filter_path ifAddrs_paths_distinct found

/-! ### The slot layout -/

/-- What Get IPv6StaticAddresses packs for a slot. -/
def staticSlotBits (set : Nat) : Option (IfAddr .inet6) → List Bool
  | some a => packIPv6Address set .static true a.address a.prefixLength .active
  | none => packIPv6Address set .static false (Mathlib.Vector.replicate _ 0) Family.inet6.defaultPrefix .disabled

@[simp] theorem packIPv6Address_length (set : Nat) (source : IPv6Source) (enabled : Bool) (addr : Addr .inet6)
    (prefixLength : Nat) (status : IPv6AddressStatus) :
    (packIPv6Address set source enabled addr prefixLength status).length = 160 := by
  simp [packIPv6Address, Family.width]

theorem staticSlotBits_bytes (set : Nat) (slot : Option (IfAddr .inet6)) :
    (bytesOfBits (staticSlotBits set slot)).length = 20 := by
  have bits : (staticSlotBits set slot).length = 160 := by cases slot <;> simp [staticSlotBits]
  have whole := congrArg List.length (payloadBits_bytesOfBits (staticSlotBits set slot) (by rw [bits]))
  rw [payloadBits_length, bits] at whole
  omega

/-- The seven bits Set reads as reserved are the source type and reserved bits Get packs. -/
theorem sourceBits (source : IPv6Source) : natBits 4 source.code ++ natBits 3 0 = natBits 7 source.code := by
  rw [show 7 = 4 + 3 from rfl, natBits_add, Nat.div_eq_of_lt (by cases source <;> decide)]

theorem ipv6AddressFields_pack (set : Nat) (source : IPv6Source) (enabled : Bool) (addr : Addr .inet6)
    (prefixLength : Nat) (status : IPv6AddressStatus) :
    unpackExact (do return (← unpackU8, ← unpackBits 7, ← unpackBool,
        ← unpackArray Family.inet6.width, ← unpackU8, ← unpackU8))
      (bytesOfBits (packIPv6Address set source enabled addr prefixLength status)) =
      some (set % 2 ^ 8, source.code, enabled, addr, prefixLength % 2 ^ 8, status.code) := by
  have layout : packIPv6Address set source enabled addr prefixLength status =
      natBits 8 set ++ (natBits 7 source.code ++ (natBits 1 enabled.toNat ++ (payloadBits addr.toList ++
        (natBits 8 prefixLength ++ (natBits 8 status.code ++ []))))) := by
    simp only [packIPv6Address, ← sourceBits, List.append_assoc, List.append_nil]
  have sourceCode : source.code % 2 ^ 7 = source.code := Nat.mod_eq_of_lt (by cases source <;> decide)
  have statusCode : status.code % 2 ^ 8 = status.code := Nat.mod_eq_of_lt (by cases status <;> decide)
  rw [unpackExact, payloadBits_bytesOfBits _ (by rw [packIPv6Address_length]), layout]
  simp only [unpackU8, StateT.run_bind, unpackBits_natBits, unpackBool_natBits, unpackArray_run,
    Option.bind_eq_bind, Option.some_bind, StateT.run_pure, sourceCode, statusCode]

theorem setLanIpv6Static_request (P : Platform) (channel set : Nat) (enabled : Bool) (addr : Addr .inet6)
    (prefixLength : Nat) (status : IPv6AddressStatus) (setByte : set < 2 ^ 8) (prefixByte : prefixLength < 2 ^ 8) :
    SetLan.ipv6StaticAddresses P channel
        (bytesOfBits (packIPv6Address set .static enabled addr prefixLength status)) =
      onNet ((if enabled then channelCall P channel (reconfigureIfAddr6 · set addr prefixLength)
        else channelCall P channel (deconfigureIfAddr6 · set)) >>= fun _ => pure responseSuccess) := by
  simp only [SetLan.ipv6StaticAddresses, ipv6AddressFields_pack, Nat.mod_eq_of_lt setByte,
    Nat.mod_eq_of_lt prefixByte]
  cases enabled <;> rfl

/-! ### Get -/

theorem getLanIPv6Address_static_eq_ok {P : Platform} {channel set : Nat} {bits : List Bool}
    (h : getLanIPv6Address P channel set originsV6Static n = (.ok bits, n')) :
    n' = n ∧ ∃ params, resolveChannel P channel n.objs = some params ∧
      bits = staticSlotBits set (n.ifAddrs .inet6 originsV6Static params.logicalPath)[set]? := by
  obtain ⟨found, n1, called, rest⟩ := StM.bind_eq_ok h
  obtain ⟨-, params, resolves, got⟩ := channelCall_eq_ok called
  obtain ⟨same, rfl⟩ := getIfAddr_eq_ok got
  subst n1
  cases slot : (n.ifAddrs .inet6 originsV6Static params.logicalPath)[set]? with
  | none =>
    rw [slot] at rest
    cases rest
    exact ⟨rfl, params, resolves, by rw [slot]; rfl⟩
  | some a =>
    have static : a.origin = .static := List.mem_singleton.mp (ifAddrs_origin (List.getElem?_mem slot))
    rw [slot] at rest
    simp only [static, originToSourceType, StM.pure_bind] at rest
    cases rest
    exact ⟨rfl, params, resolves, by rw [slot]; rfl⟩

theorem getLanIpv6Static_success {P : Platform} {ctxChannel channelBits set : Nat} {s : State}
    {data : List Bool}
    (got : respond (getLan P ctxChannel channelBits 0 false 56 set 0 s).1 =
      responseSuccess (natBits 8 current_revision ++ data)) :
    P.isValidChannel (P.convertCurrentChannelNum channelBits ctxChannel) ∧
      ∃ params, resolveChannel P (P.convertCurrentChannelNum channelBits ctxChannel) s.net.objs = some params ∧
        bytesOfBits data =
          bytesOfBits (staticSlotBits set (s.net.ifAddrs .inet6 originsV6Static params.logicalPath)[set]?) := by
  have selects : LanParam.ofNat? 56 = some .ipv6StaticAddresses := rfl
  cases valid : P.isValidChannel (P.convertCurrentChannelNum channelBits ctxChannel)
  · rw [getLan_param selects, valid] at got
    cases got
  · refine ⟨rfl, ?_⟩
    rw [getLan_valid selects valid] at got
    simp only [getLanParam, GetLan.ipv6Addresses] at got
    split at got
    · cases got
    · simp only [StM.pure_bind] at got
      rw [StM.bind_run] at got
      cases read : getLanIPv6Address P (P.convertCurrentChannelNum channelBits ctxChannel) set originsV6Static s.net
        with
      | mk result n1 =>
        cases result with
        | error e =>
          simp only [onNet, read] at got
          cases got
        | ok bits =>
          obtain ⟨-, params, resolves, rfl⟩ := getLanIPv6Address_static_eq_ok read
          simp only [onNet, read, StM.pure_run, respond_ok] at got
          have bytes := congrArg Rsp.data got
          simp only [responseSuccess, bytesOfBits_natBits_append, List.cons.injEq] at bytes
          exact ⟨params, resolves, bytes.2.symm⟩

/-! ### A slot read and written back -/

def Net.staticIPv6 (n : Net) (root : ObjPath) : List (Addr .inet6 × Nat) :=
  (n.ifAddrs .inet6 originsV6Static root).map fun a => (a.address, a.prefixLength)

theorem staticIPv6_reconfigure_self {params : ChannelParams} {set : Nat} {a : IfAddr .inet6} {u : Unit}
    (slot : (n.ifAddrs .inet6 originsV6Static params.logicalPath)[set]? = some a)
    (h : reconfigureIfAddr6 params set a.address a.prefixLength n = (.ok u, n')) :
    (n'.staticIPv6 params.logicalPath).Perm (n.staticIPv6 params.logicalPath) := by
  have found := List.getElem?_mem slot
  obtain ⟨name, named, -, rfl, -⟩ := reconfigureIfAddr6_eq_ok h
  rw [slot, Option.map_some']
  rw [named] at found ⊢
  unfold Net.staticIPv6
  rw [ifAddrs_addChild_ip, if_pos (by decide)]
  have back := ((ifAddrs_perm_without found).map fun b : IfAddr .inet6 => (b.address, b.prefixLength)).symm
  exact ((List.perm_append_singleton _ _).map _).trans back

/-- A slot read by Get and sent back as a Set is accepted, and on success changes no pair. -/
theorem static_slot_write_back (P : Platform) (ctxChannel channelBits set : Nat) (s : State)
    (params : ChannelParams) (data : List Bool) (setByte : set < 2 ^ 8)
    (resolves : resolveChannel P (P.convertCurrentChannelNum channelBits ctxChannel) s.net.objs = some params)
    (prefixBytes : ∀ a ∈ s.net.ifAddrs .inet6 originsV6Static params.logicalPath, a.prefixLength < 2 ^ 8)
    (got : respond (getLan P ctxChannel channelBits 0 false 56 set 0 s).1 =
      responseSuccess (natBits 8 current_revision ++ data)) :
    let after := setLan P ctxChannel channelBits 0 56 (bytesOfBits data) s
    (bytesOfBits data).length = 20 ∧
      (respond after.1 = responseSuccess ∨ respond after.1 = response ccUnspecifiedError) ∧
      (respond after.1 = responseSuccess →
        (after.2.net.staticIPv6 params.logicalPath).Perm (s.net.staticIPv6 params.logicalPath)) := by
  obtain ⟨valid, params', resolves', sameBytes⟩ := getLanIpv6Static_success got
  rw [resolves, Option.some.injEq] at resolves'
  subst params'
  dsimp only
  rw [sameBytes, setLan_param (show LanParam.ofNat? 56 = some .ipv6StaticAddresses from rfl), if_pos valid]
  refine ⟨staticSlotBits_bytes _ _, ?_⟩
  cases slot : (s.net.ifAddrs .inet6 originsV6Static params.logicalPath)[set]? with
  | none =>
    rw [staticSlotBits, setLanParam, setLanIpv6Static_request P _ _ _ _ _ _ setByte (by decide), if_neg (by decide)]
    refine ⟨onNet_call_outcome _ _, fun succeeds => ?_⟩
    obtain ⟨u, n', called, after⟩ := onNet_call_success succeeds
    obtain ⟨-, params', resolves', deconfigured⟩ := channelCall_eq_ok called
    rw [resolves, Option.some.injEq] at resolves'
    subst params'
    obtain ⟨rfl, -⟩ := deconfigureIfAddr6_eq_ok deconfigured
    rw [after, slot]
    exact List.Perm.refl _
  | some a =>
    rw [staticSlotBits, setLanParam,
      setLanIpv6Static_request P _ _ _ _ _ _ setByte (prefixBytes a (List.getElem?_mem slot)), if_pos rfl]
    refine ⟨onNet_call_outcome _ _, fun succeeds => ?_⟩
    obtain ⟨u, n', called, after⟩ := onNet_call_success succeeds
    obtain ⟨-, params', resolves', reconfigured⟩ := channelCall_eq_ok called
    rw [resolves, Option.some.injEq] at resolves'
    subst params'
    rw [after]
    exact staticIPv6_reconfigure_self slot reconfigured

def slotPlatform : Platform := .ofNames [(1, "eth0")] 15 15

def slotAddr (i : Nat) : Addr .inet6 := ⟨[0xfd, 0, 0, 0, 0, 0, 0, 0, 0, 0, 0, 0, 0, 0, 0, UInt8.ofNat i], rfl⟩

/-- `eth0` with `fd00::i/64` for `i` below `count`. -/
def slotObjs (count : Nat) : List Obj :=
  ⟨.iface "eth0", .ethernet .none (Mathlib.Vector.replicate 6 2)⟩ ::
    (List.range count).map fun i => ⟨.child "eth0" .ipv6 i, .ip (.v6 (slotAddr (i + 1))) 64 .static⟩

def oneSlotState (faults : List Method) : State :=
  .init (.ofObjs (slotObjs 1) none none faults (by decide) (by decide)) ⟨[], none⟩

set_option maxRecDepth 4000 in
theorem static_slot_write_back_eth0 :
    let data := packIPv6Address 0 .static true (slotAddr 1) 64 .active
    let after := setLan slotPlatform 1 1 0 56 (bytesOfBits data) (oneSlotState [])
    0 < 2 ^ 8 ∧
      resolveChannel slotPlatform 1 (oneSlotState []).net.objs = some ⟨1, "eth0", .iface "eth0", .iface "eth0"⟩ ∧
      (∀ a ∈ (oneSlotState []).net.ifAddrs .inet6 originsV6Static (.iface "eth0"), a.prefixLength < 2 ^ 8) ∧
      respond (getLan slotPlatform 1 1 0 false 56 0 0 (oneSlotState [])).1 =
        responseSuccess (natBits 8 current_revision ++ data) ∧
      (bytesOfBits data).length = 20 ∧
      (respond after.1 = responseSuccess ∨ respond after.1 = response ccUnspecifiedError) ∧
      (respond after.1 = responseSuccess →
        (after.2.net.staticIPv6 (.iface "eth0")).Perm ((oneSlotState []).net.staticIPv6 (.iface "eth0"))) :=
  have resolves : resolveChannel slotPlatform 1 (oneSlotState []).net.objs =
      some ⟨1, "eth0", .iface "eth0", .iface "eth0"⟩ := by decide
  have prefixBytes : ∀ a ∈ (oneSlotState []).net.ifAddrs .inet6 originsV6Static (.iface "eth0"),
      a.prefixLength < 2 ^ 8 := by decide
  have got : respond (getLan slotPlatform 1 1 0 false 56 0 0 (oneSlotState [])).1 =
      responseSuccess (natBits 8 current_revision ++ packIPv6Address 0 .static true (slotAddr 1) 64 .active) := by
    decide
  ⟨by decide, resolves, prefixBytes, got,
    static_slot_write_back slotPlatform 1 1 0 (oneSlotState []) _ _ (by decide) resolves prefixBytes got⟩

set_option maxRecDepth 4000 in
/-- When the service fails to create the address again, the write-back has lost it. -/
theorem static_slot_write_back_loses_address :
    let data := packIPv6Address 0 .static true (slotAddr 1) 64 .active
    let after := setLan slotPlatform 1 1 0 56 (bytesOfBits data) (oneSlotState [.createIP])
    respond (getLan slotPlatform 1 1 0 false 56 0 0 (oneSlotState [.createIP])).1 =
        responseSuccess (natBits 8 current_revision ++ data) ∧
      (oneSlotState [.createIP]).net.staticIPv6 (.iface "eth0") = [(slotAddr 1, 64)] ∧
      respond after.1 = response ccUnspecifiedError ∧
      after.2.net.staticIPv6 (.iface "eth0") = [] := by
  decide

/-! ### Slots past the last address -/

/-- A write to a slot past the last static address adds an address. -/
theorem setLanIpv6Static_beyond_slots (P : Platform) (ctxChannel channelBits set : Nat) (s : State)
    (params : ChannelParams) (addr : Addr .inet6) (prefixLength : Nat) (setByte : set < 2 ^ 8)
    (prefixByte : prefixLength < 2 ^ 8)
    (resolves : resolveChannel P (P.convertCurrentChannelNum channelBits ctxChannel) s.net.objs = some params)
    (beyond : (s.net.staticIPv6 params.logicalPath).length ≤ set)
    (succeeds : respond (setLan P ctxChannel channelBits 0 56
      (bytesOfBits (packIPv6Address set .static true addr prefixLength .active)) s).1 = responseSuccess) :
    (setLan P ctxChannel channelBits 0 56 (bytesOfBits (packIPv6Address set .static true addr prefixLength .active))
        s).2.net.staticIPv6 params.logicalPath |>.Perm (s.net.staticIPv6 params.logicalPath ++ [(addr, prefixLength)]) := by
  obtain ⟨-, dispatched⟩ := setLan_success (show LanParam.ofNat? 56 = some .ipv6StaticAddresses from rfl) succeeds
  rw [dispatched, setLanParam, setLanIpv6Static_request P _ _ _ _ _ _ setByte prefixByte, if_pos rfl] at succeeds ⊢
  obtain ⟨u, n', called, after⟩ := onNet_call_success succeeds
  obtain ⟨-, params', resolves', reconfigured⟩ := channelCall_eq_ok called
  rw [resolves, Option.some.injEq] at resolves'
  subst params'
  obtain ⟨name, named, -, rfl, -⟩ := reconfigureIfAddr6_eq_ok reconfigured
  have empty : (s.net.ifAddrs .inet6 originsV6Static params.logicalPath)[set]? = none :=
    List.getElem?_eq_none (by simpa only [Net.staticIPv6, List.length_map] using beyond)
  rw [after, empty, named]
  exact .of_eq (by simp [Net.staticIPv6, ifAddrs_addChild_ip, Net.without, originsV6Static])

def fullSlotState : State :=
  .init (.ofObjs (slotObjs 15) none none [] (by decide) (by decide)) ⟨[], none⟩

/-- Set IPv6StaticAddresses of slot 15, enabled, with `fd00::10/64`. -/
def overflowRequest : List UInt8 := [15, 0x80, 0xfd, 0, 0, 0, 0, 0, 0, 0, 0, 0, 0, 0, 0, 0, 0, 0x10, 64, 0]

set_option maxRecDepth 4000 in
/-- Bug: Set of slot 15 on fifteen addresses makes a sixteenth, which Get refuses to read. -/
theorem static_slots_overflow :
    (fullSlotState.net.staticIPv6 (.iface "eth0")).length = 15 ∧
      respond (setLan slotPlatform 1 1 0 56 overflowRequest fullSlotState).1 = responseSuccess ∧
      ((setLan slotPlatform 1 1 0 56 overflowRequest fullSlotState).2.net.staticIPv6 (.iface "eth0")).length = 16 ∧
      respond (getLan slotPlatform 1 1 0 false 56 15 0 (setLan slotPlatform 1 1 0 56 overflowRequest fullSlotState).2).1 =
        response ccParmOutOfRange := by
  decide

end Ipmi.Transport
