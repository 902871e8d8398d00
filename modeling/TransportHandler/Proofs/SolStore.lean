import TransportHandler.Proofs.Frames

/-!
# The SOL service as a store

Each interface has one SOL object, so a Set and a Get on one channel agree, and channels of
different interfaces are independent.
-/

namespace Ipmi.Transport

def SolService.prop (sol : SolService) (name property : String) : Option Value :=
  (sol.objs.lookup name).bind (·.lookup property)

/-! ### Lookup after a write -/

theorem lookup_map_update {β : Type} (entries : List (String × β)) (key other : String) (new : β) :
    (entries.map fun entry => if entry.1 = key then (key, new) else entry).lookup other =
      if other = key then (entries.lookup key).map fun _ => new else entries.lookup other := by
  induction entries with
  | nil => split <;> rfl
  | cons entry rest ih =>
    obtain ⟨k, v⟩ := entry
    by_cases here : k = key
    · subst here
      by_cases same : other = k
      · simp [same]
      · have skip : (other == k) = false := by simpa using same
        simp [List.lookup_cons, same, skip, ih]
    · by_cases same : other = key
      · subst same
        have skip : (other == k) = false := by simpa using Ne.symm here
        simp [List.lookup_cons, here, skip, ih]
      · simp only [List.map_cons, here, if_false, List.lookup_cons, ih, same]

theorem setProperty_lookup (props : List (String × Value)) (property property' : String) (value : Value) :
    (setProperty props property value).lookup property' =
      if property' = property then (props.lookup property).map fun _ => value else props.lookup property' :=
  lookup_map_update props property property' value

/-! ### Writes to one object -/

/-- `sol'` is `sol` after `writes` to the object of `name`, the latest first. -/
def SolService.Written (sol sol' : SolService) (name : String) (writes : List (String × Value)) : Prop :=
  sol'.baudrate = sol.baudrate ∧ ∀ name' property, sol'.prop name' property =
    if name' = name then (writes.lookup property).orElse fun _ => sol.prop name' property
    else sol.prop name' property

namespace SolService.Written

variable {sol sol1 sol' : SolService} {name : String} {writes writes' : List (String × Value)}

theorem refl (sol : SolService) (name : String) : Written sol sol name [] :=
  ⟨rfl, fun name' property => by split <;> rfl⟩

theorem trans (first : Written sol sol1 name writes) (second : Written sol1 sol' name writes') :
    Written sol sol' name (writes' ++ writes) := by
  refine ⟨second.1.trans first.1, fun name' property => ?_⟩
  rw [second.2, first.2, List.lookup_append]
  split
  · cases writes'.lookup property <;> rfl
  · rfl

theorem prop_other (written : Written sol sol' name writes) {name' : String} (other : name' ≠ name)
    (property : String) : sol'.prop name' property = sol.prop name' property := by
  rw [written.2, if_neg other]

theorem prop_self (written : Written sol sol' name writes) {property : String} {value : Value}
    (stored : writes.lookup property = some value) : sol'.prop name property = some value := by
  rw [written.2, if_pos rfl, stored]
  rfl

theorem prop_unwritten (written : Written sol sol' name writes) (property : String)
    (unwritten : writes.lookup property = none) : sol'.prop name property = sol.prop name property := by
  rw [written.2, if_pos rfl, unwritten]
  rfl

end SolService.Written

variable {P : Platform} {property : String} {value : Value} {channelNum : Nat} {sol sol' : SolService} {b : Bool}

theorem setSOLParameter_written (h : setSOLParameter P property value channelNum sol = (.ok b, sol')) :
    sol.Written sol' (P.getChannelName channelNum) (if b then [(property, value)] else []) := by
  unfold setSOLParameter at h
  dsimp only at h
  split at h
  · rename_i props found
    split at h
    · rename_i old present
      split at h
      · cases h
        refine ⟨rfl, fun name' property' => ?_⟩
        simp only [SolService.prop, lookup_map_update, found, if_true]
        split
        · rename_i same
          subst same
          simp only [Option.map_some', Option.some_bind, setProperty_lookup, present]
          by_cases here : property' = property
          · simp [here]
          · have skip : (property' == property) = false := by simpa using here
            simp [here, List.lookup_cons, skip, found]
        · rfl
      · cases h
        exact SolService.Written.refl _ _
    · cases h
      exact SolService.Written.refl _ _
  · cases h
    exact SolService.Written.refl _ _

theorem setSOLParameter_run (P : Platform) (property : String) (value : Value) (channelNum : Nat) (sol : SolService) :
    ∃ b, (setSOLParameter P property value channelNum sol).1 = .ok b := by
  unfold setSOLParameter
  dsimp only
  repeat' split
  all_goals exact ⟨_, rfl⟩

/-! ### What the SOL cases write and read -/

/-- `m` writes only the SOL object of interface `name`, whatever it answers. -/
def SolWrites {α : Type} (name : String) (m : SolM α) : Prop :=
  ∀ sol : SolService, ∃ writes, sol.Written (m sol).2 name writes

/-- Two SOL states agree on the object of interface `name` and on the console's baud rate. -/
def SolService.Agree (name : String) (sol sol' : SolService) : Prop :=
  sol.baudrate = sol'.baudrate ∧ ∀ property, sol.prop name property = sol'.prop name property

/-- `m` changes nothing, and answers from the object of interface `name` and the baud rate. -/
structure SolReads {α : Type} (name : String) (m : SolM α) : Prop where
  readOnly : ReadOnly m
  answers : ∀ sol sol', sol.Agree name sol' → (m sol).1 = (m sol').1

namespace SolWrites

variable {α β : Type} {name : String} {m : SolM α} {k : α → SolM β}

theorem of_readOnly (reads : ReadOnly m) : SolWrites name m := fun sol => ⟨[], by
  rw [reads sol]
  exact SolService.Written.refl _ _⟩

theorem bind (first : SolWrites name m) (rest : ∀ a, SolWrites name (k a)) : SolWrites name (m >>= k) := by
  intro sol
  obtain ⟨writes, written⟩ := first sol
  rw [StM.bind_run]
  cases ran : m sol with
  | mk r sol1 =>
    rw [ran] at written
    cases r with
    | ok a =>
      obtain ⟨writes', written'⟩ := rest a sol1
      exact ⟨_, written.trans written'⟩
    | error e => exact ⟨writes, written⟩

theorem setSOLParameter (P : Platform) (property : String) (value : Value) (channelNum : Nat) :
    SolWrites (P.getChannelName channelNum) (Transport.setSOLParameter P property value channelNum) := by
  intro sol
  obtain ⟨b, answered⟩ := setSOLParameter_run P property value channelNum sol
  exact ⟨_, setSOLParameter_written (Prod.ext answered rfl)⟩

end SolWrites

namespace SolReads

variable {α β : Type} {name : String} {m : SolM α} {k : α → SolM β}

theorem pure (a : α) : SolReads name (Pure.pure a : SolM α) := ⟨ReadOnly.pure a, fun _ _ _ => rfl⟩

theorem throw (e : Exn) : SolReads name (MonadExcept.throw e : SolM α) := ⟨ReadOnly.throw e, fun _ _ _ => rfl⟩

theorem bind (first : SolReads name m) (rest : ∀ a, SolReads name (k a)) : SolReads name (m >>= k) := by
  refine ⟨ReadOnly.bind first.readOnly fun a => (rest a).readOnly, fun sol sol' agree => ?_⟩
  have before : m sol = ((m sol').1, sol) := Prod.ext (first.answers sol sol' agree) (first.readOnly sol)
  have before' : m sol' = ((m sol').1, sol') := Prod.ext rfl (first.readOnly sol')
  rw [StM.bind_run, StM.bind_run, before, before']
  cases (m sol').1 with
  | ok a => exact (rest a).answers sol sol' agree
  | error e => rfl

theorem getSOLParameter (P : Platform) (property : String) (channelNum : Nat) :
    SolReads (P.getChannelName channelNum) (Transport.getSOLParameter P property channelNum) :=
  ⟨getSOLParameter_readOnly P property channelNum, fun _ _ agree => congrArg Except.ok (agree.2 property)⟩

theorem getU8 (v : Value) : SolReads name v.getU8 :=
  ⟨Value.getU8_readOnly v, fun _ _ _ => by cases v <;> rfl⟩

theorem getBool (v : Value) : SolReads name v.getBool :=
  ⟨Value.getBool_readOnly v, fun _ _ _ => by cases v <;> rfl⟩

theorem getSOLBaudRate : SolReads name Transport.getSOLBaudRate :=
  ⟨getSOLBaudRate_readOnly, fun _ _ agree => congrArg Except.ok agree.1⟩

end SolReads

section Cases

variable (P : Platform) (channelNum configParamData1 : Nat) (configParamData2 : Option Nat)

theorem getSolProperties_reads (first : String) (read : Value → SolM Nat) (second : Option String)
    (reads : ∀ v, SolReads (P.getChannelName channelNum) (read v)) :
    SolReads (P.getChannelName channelNum) (GetSol.properties P channelNum first read second) := by
  unfold GetSol.properties
  repeat' first
    | exact SolReads.pure _
    | exact SolReads.getSOLParameter P _ channelNum
    | exact reads _
    | exact SolReads.getU8 _
    | refine SolReads.bind ?_ fun _ => ?_
    | split

theorem getSolAuthentication_reads : SolReads (P.getChannelName channelNum) (GetSol.authentication P channelNum) := by
  unfold GetSol.authentication
  repeat' first
    | exact SolReads.pure _
    | exact SolReads.getSOLParameter P _ channelNum
    | exact SolReads.getU8 _
    | exact SolReads.getBool _
    | refine SolReads.bind ?_ fun _ => ?_
    | split

theorem getSolBitrate_reads (name : String) : SolReads name GetSol.bitrate := by
  unfold GetSol.bitrate
  repeat' first
    | exact SolReads.pure _
    | exact SolReads.throw _
    | exact SolReads.getSOLBaudRate
    | refine SolReads.bind ?_ fun _ => ?_
    | split

theorem setSol_writes : SolWrites (P.getChannelName channelNum) (SetSol.progress P channelNum configParamData1 configParamData2) ∧
    SolWrites (P.getChannelName channelNum) (SetSol.enable P channelNum configParamData1 configParamData2) ∧
    SolWrites (P.getChannelName channelNum) (SetSol.authentication P channelNum configParamData1 configParamData2) ∧
    SolWrites (P.getChannelName channelNum) (SetSol.accumulate P channelNum configParamData1 configParamData2) ∧
    SolWrites (P.getChannelName channelNum) (SetSol.retry P channelNum configParamData1 configParamData2) := by
  have answer : ∀ r : Rsp, SolWrites (P.getChannelName channelNum) (Pure.pure r : SolM Rsp) :=
    fun r => SolWrites.of_readOnly (ReadOnly.pure r)
  refine ⟨?_, ?_, ?_, ?_, ?_⟩ <;>
    dsimp only [SetSol.progress, SetSol.enable, SetSol.authentication, SetSol.accumulate, SetSol.retry,
      StM.pure_bind]
  · split
    · exact answer _
    refine SolWrites.bind (SolWrites.of_readOnly (getSOLParameter_readOnly P _ channelNum)) fun current => ?_
    rcases current with _ | current
    · exact answer _
    refine SolWrites.bind (SolWrites.of_readOnly (Value.getU8_readOnly _)) fun _ => ?_
    split
    · exact answer _
    refine SolWrites.bind (SolWrites.setSOLParameter P _ _ channelNum) fun _ => ?_
    split <;> exact answer _
  · split
    · exact answer _
    refine SolWrites.bind (SolWrites.setSOLParameter P _ _ channelNum) fun _ => ?_
    split <;> exact answer _
  · split
    · exact answer _
    split
    · exact answer _
    refine SolWrites.bind (SolWrites.setSOLParameter P _ _ channelNum) fun _ => ?_
    split <;> exact answer _
  · split
    · split
      · exact answer _
      refine SolWrites.bind (SolWrites.setSOLParameter P _ _ channelNum) fun _ => ?_
      split
      · exact answer _
      refine SolWrites.bind (SolWrites.setSOLParameter P _ _ channelNum) fun _ => ?_
      split <;> exact answer _
    · exact answer _
  · split
    · refine SolWrites.bind (SolWrites.setSOLParameter P _ _ channelNum) fun _ => ?_
      split
      · exact answer _
      refine SolWrites.bind (SolWrites.setSOLParameter P _ _ channelNum) fun _ => ?_
      split <;> exact answer _
    · exact answer _

end Cases

/-! ### The two SOL commands -/

/-- Set SOL Configuration Parameters writes only the SOL object of its channel's interface. -/
theorem setSOLConfParams_written (P : Platform) (ctxChannel chNum reserved paramSelector configParamData1 : Nat)
    (configParamData2 : Option Nat) (s : State) :
    ∃ writes, s.sol.Written
      (setSOLConfParams P ctxChannel chNum reserved paramSelector configParamData1 configParamData2 s).2.sol
      (P.getChannelName (P.convertCurrentChannelNum chNum ctxChannel)) writes := by
  obtain ⟨progress, enable, authentication, accumulate, retry⟩ :=
    setSol_writes P (P.convertCurrentChannelNum chNum ctxChannel) configParamData1 configParamData2
  dsimp only [setSOLConfParams, StM.pure_bind]
  split
  · exact ⟨[], SolService.Written.refl _ _⟩
  split
  · exact ⟨[], SolService.Written.refl _ _⟩
  generalize SolParameter.ofNat? paramSelector = param
  rcases param with _ | _ | _ | _ | _ | _ | _ | _ | _ | _
  exacts [⟨[], SolService.Written.refl _ _⟩, progress s.sol, enable s.sol, authentication s.sol, accumulate s.sol,
    retry s.sol, ⟨[], SolService.Written.refl _ _⟩, ⟨[], SolService.Written.refl _ _⟩, ⟨[], SolService.Written.refl _ _⟩,
    ⟨[], SolService.Written.refl _ _⟩]

/-- Get SOL answers from its channel's SOL object and the baud rate alone. -/
theorem getSOLConfParams_agree (P : Platform) (ctxChannel chNum reserved : Nat) (getParamRev : Bool)
    (paramSelector setSelector blockSelector : Nat) {s t : State}
    (agree : s.sol.Agree (P.getChannelName (P.convertCurrentChannelNum chNum ctxChannel)) t.sol) :
    (getSOLConfParams P ctxChannel chNum reserved getParamRev paramSelector setSelector blockSelector s).1 =
      (getSOLConfParams P ctxChannel chNum reserved getParamRev paramSelector setSelector blockSelector t).1 := by
  have properties := fun first read second reads =>
    (getSolProperties_reads P (P.convertCurrentChannelNum chNum ctxChannel) first read second reads).answers _ _ agree
  dsimp only [getSOLConfParams, StM.pure_bind]
  split
  · rfl
  split
  · rfl
  split
  · rfl
  generalize SolParameter.ofNat? paramSelector = param
  rcases param with _ | _ | _ | _ | _ | _ | _ | _ | _ | _
  exacts [rfl, properties _ _ _ SolReads.getU8,
    properties _ _ _ fun v => SolReads.bind (SolReads.getBool v) fun _ => SolReads.pure _,
    (getSolAuthentication_reads P _).answers _ _ agree, properties _ _ _ SolReads.getU8,
    properties _ _ _ fun v => SolReads.bind (SolReads.getU8 v) fun _ => SolReads.pure _,
    (getSolBitrate_reads _).answers _ _ agree, (getSolBitrate_reads _).answers _ _ agree, rfl, rfl]

def solPlatform : Platform := Platform.ofNames [(1, "eth0"), (2, "eth1")] 15 15

def solObject : List (String × Value) :=
  [("Progress", .u8 0), ("Enable", .bool true), ("Privilege", .u8 4), ("ForceAuthentication", .bool false),
    ("ForceEncryption", .bool true), ("AccumulateIntervalMS", .u8 12), ("Threshold", .u8 96),
    ("RetryCount", .u8 7), ("RetryIntervalMS", .u8 100)]

/-- The SOL objects of `eth0` and `eth1`, alike, and a console at 115200 baud. -/
def solState : State := .init quietState.net ⟨[("eth0", solObject), ("eth1", solObject)], some (.u32 115200)⟩

/-- A SOL Set on one channel leaves Get on a channel of any other interface as it was. -/
theorem sol_channels_independent (P : Platform) (ctxChannel chNum reserved paramSelector configParamData1 : Nat)
    (configParamData2 : Option Nat) (ctxChannel' chNum' reserved' : Nat) (getParamRev : Bool)
    (paramSelector' setSelector blockSelector : Nat) (s : State)
    (differ : P.getChannelName (P.convertCurrentChannelNum chNum' ctxChannel') ≠
      P.getChannelName (P.convertCurrentChannelNum chNum ctxChannel)) :
    (getSOLConfParams P ctxChannel' chNum' reserved' getParamRev paramSelector' setSelector blockSelector
        (setSOLConfParams P ctxChannel chNum reserved paramSelector configParamData1 configParamData2 s).2).1 =
      (getSOLConfParams P ctxChannel' chNum' reserved' getParamRev paramSelector' setSelector blockSelector s).1 := by
  obtain ⟨writes, written⟩ :=
    setSOLConfParams_written P ctxChannel chNum reserved paramSelector configParamData1 configParamData2 s
  exact getSOLConfParams_agree P _ _ _ _ _ _ _ ⟨written.1, written.prop_other differ⟩

theorem sol_channels_independent_eth1 :
    solPlatform.getChannelName (solPlatform.convertCurrentChannelNum 2 1) ≠
        solPlatform.getChannelName (solPlatform.convertCurrentChannelNum 1 1) ∧
      (getSOLConfParams solPlatform 1 2 0 false 4 0 0 (setSOLConfParams solPlatform 1 1 0 4 3 (some 20) solState).2).1 =
        (getSOLConfParams solPlatform 1 2 0 false 4 0 0 solState).1 :=
  ⟨by decide, sol_channels_independent solPlatform 1 1 0 4 3 (some 20) 1 2 0 false 4 0 0 solState (by decide)⟩

/-! ### Set, then Get -/

section RoundTrip

variable {P : Platform} {channelNum configParamData1 : Nat} {configParamData2 : Option Nat} {sol sol' : SolService}

theorem setSOLConfParams_checks {ctxChannel chNum paramSelector : Nat} {s : State}
    (h : respond (setSOLConfParams P ctxChannel chNum 0 paramSelector configParamData1 configParamData2 s).1 =
      responseSuccess) :
    P.isValidChannel (P.convertCurrentChannelNum chNum ctxChannel) = true ∧
      P.isLanChannel (P.convertCurrentChannelNum chNum ctxChannel) = true := by
  unfold setSOLConfParams at h
  dsimp only [StM.pure_bind] at h
  split at h
  · cases h
  · split at h
    · cases h
    · rename_i checked lan
      exact ⟨by simpa using checked, by simpa using lan⟩

theorem setSOLParameter_success {property : String} {value : Value} {rest : SolM Rsp}
    (h : (setSOLParameter P property value channelNum >>= fun ok =>
      if (!ok) = true then pure (response ccUnspecifiedError) else rest) sol = (.ok responseSuccess, sol')) :
    ∃ sol1, sol.Written sol1 (P.getChannelName channelNum) [(property, value)] ∧
      rest sol1 = (.ok responseSuccess, sol') := by
  obtain ⟨ok, sol1, wrote, h⟩ := StM.bind_eq_ok h
  cases ok
  · cases h
  · exact ⟨sol1, setSOLParameter_written wrote, h⟩

theorem ReadOnly.state_eq {σ α : Type} {m : StM σ α} {s s' : σ} {r : Except Exn α} (reads : ReadOnly m)
    (h : m s = (r, s')) : s' = s := by
  have same := reads s
  rwa [h] at same

theorem setSolProgress_success (h : SetSol.progress P channelNum configParamData1 configParamData2 sol =
    (.ok responseSuccess, sol')) :
    sol.Written sol' (P.getChannelName channelNum) [("Progress", .u8 (configParamData1 &&& progressMask))] := by
  unfold SetSol.progress at h
  dsimp only [StM.pure_bind] at h
  split at h
  · cases h
  · obtain ⟨current, sol1, read, h⟩ := StM.bind_eq_ok h
    cases (getSOLParameter_readOnly _ _ _).state_eq read
    rcases current with _ | current
    · cases h
    · obtain ⟨lift, sol2, readU8, h⟩ := StM.bind_eq_ok h
      cases (Value.getU8_readOnly _).state_eq readU8
      split at h
      · cases h
      · obtain ⟨sol3, written, rest⟩ := setSOLParameter_success h
        cases rest
        exact written

theorem setSolEnable_success (h : SetSol.enable P channelNum configParamData1 configParamData2 sol =
    (.ok responseSuccess, sol')) :
    sol.Written sol' (P.getChannelName channelNum) [("Enable", .bool (configParamData1 &&& enableMask ≠ 0))] := by
  unfold SetSol.enable at h
  dsimp only [StM.pure_bind] at h
  split at h
  · cases h
  · obtain ⟨sol1, written, rest⟩ := setSOLParameter_success h
    cases rest
    exact written

theorem setSolAccumulate_success (h : SetSol.accumulate P channelNum configParamData1 configParamData2 sol =
    (.ok responseSuccess, sol')) :
    ∃ data2, configParamData2 = some data2 ∧ sol.Written sol' (P.getChannelName channelNum)
      [("Threshold", .u8 data2), ("AccumulateIntervalMS", .u8 configParamData1)] := by
  unfold SetSol.accumulate at h
  dsimp only [StM.pure_bind] at h
  split at h
  · rename_i data2
    split at h
    · cases h
    · obtain ⟨sol1, first, h⟩ := setSOLParameter_success h
      obtain ⟨sol2, second, rest⟩ := setSOLParameter_success h
      cases rest
      exact ⟨data2, rfl, first.trans second⟩
  · cases h

theorem setSolRetry_success (h : SetSol.retry P channelNum configParamData1 configParamData2 sol =
    (.ok responseSuccess, sol')) :
    ∃ data2, configParamData2 = some data2 ∧ sol.Written sol' (P.getChannelName channelNum)
      [("RetryIntervalMS", .u8 data2), ("RetryCount", .u8 (configParamData1 &&& retryMask))] := by
  unfold SetSol.retry at h
  dsimp only [StM.pure_bind] at h
  split at h
  · rename_i data2
    obtain ⟨sol1, first, h⟩ := setSOLParameter_success h
    obtain ⟨sol2, second, rest⟩ := setSOLParameter_success h
    cases rest
    exact ⟨data2, rfl, first.trans second⟩
  · cases h

theorem getSolProperties_run {first : String} {read : Value → SolM Nat} {second : Option String} {v : Value}
    {n : Nat} {data2 : Option Nat} (found : sol.prop (P.getChannelName channelNum) first = some v)
    (reads : read v sol = (.ok n, sol))
    (found2 : ∀ name ∈ second, ∃ m, sol.prop (P.getChannelName channelNum) name = some (.u8 m) ∧ data2 = some m)
    (none2 : second = none → data2 = none) :
    (GetSol.properties P channelNum first read second sol).1 = .ok (solResponse (some n) data2) := by
  have got : getSOLParameter P first channelNum sol = (.ok (some v), sol) := by
    rw [← found]
    rfl
  unfold GetSol.properties
  rw [StM.bind_ok got]
  cases second with
  | none => rw [none2 rfl]; exact congrArg Prod.fst (StM.bind_ok reads)
  | some name =>
    obtain ⟨m, found', rfl⟩ := found2 name rfl
    have got' : getSOLParameter P name channelNum sol = (.ok (some (.u8 m)), sol) := by
      rw [← found']
      rfl
    show ((getSOLParameter P name channelNum >>= fun value1 => _) sol).1 = _
    rw [StM.bind_ok got']
    exact congrArg Prod.fst (StM.bind_ok reads)

/-- A Get after a successful Set answers what every successful run of the Set case stores. -/
theorem sol_round_trip {ctxChannel chNum paramSelector setSelector blockSelector : Nat} {s : State}
    (set get : SolM Rsp) {answer : Rsp}
    (setCase : ∀ s, P.isValidChannel (P.convertCurrentChannelNum chNum ctxChannel) = true →
      P.isLanChannel (P.convertCurrentChannelNum chNum ctxChannel) = true →
      setSOLConfParams P ctxChannel chNum 0 paramSelector configParamData1 configParamData2 s = onSol set s)
    (getCase : ∀ s, P.isValidChannel (P.convertCurrentChannelNum chNum ctxChannel) = true →
      P.isLanChannel (P.convertCurrentChannelNum chNum ctxChannel) = true →
      getSOLConfParams P ctxChannel chNum 0 false paramSelector setSelector blockSelector s = onSol get s)
    (readBack : ∀ sol', set s.sol = (.ok responseSuccess, sol') → (get sol').1 = .ok answer)
    (h : respond (setSOLConfParams P ctxChannel chNum 0 paramSelector configParamData1 configParamData2 s).1 =
      responseSuccess) :
    respond (getSOLConfParams P ctxChannel chNum 0 false paramSelector setSelector blockSelector
      (setSOLConfParams P ctxChannel chNum 0 paramSelector configParamData1 configParamData2 s).2).1 = answer := by
  obtain ⟨valid, lan⟩ := setSOLConfParams_checks h
  rw [setCase s valid lan] at h ⊢
  rw [getCase _ valid lan]
  exact congrArg respond (readBack _ (Prod.ext (respond_eq_success h) rfl))

theorem enableBit_toNat (n : Nat) : (decide (n &&& enableMask ≠ 0)).toNat = n &&& enableMask := by
  rw [enableMask, Nat.and_one_is_mod]
  rcases Nat.mod_two_eq_zero_or_one n with parity | parity <;> simp [parity]

theorem setSolAuthentication_success (h : SetSol.authentication P channelNum configParamData1 configParamData2 sol =
    (.ok responseSuccess, sol')) :
    userPriv ≤ configParamData1 &&& privilegeMask ∧ configParamData1 &&& privilegeMask ≤ oemPriv ∧
      sol.Written sol' (P.getChannelName channelNum) [("Privilege", .u8 (configParamData1 &&& privilegeMask))] := by
  unfold SetSol.authentication at h
  dsimp only [StM.pure_bind] at h
  split at h
  · cases h
  · split at h
    · cases h
    · rename_i within
      obtain ⟨sol1, written, rest⟩ := setSOLParameter_success h
      cases rest
      exact ⟨by omega, by omega, written⟩

theorem getSolAuthentication_run {privilege : Nat} {forceAuthentication forceEncryption : Bool}
    (stored : sol.prop (P.getChannelName channelNum) "Privilege" = some (.u8 privilege))
    (forced : sol.prop (P.getChannelName channelNum) "ForceAuthentication" = some (.bool forceAuthentication) ∧
      sol.prop (P.getChannelName channelNum) "ForceEncryption" = some (.bool forceEncryption)) :
    (GetSol.authentication P channelNum sol).1 = .ok (solResponse
      (some (privilege &&& 0x0f ||| forceAuthentication.toNat <<< 6 ||| forceEncryption.toNat <<< 7)) none) := by
  have read : ∀ property v, sol.prop (P.getChannelName channelNum) property = some v →
      getSOLParameter P property channelNum sol = (.ok (some v), sol) := fun _ _ found => by
    rw [← found]
    rfl
  unfold GetSol.authentication
  rw [StM.bind_ok (read _ _ stored)]
  show ((do
    let authentication := privilege &&& 0x0f
    let some value ← getSOLParameter P "ForceAuthentication" channelNum | return response ccUnspecifiedError
    let authentication := authentication ||| (← value.getBool).toNat <<< 6
    let some value ← getSOLParameter P "ForceEncryption" channelNum | return response ccUnspecifiedError
    let authentication := authentication ||| (← value.getBool).toNat <<< 7
    return solResponse (some authentication) none : SolM Rsp) sol).1 = _
  rw [StM.bind_ok (read _ _ forced.1)]
  show ((do
    let some value ← getSOLParameter P "ForceEncryption" channelNum | return response ccUnspecifiedError
    return solResponse (some (privilege &&& 0x0f ||| forceAuthentication.toNat <<< 6 ||| (← value.getBool).toNat <<< 7)) none : SolM Rsp) sol).1 = _
  rw [StM.bind_ok (read _ _ forced.2)]
  rfl

theorem privilege_bits (n : Nat) : n &&& privilegeMask &&& 0x0f = n &&& privilegeMask := by
  rw [privilegeMask, Nat.and_assoc, Nat.and_self]

theorem retryCount_bits (n : Nat) : n &&& retryMask &&& retryCountMask = n &&& retryMask := by
  rw [retryCountMask, ← retryMask, Nat.and_assoc, Nat.and_self]

end RoundTrip

/-- Set In Progress, SOL Enable, Character Accumulate and SOL Retry are read back by Get. -/
theorem sol_set_get (P : Platform) (ctxChannel chNum configParamData1 : Nat) (configParamData2 : Option Nat)
    (setSelector blockSelector : Nat) (s : State)
    (sessions : P.sessionless (P.convertCurrentChannelNum chNum ctxChannel) = false) :
    (respond (setSOLConfParams P ctxChannel chNum 0 0 configParamData1 configParamData2 s).1 = responseSuccess →
      respond (getSOLConfParams P ctxChannel chNum 0 false 0 setSelector blockSelector
        (setSOLConfParams P ctxChannel chNum 0 0 configParamData1 configParamData2 s).2).1 =
        solResponse (some (configParamData1 &&& progressMask)) none) ∧
    (respond (setSOLConfParams P ctxChannel chNum 0 1 configParamData1 configParamData2 s).1 = responseSuccess →
      respond (getSOLConfParams P ctxChannel chNum 0 false 1 setSelector blockSelector
        (setSOLConfParams P ctxChannel chNum 0 1 configParamData1 configParamData2 s).2).1 =
        solResponse (some (configParamData1 &&& enableMask)) none) ∧
    (respond (setSOLConfParams P ctxChannel chNum 0 3 configParamData1 configParamData2 s).1 = responseSuccess →
      respond (getSOLConfParams P ctxChannel chNum 0 false 3 setSelector blockSelector
        (setSOLConfParams P ctxChannel chNum 0 3 configParamData1 configParamData2 s).2).1 =
        solResponse (some configParamData1) configParamData2) ∧
    (respond (setSOLConfParams P ctxChannel chNum 0 4 configParamData1 configParamData2 s).1 = responseSuccess →
      respond (getSOLConfParams P ctxChannel chNum 0 false 4 setSelector blockSelector
        (setSOLConfParams P ctxChannel chNum 0 4 configParamData1 configParamData2 s).2).1 =
        solResponse (some (configParamData1 &&& retryMask)) configParamData2) := by
  refine ⟨sol_round_trip (SetSol.progress P (P.convertCurrentChannelNum chNum ctxChannel) configParamData1 configParamData2)
      (GetSol.properties P (P.convertCurrentChannelNum chNum ctxChannel) "Progress" Value.getU8 none) ?_ ?_ ?_,
    sol_round_trip (SetSol.enable P (P.convertCurrentChannelNum chNum ctxChannel) configParamData1 configParamData2)
      (GetSol.properties P (P.convertCurrentChannelNum chNum ctxChannel) "Enable" (fun v => do return (← v.getBool).toNat) none) ?_ ?_ ?_,
    sol_round_trip (SetSol.accumulate P (P.convertCurrentChannelNum chNum ctxChannel) configParamData1 configParamData2)
      (GetSol.properties P (P.convertCurrentChannelNum chNum ctxChannel) "AccumulateIntervalMS" Value.getU8 (some "Threshold")) ?_ ?_ ?_,
    sol_round_trip (SetSol.retry P (P.convertCurrentChannelNum chNum ctxChannel) configParamData1 configParamData2)
      (GetSol.properties P (P.convertCurrentChannelNum chNum ctxChannel) "RetryCount" (fun v => do return (← v.getU8) &&& retryCountMask)
        (some "RetryIntervalMS")) ?_ ?_ ?_⟩
  all_goals try
    intro s valid lan
    dsimp only [setSOLConfParams, getSOLConfParams, StM.pure_bind]
    rw [if_neg (by simp [valid, sessions]), if_neg (by simp [lan])]
    rfl
  · intro sol' ran
    exact getSolProperties_run ((setSolProgress_success ran).prop_self rfl) rfl (fun _ absurd => nomatch absurd)
      fun _ => rfl
  · intro sol' ran
    rw [← enableBit_toNat]
    exact getSolProperties_run ((setSolEnable_success ran).prop_self rfl) rfl (fun _ absurd => nomatch absurd)
      fun _ => rfl
  · intro sol' ran
    obtain ⟨data2, rfl, written⟩ := setSolAccumulate_success ran
    exact getSolProperties_run (written.prop_self rfl) rfl
      (fun _ named => ⟨data2, by cases named; exact written.prop_self rfl, rfl⟩) fun absurd => nomatch absurd
  · intro sol' ran
    obtain ⟨data2, rfl, written⟩ := setSolRetry_success ran
    rw [← retryCount_bits]
    exact getSolProperties_run (written.prop_self rfl) rfl
      (fun _ named => ⟨data2, by cases named; exact written.prop_self rfl, rfl⟩) fun absurd => nomatch absurd

theorem sol_set_get_eth0 :
    solPlatform.sessionless (solPlatform.convertCurrentChannelNum 1 1) = false ∧
      respond (setSOLConfParams solPlatform 1 1 0 4 5 (some 50) solState).1 = responseSuccess ∧
      respond (getSOLConfParams solPlatform 1 1 0 false 4 0 0
        (setSOLConfParams solPlatform 1 1 0 4 5 (some 50) solState).2).1 = solResponse (some 5) (some 50) :=
  have succeeded : respond (setSOLConfParams solPlatform 1 1 0 4 5 (some 50) solState).1 = responseSuccess := rfl
  ⟨rfl, succeeded, (sol_set_get solPlatform 1 1 5 (some 50) 0 0 solState rfl).2.2.2 succeeded⟩

/-- A successful Set SOL Authentication is read back with the two force flags. -/
theorem sol_authentication_set_get (P : Platform) (ctxChannel chNum configParamData1 : Nat)
    (configParamData2 : Option Nat) (setSelector blockSelector : Nat) (s : State)
    (forceAuthentication forceEncryption : Bool)
    (sessions : P.sessionless (P.convertCurrentChannelNum chNum ctxChannel) = false)
    (forced : s.sol.prop (P.getChannelName (P.convertCurrentChannelNum chNum ctxChannel)) "ForceAuthentication" =
        some (.bool forceAuthentication) ∧
      s.sol.prop (P.getChannelName (P.convertCurrentChannelNum chNum ctxChannel)) "ForceEncryption" =
        some (.bool forceEncryption))
    (succeeded : respond (setSOLConfParams P ctxChannel chNum 0 2 configParamData1 configParamData2 s).1 =
      responseSuccess) :
    userPriv ≤ configParamData1 &&& privilegeMask ∧ configParamData1 &&& privilegeMask ≤ oemPriv ∧
      respond (getSOLConfParams P ctxChannel chNum 0 false 2 setSelector blockSelector
        (setSOLConfParams P ctxChannel chNum 0 2 configParamData1 configParamData2 s).2).1 =
        solResponse (some (configParamData1 &&& privilegeMask ||| forceAuthentication.toNat <<< 6 |||
          forceEncryption.toNat <<< 7)) none := by
  have setCase : ∀ s, P.isValidChannel (P.convertCurrentChannelNum chNum ctxChannel) = true →
      P.isLanChannel (P.convertCurrentChannelNum chNum ctxChannel) = true →
      setSOLConfParams P ctxChannel chNum 0 2 configParamData1 configParamData2 s =
        onSol (SetSol.authentication P (P.convertCurrentChannelNum chNum ctxChannel) configParamData1
          configParamData2) s := fun s valid lan => by
    dsimp only [setSOLConfParams, StM.pure_bind]
    rw [if_neg (by simp [valid]), if_neg (by simp [lan])]
    rfl
  obtain ⟨valid, lan⟩ := setSOLConfParams_checks succeeded
  have ran : SetSol.authentication P (P.convertCurrentChannelNum chNum ctxChannel) configParamData1 configParamData2
      s.sol = (.ok responseSuccess, (setSOLConfParams P ctxChannel chNum 0 2 configParamData1 configParamData2 s).2.sol) := by
    rw [setCase s valid lan] at succeeded ⊢
    exact Prod.ext (respond_eq_success succeeded) rfl
  obtain ⟨low, high, -⟩ := setSolAuthentication_success ran
  refine ⟨low, high, sol_round_trip _ (GetSol.authentication P (P.convertCurrentChannelNum chNum ctxChannel))
    setCase (fun s valid lan => by
      dsimp only [getSOLConfParams, StM.pure_bind]
      rw [if_neg (by simp [valid, sessions]), if_neg (by simp [lan])]
      rfl) (fun sol' ran => ?_) succeeded⟩
  obtain ⟨-, -, written⟩ := setSolAuthentication_success ran
  rw [← privilege_bits]
  exact getSolAuthentication_run (written.prop_self rfl)
    ⟨(written.prop_unwritten "ForceAuthentication" rfl).trans forced.1,
      (written.prop_unwritten "ForceEncryption" rfl).trans forced.2⟩

theorem sol_authentication_set_get_eth0 :
    solPlatform.sessionless (solPlatform.convertCurrentChannelNum 1 1) = false ∧
      (solState.sol.prop (solPlatform.getChannelName (solPlatform.convertCurrentChannelNum 1 1))
          "ForceAuthentication" = some (.bool false) ∧
        solState.sol.prop (solPlatform.getChannelName (solPlatform.convertCurrentChannelNum 1 1))
          "ForceEncryption" = some (.bool true)) ∧
      respond (setSOLConfParams solPlatform 1 1 0 2 3 none solState).1 = responseSuccess ∧
      respond (getSOLConfParams solPlatform 1 1 0 false 2 0 0
        (setSOLConfParams solPlatform 1 1 0 2 3 none solState).2).1 = solResponse (some (3 ||| 1 <<< 7)) none :=
  have forced : solState.sol.prop (solPlatform.getChannelName (solPlatform.convertCurrentChannelNum 1 1))
      "ForceAuthentication" = some (.bool false) ∧
    solState.sol.prop (solPlatform.getChannelName (solPlatform.convertCurrentChannelNum 1 1))
      "ForceEncryption" = some (.bool true) := ⟨rfl, rfl⟩
  have succeeded : respond (setSOLConfParams solPlatform 1 1 0 2 3 none solState).1 = responseSuccess := rfl
  ⟨rfl, forced, succeeded, (sol_authentication_set_get solPlatform 1 1 3 none 0 0 solState false true rfl forced
    succeeded).2.2⟩

end Ipmi.Transport
