import TransportHandler.Proofs.Frames

/-!
# The SetStatus latch

Set SetStatus stores Complete or InProgress per channel, and Get reports the last stored
status, or Complete.
-/

namespace Ipmi.Transport

/-! ### The data of Set SetStatus -/

theorem setStatusFields_run (flag : UInt8) (rest : List Bool) :
    (do return (← unpackBits 2, ← unpackBits 6) : Unpack (Nat × Nat)).run (byteBits flag ++ rest) =
      some ((flag.toNat % 4, flag.toNat / 4), rest) := by
  have small : flag.toNat / 4 < 2 ^ 6 := by
    have := flag.toNat_lt_size
    simp only [UInt8.size] at this
    omega
  have layout : byteBits flag ++ rest = natBits 2 flag.toNat ++ (natBits 6 (flag.toNat / 4) ++ rest) := by
    rw [byteBits, ← List.append_assoc, show 4 = 2 ^ 2 from rfl, ← natBits_add]
  rw [layout]
  simp only [StateT.run_bind, unpackBits_natBits, Option.bind_eq_bind, Option.some_bind, StateT.run_pure,
    Nat.mod_eq_of_lt small]
  rfl

theorem setStatusFields (req : List UInt8) :
    unpackExact (do return (← unpackBits 2, ← unpackBits 6)) req =
      match req with
      | [flag] => some (flag.toNat % 4, flag.toNat / 4)
      | _ => none := by
  match req with
  | [] => rfl
  | [flag] =>
    have run := setStatusFields_run flag []
    rw [List.append_nil] at run
    simp only [unpackExact, payloadBits, List.append_nil, run]
  | flag :: b :: more =>
    have run := setStatusFields_run flag (payloadBits (b :: more))
    simp only [unpackExact, payloadBits] at run ⊢
    rw [run]
    simp [byteBits, natBits]

/-- The status a Set SetStatus request asks to store; Commit stores nothing. -/
def requestedStatus : List UInt8 → Option SetStatus
  | [flag] =>
    match SetStatus.ofNat? flag.toNat with
    | some .commit => none
    | status => status
  | _ => none

/-- What `SetLan.setStatus` can do to the channel's entry. -/
theorem setStatus_outcome (c : Nat) (req : List UInt8) (s : State) :
    (∃ r, SetLan.setStatus c req s = (.ok r, s) ∧ r ≠ responseSuccess) ∨
    (∃ r, SetLan.setStatus c req s = (.ok r, { s with setStatus := Function.update s.setStatus c (some .complete) }) ∧
      s.setStatus c = none ∧ r ≠ responseSuccess) ∨
    (∃ st, requestedStatus req = some st ∧
      SetLan.setStatus c req s = (.ok responseSuccess, { s with setStatus := Function.update s.setStatus c (some st) })) ∨
    (requestedStatus req = none ∧ SetLan.setStatus c req s = (.ok responseSuccess, s)) := by
  unfold SetLan.setStatus
  rw [setStatusFields]
  match req with
  | [] => exact .inl ⟨_, rfl, by decide⟩
  | _ :: _ :: _ => exact .inl ⟨_, rfl, by decide⟩
  | [flag] =>
    dsimp only [StM.pure_bind]
    by_cases rsvd : flag.toNat / 4 = 0
    · have small : flag.toNat < 4 := by omega
      rw [if_neg (not_not.mpr rsvd), Nat.mod_eq_of_lt small]
      simp only [requestedStatus]
      generalize flag.toNat = v at small ⊢
      obtain rfl | rfl | rfl | rfl : v = 0 ∨ v = 1 ∨ v = 2 ∨ v = 3 := by omega
      all_goals dsimp only [SetStatus.ofNat?]
      · exact .inr (.inr (.inl ⟨.complete, rfl, rfl⟩))
      · cases current : s.setStatus c with
        | none =>
          refine .inr (.inr (.inl ⟨.inProgress, rfl, ?_⟩))
          simp [getSetStatus, storeSetStatus, current, StM.bind_run]
        | some st =>
          cases st
          · refine .inr (.inr (.inl ⟨.inProgress, rfl, ?_⟩))
            simp [getSetStatus, storeSetStatus, current, StM.bind_run]
          · exact .inl ⟨response ccParamSetLocked, by simp [getSetStatus, current, StM.bind_run], by decide⟩
          · refine .inr (.inr (.inl ⟨.inProgress, rfl, ?_⟩))
            simp [getSetStatus, storeSetStatus, current, StM.bind_run]
      · cases current : s.setStatus c with
        | none =>
          exact .inr (.inl ⟨response ccInvalidFieldRequest, by simp [getSetStatus, current, StM.bind_run], rfl,
            by decide⟩)
        | some st =>
          cases st
          · exact .inl ⟨response ccInvalidFieldRequest, by simp [getSetStatus, current, StM.bind_run], by decide⟩
          · exact .inr (.inr (.inr ⟨rfl, by simp [getSetStatus, current, StM.bind_run]⟩))
          · exact .inl ⟨response ccInvalidFieldRequest, by simp [getSetStatus, current, StM.bind_run], by decide⟩
      · exact .inl ⟨_, rfl, by decide⟩
    · rw [if_pos rsvd]
      exact .inl ⟨_, rfl, by decide⟩

/-! ### One request -/

/-- A LAN configuration request as the IPMI layer passes it to the handlers. -/
inductive LanRequest where
  | set (ctxChannel channelBits reserved parameter : Nat) (req : List UInt8)
  | get (ctxChannel channelBits reserved : Nat) (revOnly : Bool) (parameter set block : Nat)
  deriving DecidableEq

namespace LanRequest

def handle (P : Platform) : LanRequest → M Rsp
  | set ctxChannel channelBits reserved parameter req => setLan P ctxChannel channelBits reserved parameter req
  | get ctxChannel channelBits reserved revOnly parameter selector block =>
    getLan P ctxChannel channelBits reserved revOnly parameter selector block

def setsStatusOn (P : Platform) (channel : Nat) : LanRequest → Bool
  | set ctxChannel channelBits _ parameter _ =>
    parameter == 0 && P.convertCurrentChannelNum channelBits ctxChannel == channel
  | get .. => false

/-- The status a request stored on `channel`, given its response. -/
def statusWrite (P : Platform) (channel : Nat) : LanRequest → Rsp → Option SetStatus
  | set ctxChannel channelBits reserved parameter req, rsp =>
    if reserved = 0 ∧ parameter = 0 ∧ P.convertCurrentChannelNum channelBits ctxChannel = channel ∧
      rsp = responseSuccess then requestedStatus req
    else none
  | get .., _ => none

end LanRequest

/-- The SetStatus Get reports for `channel`: the stored one, Complete when there is none. -/
def reportedStatus (s : State) (channel : Nat) : SetStatus := (s.setStatus channel).getD .complete

variable {P : Platform}

theorem setStatus_other {c c' : Nat} (req : List UInt8) (s : State) (other : c' ≠ c) :
    (SetLan.setStatus c req s).2.setStatus c' = s.setStatus c' := by
  rcases setStatus_outcome c req s with ⟨_, ran, -⟩ | ⟨_, ran, -, -⟩ | ⟨_, -, ran⟩ | ⟨-, ran⟩ <;>
    simp [ran, Function.update_noteq other]

theorem handle_setStatus_other (r : LanRequest) (s : State) (c : Nat) (other : r.setsStatusOn P c = false) :
    (r.handle P s).2.setStatus c = s.setStatus c := by
  cases r with
  | get ctxChannel channelBits reserved revOnly parameter selector block =>
    exact congrFun (congrArg Prod.fst (getLan_visible P ctxChannel channelBits reserved revOnly parameter selector
      block s)) c
  | set ctxChannel channelBits reserved parameter req =>
    show (setLan P ctxChannel channelBits reserved parameter req s).2.setStatus c = s.setStatus c
    by_cases zero : parameter = 0
    · subst zero
      have elsewhere : P.convertCurrentChannelNum channelBits ctxChannel ≠ c := by
        simpa [LanRequest.setsStatusOn] using other
      unfold setLan
      dsimp only [StM.pure_bind]
      split
      · rfl
      · exact setStatus_other req s elsewhere.symm
    · exact congrFun (setLan_setStatus P ctxChannel channelBits reserved parameter req zero s) c

theorem requestedStatus_stores {req : List UInt8} {st : SetStatus} (asked : requestedStatus req = some st) :
    st = .complete ∨ st = .inProgress := by
  match req, asked with
  | [flag], asked =>
    simp only [requestedStatus] at asked
    revert asked
    generalize SetStatus.ofNat? flag.toNat = status
    cases status with
    | none => simp
    | some status => cases status <;> simp <;> rintro rfl <;> simp

theorem setLan_setStatus_request (P : Platform) (ctxChannel channelBits reserved : Nat) (req : List UInt8) :
    setLan P ctxChannel channelBits reserved 0 req =
      if reserved ≠ 0 ∨ !P.isValidChannel (P.convertCurrentChannelNum channelBits ctxChannel) then
        pure (response ccInvalidFieldRequest)
      else SetLan.setStatus (P.convertCurrentChannelNum channelBits ctxChannel) req := by
  unfold setLan
  rfl

theorem setStatus_stores (c : Nat) (req : List UInt8) (s : State) (c' : Nat) :
    (SetLan.setStatus c req s).2.setStatus c' = s.setStatus c' ∨
      (SetLan.setStatus c req s).2.setStatus c' = some .complete ∨
      (SetLan.setStatus c req s).2.setStatus c' = some .inProgress := by
  by_cases here : c' = c
  · subst here
    rcases setStatus_outcome c' req s with ⟨_, ran, -⟩ | ⟨_, ran, -, -⟩ | ⟨st, asked, ran⟩ | ⟨-, ran⟩
    · simp [ran]
    · simp [ran]
    · rcases requestedStatus_stores asked with rfl | rfl <;> simp [ran]
    · simp [ran]
  · exact .inl (setStatus_other req s here)

theorem handle_stores (r : LanRequest) (s : State) (c : Nat) :
    (r.handle P s).2.setStatus c = s.setStatus c ∨ (r.handle P s).2.setStatus c = some .complete ∨
      (r.handle P s).2.setStatus c = some .inProgress := by
  cases setsOn : r.setsStatusOn P c
  · exact .inl (handle_setStatus_other r s c setsOn)
  · cases r with
    | get => cases setsOn
    | set ctxChannel channelBits reserved parameter req =>
      have zero : parameter = 0 := by simp_all [LanRequest.setsStatusOn]
      subst zero
      show (setLan P ctxChannel channelBits reserved 0 req s).2.setStatus c = s.setStatus c ∨
        (setLan P ctxChannel channelBits reserved 0 req s).2.setStatus c = some .complete ∨
        (setLan P ctxChannel channelBits reserved 0 req s).2.setStatus c = some .inProgress
      rw [setLan_setStatus_request]
      split
      · exact .inl rfl
      · exact setStatus_stores _ req s c

theorem handle_reported (r : LanRequest) (s : State) (c : Nat) :
    reportedStatus (r.handle P s).2 c = (r.statusWrite P c (respond (r.handle P s).1)).getD (reportedStatus s c) := by
  by_cases key : ∃ ctxChannel channelBits req, r = .set ctxChannel channelBits 0 0 req ∧
      P.convertCurrentChannelNum channelBits ctxChannel = c
  · obtain ⟨ctxChannel, channelBits, req, rfl, rfl⟩ := key
    show reportedStatus (setLan P ctxChannel channelBits 0 0 req s).2 _ =
      (LanRequest.statusWrite P _ (.set ctxChannel channelBits 0 0 req)
        (respond (setLan P ctxChannel channelBits 0 0 req s).1)).getD _
    rw [setLan_param (show LanParam.ofNat? 0 = some .setStatus from rfl)]
    split
    · show reportedStatus (SetLan.setStatus _ req s).2 _ = (LanRequest.statusWrite P _ _
        (respond (SetLan.setStatus _ req s).1)).getD _
      rcases setStatus_outcome (P.convertCurrentChannelNum channelBits ctxChannel) req s with
        ⟨_, ran, refused⟩ | ⟨_, ran, fresh, refused⟩ | ⟨st, asked, ran⟩ | ⟨nothing, ran⟩
      · simp [ran, LanRequest.statusWrite, refused]
      · simp [ran, LanRequest.statusWrite, refused, reportedStatus, fresh]
      · simp [ran, LanRequest.statusWrite, asked, reportedStatus]
      · simp [ran, LanRequest.statusWrite, nothing]
    · simp [LanRequest.statusWrite, (by decide : response ccInvalidFieldRequest ≠ responseSuccess)]
  · have unwritten : ∀ rsp, r.statusWrite P c rsp = none := by
      intro rsp
      cases r with
      | get => rfl
      | set ctxChannel channelBits reserved parameter req =>
        simp only [LanRequest.statusWrite, ite_eq_right_iff]
        rintro ⟨rfl, rfl, same, -⟩
        exact absurd ⟨ctxChannel, channelBits, req, rfl, same⟩ key
    rw [unwritten, Option.getD_none]
    cases setsOn : r.setsStatusOn P c
    · simp only [reportedStatus, handle_setStatus_other r s c setsOn]
    · cases r with
      | get => cases setsOn
      | set ctxChannel channelBits reserved parameter req =>
        obtain ⟨zero, same⟩ : parameter = 0 ∧ P.convertCurrentChannelNum channelBits ctxChannel = c := by
          simpa [LanRequest.setsStatusOn] using setsOn
        subst zero
        have reservedSet : reserved ≠ 0 := fun clear => key ⟨ctxChannel, channelBits, req, by rw [clear], same⟩
        show reportedStatus (setLan P ctxChannel channelBits reserved 0 req s).2 c = _
        unfold setLan
        rw [if_pos (.inl reservedSet)]
        rfl

/-! ### Set InProgress, Commit, and Get -/

theorem setStatus_inProgress_run (c : Nat) (s : State) :
    SetLan.setStatus c [1] s = if s.setStatus c = some .inProgress then (.ok (response ccParamSetLocked), s)
      else (.ok responseSuccess, { s with setStatus := Function.update s.setStatus c (some .inProgress) }) := by
  unfold SetLan.setStatus
  rw [setStatusFields]
  cases current : s.setStatus c with
  | none => simp [getSetStatus, storeSetStatus, current, StM.bind_run, SetStatus.ofNat?, UInt8.size]
  | some st => cases st <;> simp [getSetStatus, storeSetStatus, current, StM.bind_run, SetStatus.ofNat?, UInt8.size]

theorem setStatus_commit_run (c : Nat) (s : State) :
    SetLan.setStatus c [2] s = if s.setStatus c = some .inProgress then (.ok responseSuccess, s)
      else (.ok (response ccInvalidFieldRequest), (getSetStatus c s).2) := by
  unfold SetLan.setStatus
  rw [setStatusFields]
  cases current : s.setStatus c with
  | none => simp [getSetStatus, current, StM.bind_run, SetStatus.ofNat?, UInt8.size]
  | some st => cases st <;> simp [getSetStatus, current, StM.bind_run, SetStatus.ofNat?, UInt8.size]

theorem reportedStatus_inProgress {s : State} {c : Nat} :
    reportedStatus s c = .inProgress ↔ s.setStatus c = some .inProgress := by
  unfold reportedStatus
  cases s.setStatus c with
  | none => simp
  | some st => simp

theorem getLan_setStatus_report (ctxChannel channelBits set block : Nat) (s : State)
    (valid : P.isValidChannel (P.convertCurrentChannelNum channelBits ctxChannel)) :
    respond (getLan P ctxChannel channelBits 0 false 0 set block s).1 =
      responseSuccess (natBits 8 current_revision ++
        natBits 2 (reportedStatus s (P.convertCurrentChannelNum channelBits ctxChannel)).code ++ natBits 6 0) := by
  rw [getLan_valid (show LanParam.ofNat? 0 = some .setStatus from rfl) valid]
  rfl

/-! ### Runs -/

def runLan (P : Platform) : List LanRequest → State → List Rsp × State
  | [], s => ([], s)
  | r :: rest, s =>
    let step := r.handle P s
    let after := runLan P rest step.2
    (respond step.1 :: after.1, after.2)

/-- The status the last successful Set SetStatus on `channel` stored. -/
def lastStatusWrite (P : Platform) (channel : Nat) : List (LanRequest × Rsp) → Option SetStatus
  | [] => none
  | (r, rsp) :: rest => (lastStatusWrite P channel rest).or (r.statusWrite P channel rsp)

theorem runLan_stores (requests : List LanRequest) (s : State) (c : Nat)
    (stored : ∀ st, s.setStatus c = some st → st = .complete ∨ st = .inProgress) :
    ∀ st, (runLan P requests s).2.setStatus c = some st → st = .complete ∨ st = .inProgress := by
  induction requests generalizing s with
  | nil => exact stored
  | cons r rest ih =>
    refine ih _ fun st after => ?_
    rcases handle_stores r s c with same | written | written
    · exact stored st (same ▸ after)
    · exact .inl (Option.some.inj (written.symm.trans after)).symm
    · exact .inr (Option.some.inj (written.symm.trans after)).symm

theorem runLan_reported (requests : List LanRequest) (s : State) (c : Nat) :
    reportedStatus (runLan P requests s).2 c =
      (lastStatusWrite P c (requests.zip (runLan P requests s).1)).getD (reportedStatus s c) := by
  induction requests generalizing s with
  | nil => rfl
  | cons r rest ih =>
    show reportedStatus (runLan P rest (r.handle P s).2).2 c =
      ((lastStatusWrite P c (rest.zip (runLan P rest (r.handle P s).2).1)).or
        (r.statusWrite P c (respond (r.handle P s).1))).getD (reportedStatus s c)
    rw [ih, handle_reported]
    cases lastStatusWrite P c (rest.zip (runLan P rest (r.handle P s).2).1) <;> rfl

/-! ### The latch -/

/-- The SetStatus map is a per-channel latch, over any requests from the start of the process. -/
theorem setStatus_latch (P : Platform) (net : Net) (sol : SolService) (requests : List LanRequest) (c : Nat) :
    let run := runLan P requests (.init net sol)
    (∀ st, run.2.setStatus c = some st → st = .complete ∨ st = .inProgress) ∧
    (∀ ctxChannel channelBits set block, P.convertCurrentChannelNum channelBits ctxChannel = c →
      P.isValidChannel c →
      respond (getLan P ctxChannel channelBits 0 false 0 set block run.2).1 =
        responseSuccess (natBits 8 current_revision ++
          natBits 2 ((lastStatusWrite P c (requests.zip run.1)).getD .complete).code ++ natBits 6 0)) ∧
    (∀ s ctxChannel channelBits, P.convertCurrentChannelNum channelBits ctxChannel = c → P.isValidChannel c →
      respond (setLan P ctxChannel channelBits 0 0 [1] s).1 =
          (if reportedStatus s c = .inProgress then response ccParamSetLocked else responseSuccess) ∧
        respond (setLan P ctxChannel channelBits 0 0 [2] s).1 =
          (if reportedStatus s c = .inProgress then responseSuccess else response ccInvalidFieldRequest) ∧
        (reportedStatus s c = .inProgress → (setLan P ctxChannel channelBits 0 0 [2] s).2 = s)) ∧
    (∀ (r : LanRequest) (s : State), r.setsStatusOn P c = false → (r.handle P s).2.setStatus c = s.setStatus c) := by
  intro run
  refine ⟨runLan_stores requests _ c (fun _ none => by cases none), ?_, ?_, fun r s => handle_setStatus_other r s c⟩
  · intro ctxChannel channelBits set block named valid
    subst named
    rw [getLan_setStatus_report _ _ _ _ _ valid, runLan_reported]
    rfl
  · intro s ctxChannel channelBits named valid
    subst named
    have checks : ¬(0 ≠ 0 ∨ (!P.isValidChannel (P.convertCurrentChannelNum channelBits ctxChannel)) = true) := by
      simp [valid]
    simp only [setLan_setStatus_request, if_neg checks, setStatus_inProgress_run, setStatus_commit_run,
      reportedStatus_inProgress]
    by_cases locked : s.setStatus (P.convertCurrentChannelNum channelBits ctxChannel) = some .inProgress
    · simp [locked]
    · simp [locked]

/-- After Set SetStatus InProgress on channel 1, Get SetStatus there reports InProgress. -/
theorem setStatus_latch_eth0 :
    let requests := [LanRequest.set 1 1 0 0 [1]]
    let run := runLan quietPlatform requests quietState
    lastStatusWrite quietPlatform 1 (requests.zip run.1) = some .inProgress ∧
      respond (getLan quietPlatform 1 1 0 false 0 0 0 run.2).1 =
        responseSuccess (natBits 8 current_revision ++
          natBits 2 ((lastStatusWrite quietPlatform 1 (requests.zip run.1)).getD .complete).code ++ natBits 6 0) :=
  ⟨by decide, (setStatus_latch quietPlatform quietState.net quietState.sol [.set 1 1 0 0 [1]] 1).2.1 1 1 0 0 rfl rfl⟩

end Ipmi.Transport
