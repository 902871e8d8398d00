import TransportHandler.Proofs.Writers

/-!
# What a channel's requests can reach

Resolution and `deconfigureChannel` select objects by a substring search for the interface
name, so `eth1`'s channel reaches `eth10`.
-/

namespace Ipmi.Transport

variable {α β : Type} {name : String} {n n' n1 : Net}

/-! ### Resolution -/

theorem resolveChannel_found {P : Platform} {channel : Nat} {objs : List Obj} {params : ChannelParams}
    (h : resolveChannel P channel objs = some params) :
    params.id = channel ∧ params.ifname = P.getChannelName channel ∧ pathFind params.ifPath.str params.ifname ∧
      (params.logicalPath = params.ifPath ∨
        ∃ o ∈ objs, o.path = params.logicalPath ∧ pathFind o.path.str params.ifname ∧ o.data matches .vlan ..) := by
  unfold resolveChannel channelParamsOf at h
  split at h
  · cases h
  · have first := foldl_scanStep_fst (P.getChannelName channel) (objs.filter (·.data.isInterface)) (none, none)
    have second := foldl_scanStep_snd (P.getChannelName channel) (objs.filter (·.data.isInterface)) (none, none)
    split at h
    · cases h
    · rename_i ifPath logicalPath found
      cases h
      rw [found] at first second
      obtain ⟨eth, foundEth, rfl⟩ := Option.map_eq_some'.mp first.symm
      have ethFound := List.find?_some foundEth
      simp only [Bool.and_eq_true] at ethFound
      refine ⟨rfl, rfl, ethFound.1, ?_⟩
      cases logicalPath with
      | none => exact .inl rfl
      | some vlanPath =>
        obtain ⟨vlan, foundVlan, rfl⟩ := Option.map_eq_some'.mp second.symm
        have vlanFound := List.find?_some foundVlan
        simp only [Bool.and_eq_true] at vlanFound
        exact .inr ⟨vlan, (List.mem_filter.mp (List.mem_of_find?_eq_some foundVlan)).1, rfl, vlanFound⟩

theorem resolveChannel_paths {P : Platform} {channel : Nat} {objs : List Obj} {params : ChannelParams}
    (h : resolveChannel P channel objs = some params) :
    params.id = channel ∧ params.ifname = P.getChannelName channel ∧
      pathFind params.ifPath.str params.ifname ∧ pathFind params.logicalPath.str params.ifname := by
  obtain ⟨id, name, physical, logical⟩ := resolveChannel_found h
  refine ⟨id, name, physical, ?_⟩
  rcases logical with same | ⟨o, -, here, contains, -⟩
  · rwa [same]
  · rwa [← here]

/-! ### Objects outside the name -/

/-- The objects of the service whose paths do not contain `name`, in the service's order. -/
def Net.outside (n : Net) (name : String) : List Obj := n.objs.filter fun o => !pathFind o.path.str name

/-- `n'` holds exactly the objects of `n` outside `name`, unchanged and in order. -/
def KeepsOutside (name : String) (n n' : Net) : Prop := n'.outside name = n.outside name

theorem KeepsOutside.refl (n : Net) : KeepsOutside name n n := rfl

theorem KeepsOutside.trans (first : KeepsOutside name n n1) (second : KeepsOutside name n1 n') :
    KeepsOutside name n n' := Eq.trans second first

theorem keepsOutside_removeWhere {drop : Obj → Bool} (inside : ∀ o ∈ n.objs, drop o → pathFind o.path.str name) :
    KeepsOutside name n (n.removeWhere drop) := by
  unfold KeepsOutside Net.outside
  rw [Net.removeWhere_objs, List.filter_filter]
  refine List.filter_congr fun o present => ?_
  cases dropped : drop o
  · simp
  · simp [inside o present dropped]

theorem keepsOutside_updateAt {path : ObjPath} {change : ObjData → ObjData}
    (keeps : ∀ d, (change d).isInterface = d.isInterface) (contains : pathFind path.str name) :
    KeepsOutside name n (n.updateAt path change keeps) := by
  have samePath : ∀ o : Obj, (if o.path = path then { o with data := change o.data } else o).path = o.path :=
    fun o => by split <;> rfl
  have sameTest : ((fun o : Obj => !pathFind o.path.str name) ∘
      fun o => if o.path = path then { o with data := change o.data } else o) = fun o => !pathFind o.path.str name :=
    funext fun o => by simp only [Function.comp, samePath]
  unfold KeepsOutside Net.outside Net.updateAt
  rw [List.filter_map, sameTest]
  refine (List.map_congr_left fun o listed => ?_).trans (List.map_id _)
  have elsewhere : o.path ≠ path := fun same => by
    have kept := (List.mem_filter.mp listed).2
    rw [same, contains] at kept
    exact Bool.noConfusion kept
  simp [elsewhere]

theorem keepsOutside_of_append {added : List Obj} (objs : n'.objs = n.objs ++ added)
    (inside : ∀ o ∈ added, pathFind o.path.str name) : KeepsOutside name n n' := by
  have none : added.filter (fun o => !pathFind o.path.str name) = [] :=
    List.filter_eq_nil_iff.mpr fun o listed => by simp [inside o listed]
  unfold KeepsOutside Net.outside
  rw [objs, List.filter_append, none, List.append_nil]

/-- Every outcome of `m` keeps the objects whose paths do not contain `name`. -/
def Outside (name : String) (m : NetM α) : Prop := ∀ n, KeepsOutside name n (m n).2

theorem Outside.of_readOnly {m : NetM α} (reads : ReadOnly m) : Outside name m := fun n => by
  rw [reads n]
  exact KeepsOutside.refl n

theorem Outside.bind {m : NetM α} {k : α → NetM β} (post : α → Prop)
    (first : Outside name m) (returns : ∀ n a n', m n = (.ok a, n') → post a)
    (rest : ∀ a, post a → Outside name (k a)) : Outside name (m >>= k) := by
  intro n
  rw [StM.bind_run]
  split
  · rename_i a n1 ran
    have kept := first n
    rw [ran] at kept
    exact kept.trans (rest a (returns n a n1 ran) n1)
  · rename_i e n1 ran
    have kept := first n
    rwa [ran] at kept

theorem infix_of_under {o p : ObjPath} (h : o.under p) : p.str.data <:+: o.str.data := by
  cases p with
  | iface root =>
    cases o with
    | iface x =>
      simp only [ObjPath.under, beq_iff_eq] at h
      rw [h]
    | child parent kind id =>
      simp only [ObjPath.under, beq_iff_eq] at h
      subst h
      exact ⟨[], ("/" ++ kind.str ++ "/" ++ toString id).data, by simp [ObjPath.str]⟩
  | child parent kind id =>
    simp only [ObjPath.under_child, beq_iff_eq] at h
    rw [h]

theorem pathFind_of_under {o p : ObjPath} (under : o.under p) (contains : pathFind p.str name) :
    pathFind o.str name := by
  simp only [pathFind, decide_eq_true_eq] at contains ⊢
  exact contains.trans (infix_of_under under)

theorem deleteObjectIfExists_state (path : ObjPath) (n : Net) :
    (deleteObjectIfExists path n).2 = n ∨
      (deleteObjectIfExists path n).2 = n.removeWhere (·.path.under path) := by
  rw [deleteObjectIfExists, StM.tryCatch_run]
  unfold writeNet
  cases deleted : n.delete path with
  | ok n' => exact .inr (by simp only [deleted, (Net.delete_eq_ok.mp deleted).2.2])
  | error e =>
    left
    simp only [deleted]
    cases e <;> rfl

theorem deleteObjectIfExists_outside {path : ObjPath} (contains : pathFind path.str name) :
    Outside name (deleteObjectIfExists path) := by
  intro n
  rcases deleteObjectIfExists_state path n with same | removed
  · rw [same]
    exact KeepsOutside.refl n
  · rw [removed]
    exact keepsOutside_removeWhere fun _ _ under => pathFind_of_under under contains

theorem setDHCP_outside {path : ObjPath} {d : DHCPConf} (contains : pathFind path.str name) :
    Outside name (writeNet (·.setDHCP path d)) := by
  intro n
  unfold writeNet
  dsimp only
  cases written : n.setDHCP path d with
  | error => exact KeepsOutside.refl n
  | ok n' =>
    obtain ⟨-, -, rfl⟩ := Net.setDHCP_eq_ok.mp written
    exact keepsOutside_updateAt (ObjData.setDHCP_isInterface d) contains

/-! ### `deconfigureChannel` -/

/-- What `deconfigureObjects` may return: the logical path collapsed to the physical one. -/
def Collapsed (params params' : ChannelParams) : Prop :=
  params'.ifname = params.ifname ∧ params'.ifPath = params.ifPath ∧
    (params'.logicalPath = params.logicalPath ∨ params'.logicalPath = params.ifPath)

theorem deconfigureObjects_collapsed (objs : List Obj) :
    ∀ params n params' n', deconfigureObjects params objs n = (.ok params', n') → Collapsed params params' := by
  induction objs with
  | nil =>
    intro params n params' n' h
    cases h
    exact ⟨rfl, rfl, .inl rfl⟩
  | cons o rest ih =>
    intro params n params' n' h
    unfold deconfigureObjects at h
    split at h
    · obtain ⟨_, n1, -, later⟩ := StM.bind_eq_ok h
      obtain ⟨same, path, logical⟩ := ih _ _ _ _ later
      by_cases collapse : o.path = params.logicalPath
      · simp only [collapse, if_true] at same path logical
        exact ⟨same, path, .inr (logical.elim id id)⟩
      · simp only [collapse, if_false] at same path logical
        exact ⟨same, path, logical⟩
    · exact ih _ _ _ _ h

theorem deconfigureObjects_outside (objs : List Obj) :
    ∀ params, (∀ o ∈ objs, pathFind o.path.str params.ifname → pathFind o.path.str name) →
      Outside name (deconfigureObjects params objs) := by
  induction objs with
  | nil => exact fun _ _ => Outside.of_readOnly (ReadOnly.pure _)
  | cons o rest ih =>
    intro params named
    unfold deconfigureObjects
    split
    · rename_i contains
      refine Outside.bind (fun _ => True) (deleteObjectIfExists_outside (named o (.head _) contains))
        (fun _ _ _ _ => trivial) fun _ _ => ih _ fun o' later => ?_
      split <;> exact named o' (.tail _ later)
    · exact ih params fun o' later => named o' (.tail _ later)

theorem deconfigureChannel_outside {params : ChannelParams}
    (physical : pathFind params.ifPath.str params.ifname)
    (logical : pathFind params.logicalPath.str params.ifname) :
    Outside params.ifname (deconfigureChannel params) := by
  unfold deconfigureChannel
  refine Outside.bind (fun _ => True) (Outside.of_readOnly (ReadOnly.readNet _)) (fun _ _ _ _ => trivial)
    fun objs _ => Outside.bind (Collapsed params) (deconfigureObjects_outside objs params fun _ _ => id)
      (fun _ _ _ => deconfigureObjects_collapsed objs params _ _ _) fun params' collapsed => ?_
  obtain ⟨-, -, collapsedPath⟩ := collapsed
  have contains : pathFind params'.logicalPath.str params.ifname := by
    rcases collapsedPath with same | same <;> rw [same] <;> assumption
  exact Outside.bind (fun _ => True)
    (Outside.bind (fun _ => True) (Outside.of_readOnly (ReadOnly.readNet _)) (fun _ _ _ _ => trivial)
      fun _ _ => setDHCP_outside contains) (fun _ _ _ _ => trivial) fun _ _ => Outside.of_readOnly (ReadOnly.pure _)

/-! ### Two interfaces whose names overlap -/

/-- Channels 1 and 2 on `eth1` and `eth10`, and VLAN 5 on `eth10`. -/
def overlapPlatform : Platform := .ofNames [(1, "eth1"), (2, "eth10")] 15 15

def overlapState : State :=
  .init (.ofObjs [⟨.iface "eth1", .ethernet .none (Mathlib.Vector.replicate 6 2)⟩,
      ⟨.iface "eth10", .ethernet .none (Mathlib.Vector.replicate 6 4)⟩, ⟨.iface "eth10_5", .vlan 5 .none⟩]
    none none [] (by decide) (by decide)) ⟨[], none⟩

/-- Bug: channel 1 (`eth1`) resolves to `eth10_5`, and disabling its VLAN deletes `eth10_5`. -/
theorem eth1_channel_reaches_eth10 :
    resolveChannel overlapPlatform 1 overlapState.net.objs =
        some ⟨1, "eth1", .iface "eth1", .iface "eth10_5"⟩ ∧
      respond (getLan overlapPlatform 2 2 0 false 20 0 0 overlapState).1 =
        responseSuccess (natBits 8 current_revision ++ natBits 16 0x8005) ∧
      respond (setLan overlapPlatform 1 1 0 20 [0, 0] overlapState).1 = responseSuccess ∧
      (setLan overlapPlatform 1 1 0 20 [0, 0] overlapState).2.net.find? (.iface "eth10_5") = none ∧
      respond (getLan overlapPlatform 2 2 0 false 20 0 0 (setLan overlapPlatform 1 1 0 20 [0, 0] overlapState).2).1 =
        responseSuccess (natBits 8 current_revision ++ natBits 16 0) := by
  decide

end Ipmi.Transport
