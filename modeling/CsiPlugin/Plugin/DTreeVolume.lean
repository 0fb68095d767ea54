import CsiPlugin.Plugin.SanVolume
set_option warningAsError true

/-!
# CsiPlugin.Plugin.DTreeVolume

**The `oceanstor-dtree` plugin behind the controller.** An `OceanstorDTreePlugin` keeps the volumes
of its backend as dtrees of one parent file system, `p.parentName`, which its `Init` reads from the
backend's `parentname`. It creates, deletes and expands dtrees. Querying a volume, deleting or
expanding a plain volume, and both snapshot calls answer `not implement`.

The controller sends a deletion or an expansion on a backend whose `storage` is
`plugin.DTreeStorage` to `DeleteDTreeVolume` or `ExpandDTreeVolume`, with the backend's
`parentname` and the volume's name. `ServesDTree` says that a cluster runs a backend on such a
plugin; under it the controller's replies are those of the two layers together:

* `dtree_create_volume` — a volume created there is a dtree under `p.parentName`, whatever
  `parentname` the storage class gave, and the reply says so;
* `dtree_delete_expand` — deleting and expanding address the dtree under the same parent, one
  because the plugin replaces the controller's `parentname` by its own, the other because `Init`
  read it from the backend parameters the controller passes on; an expansion never asks for a
  node-side expansion, and a size the array cannot take comes back as `Internal`.

The last section models the plugin's capability report (`UpdateBackendCapabilities` with
`updateNFS4Capability`).

The `volume.DTree` object of the embedded plugin's client, and that plugin's `vStoreId`, are not
under `src/`: they are the fields of `DTreeArray`. The embedded plugin's `getParams` is
`SanVolume.oceanstorGetParams`, as for the OceanStor SAN plugin.
-/

namespace CsiPlugin

/-- What the dtree plugin's volume calls read outside `src/`. -/
structure DTreeArray where
  /-- `p.vStoreId` of the embedded `OceanstorPlugin`. -/
  vStoreId : String
  /-- `p.getDTreeObj().Create(ctx, params)`. -/
  create : GoMap → Except Err Volume
  /-- `p.getDTreeObj().Delete(ctx, params)`. -/
  delete : GoMap → Option Err
  /-- `dTree.Expand(ctx, parentName, dTreeName, vStoreId, 0, spaceHardQuota)`. -/
  expand : String → String → String → Int → Int → Option Err

/-- The backend a call goes to: a volume is created on the backend of the chosen pool. -/
def PluginCall.backend : PluginCall → String
  | .createVolume pool .. => pool.parent
  | .queryVolume b .. | .deleteVolume b .. | .deleteDTreeVolume b .. | .expandVolume b ..
  | .expandDTreeVolume b .. | .attachVolume b .. | .detachVolume b .. | .createSnapshot b ..
  | .deleteSnapshot b .. => b

namespace OceanstorDTreePlugin

variable (u : SanVolume) (a : DTreeArray) (col : Collab)

/-- The message of both size checks, the expansion's included. -/
def capacityMsg (size : Int) : Err :=
  "Create Volume: the capacity " ++ toString size ++ " is not an integer multiple of 512."

/-- `(*OceanstorDTreePlugin).CreateVolume(ctx, name, parameters)`, on a plugin and a map that are
not nil. -/
def CreateVolume (p : OceanstorDTreePlugin) (name : String) (parameters : GoMap) : Except Err Volume :=
  match createSizeCheck u u.sectorSize capacityMsg parameters with
  | some err => .error err
  | none =>
    let parameters := (parameters.set "vstoreId" (.str a.vStoreId)).set "parentname" (.str p.parentName)
    match a.create (u.oceanstorGetParams name parameters) with
    | .error err => .error err
    | .ok volObj => .ok { volObj with dTreeParentName := p.parentName }

/-- `(*OceanstorDTreePlugin).DeleteDTreeVolume(ctx, params)`, on a plugin and a map that are not
nil. -/
def DeleteDTreeVolume (p : OceanstorDTreePlugin) (params : GoMap) : Except Err Unit :=
  match a.delete ((params.set "vstoreid" (.str a.vStoreId)).set "parentname" (.str p.parentName)) with
  | some err => .error err
  | none => .ok ()

/-- `(*OceanstorDTreePlugin).ExpandDTreeVolume(ctx, params)`. -/
def ExpandDTreeVolume (params : GoMap) : Except Err Bool :=
  let dTreeName := (col.toStringWithFlag (params.get "name")).1
  match params.get "spacehardquota" with
  | .int spaceHardQuota =>
    if !u.isCapacityAvailable spaceHardQuota u.sectorSize then .error (capacityMsg spaceHardQuota)
    else
      let parentName := (col.toStringWithFlag (params.get "parentname")).1
      match a.expand parentName dTreeName a.vStoreId 0 spaceHardQuota with
      | some err => .error err
      | none => .ok false
  | _ => .error "spacehardquota not found"

/-- The error of the methods the plugin does not implement. -/
def notImplement : Err := "not implement"

/-- `QueryVolume`: its text starts with a blank. -/
def QueryVolume : Except Err Volume := .error " not implement"

def DeleteVolume : Except Err Unit := .error notImplement

def ExpandVolume : Except Err Bool := .error notImplement

def CreateSnapshot : Except Err GoMap := .error notImplement

def DeleteSnapshot : Except Err Unit := .error notImplement

/-- The plugin's answer to a call on its backend. Attaching and detaching are the embedded
`OceanstorPlugin`'s, which is not under `src/`. -/
def answer (p : OceanstorDTreePlugin) : (pc : PluginCall) → Option (Except Err pc.Answer)
  | .createVolume _ name parameters => some (p.CreateVolume u a name parameters)
  | .queryVolume .. => some QueryVolume
  | .deleteVolume .. => some DeleteVolume
  | .deleteDTreeVolume _ params => some (p.DeleteDTreeVolume a params)
  | .expandVolume .. => some ExpandVolume
  | .expandDTreeVolume _ params => some (ExpandDTreeVolume u a col params)
  | .attachVolume .. | .detachVolume .. => none
  | .createSnapshot .. => some CreateSnapshot
  | .deleteSnapshot .. => some DeleteSnapshot

/-- The parent `Init` keeps is the backend's `parentname`. -/
theorem Init_parentName {p₀ p : OceanstorDTreePlugin} {config parameters : GoMap} {keepLogin : Bool}
    (h : p₀.Init col config parameters keepLogin = .ok p) :
    p.parentName = (col.toStringWithFlag (parameters.get "parentname")).1 := by
  unfold Init at h
  dsimp only at h
  split_ifs at h
  split at h
  · split at h
    · cases h
    · cases h; rfl
  · cases h

end OceanstorDTreePlugin

open OceanstorDTreePlugin

variable (u : SanVolume) (a : DTreeArray) (col : Collab)

/-- The cluster runs backend `name`, found as `bk`, on the dtree plugin `p`: `bk` is an
`oceanstor-dtree` backend (`DTreeStorage`, the storage type the controller tests for), `p` is
what `Init` made of `bk`'s parameters, and the backend's plugin answers every call on it but
attaching and detaching as `p` does. -/
structure ServesDTree (c : Cluster) (name : String) (bk : Backend) (p : OceanstorDTreePlugin) : Prop where
  backend : c.getBackendWithFresh name = some bk
  storage : bk.storage = DTreeStorage
  init : ∃ (p₀ : OceanstorDTreePlugin) (config : GoMap) (keepLogin : Bool),
    p₀.Init col config bk.parameters keepLogin = .ok p
  answers : ∀ pc r, pc.backend = name → p.answer u a col pc = some r → c.plugin pc = r

section Served

variable {u a col} {c : Cluster} {name : String} {bk : Backend} {p : OceanstorDTreePlugin}

theorem ServesDTree.parentName (hs : ServesDTree u a col c name bk p) :
    p.parentName = (col.toStringWithFlag (bk.parameters.get "parentname")).1 := by
  obtain ⟨p₀, config, keepLogin, h⟩ := hs.init
  exact Init_parentName col h

/-! ### Deleting and expanding a volume -/

/-- **Deleting and expanding a dtree address the dtree the creation made.** Take a volume ID that
`utils.SplitVolumeId` splits into the backend and a volume name. `DeleteVolume` calls the
plugin's `DeleteDTreeVolume`, never its unimplemented `DeleteVolume`. The array deletes the dtree
of that name under the plugin's parent, which replaces the `parentname` the controller sent, and
its error comes back as `Internal`. `ControllerExpandVolume` on a valid request calls
`ExpandDTreeVolume`, never `ExpandVolume`. The array expands the dtree of that name to the
required bytes under the backend's `parentname`, which is the plugin's parent. A size that is not
a multiple of `SectorSize` comes back as `Internal` with the creation's message, and a success
never asks for a node-side expansion. -/
theorem dtree_delete_expand (hs : ServesDTree u a col c name bk p) (vol : String) (calls : List PluginCall) :
    (∀ req : DeleteVolumeRequest, c.splitVolumeId req.volumeId = (name, vol) →
      DeleteVolume c req calls = .ok
        ((match a.delete [("parentname", .str p.parentName), ("vstoreid", .str a.vStoreId),
            ("parentname", bk.parameters.get "parentname"), ("name", .str vol)] with
          | some err => (none, some (statusError "Internal" err))
          | none => (some (), none)),
        calls ++ [.deleteDTreeVolume name [("parentname", bk.parameters.get "parentname"), ("name", .str vol)]])) ∧
    ∀ (req : ControllerExpandVolumeRequest) (cr : CapacityRange), c.splitVolumeId req.volumeId = (name, vol) →
      req.volumeId ≠ "" → req.capacityRange = some cr → ¬(0 < cr.limitBytes ∧ cr.limitBytes < cr.requiredBytes) →
      ControllerExpandVolume c req calls = .ok
        ((if u.isCapacityAvailable cr.requiredBytes u.sectorSize then
            match a.expand p.parentName (col.toStringWithFlag (.str vol)).1 a.vStoreId 0 cr.requiredBytes with
            | some err => (none, some (statusError "Internal" err))
            | none => (some ⟨cr.requiredBytes, false⟩, none)
          else (none, some (statusError "Internal" (capacityMsg cr.requiredBytes)))),
        calls ++ [.expandDTreeVolume name [("name", .str vol), ("parentname", bk.parameters.get "parentname"),
          ("spacehardquota", .int cr.requiredBytes)]]) := by
  refine ⟨fun req hv => ?_, fun req cr hv hid hcr hlim => ?_⟩
  · have hpl := hs.answers (.deleteDTreeVolume name [("parentname", bk.parameters.get "parentname"),
      ("name", .str vol)]) _ rfl rfl
    unfold CsiPlugin.DeleteVolume
    rw [hv]
    simp only [hs.backend, hs.storage, if_true, ControllerM.bind_apply, Cluster.call_apply, hpl,
      DeleteDTreeVolume, GoMap.set]
    cases a.delete _ <;> rfl
  · have hpl := hs.answers (.expandDTreeVolume name [("name", .str vol),
      ("parentname", bk.parameters.get "parentname"), ("spacehardquota", .int cr.requiredBytes)]) _ rfl rfl
    have hsup : isSupportExpandVolume req bk = (true, none) := by
      simp [isSupportExpandVolume, hs.storage, DTreeStorage]
    -- what the plugin reads of the controller's map
    have hget : ∀ x y z : Value, GoMap.get [("name", x), ("parentname", y), ("spacehardquota", z)] "name" = x ∧
        GoMap.get [("name", x), ("parentname", y), ("spacehardquota", z)] "parentname" = y ∧
        GoMap.get [("name", x), ("parentname", y), ("spacehardquota", z)] "spacehardquota" = z :=
      fun _ _ _ => ⟨rfl, rfl, rfl⟩
    unfold CsiPlugin.ControllerExpandVolume
    rw [hv]
    simp only [hid, hcr, hlim, hs.backend, hsup, hs.storage, if_true, if_false,
      ControllerM.bind_apply, Cluster.call_apply, hpl, ExpandDTreeVolume, hget, ← hs.parentName]
    cases u.isCapacityAvailable cr.requiredBytes u.sectorSize
    · rfl
    · cases a.expand _ _ _ _ _ <;> rfl

/-! ### Creating a volume -/

/-- **A volume created on a dtree backend is a dtree under the plugin's parent.** The creation
call of a `CreateVolume` request that chose a pool of the backend carries the request's name and
its required bytes, a positive `int64`. The plugin refuses a size that is not a multiple of
`SectorSize`, which the controller reports as `Internal`. Otherwise the array creates the dtree
from the map with the plugin's vStore and, under `parentname`, the plugin's parent, in place of
any `parentname` of the storage class. The reply then names that parent as the volume's
`dTreeParentName`. -/
theorem dtree_create_volume (hs : ServesDTree u a col c name bk p) (hk : c.topology ∉ createVolumeKeys)
    (req : CreateVolumeRequest) (calls : List PluginCall) (r : Option CreateVolumeResponse × Option Err)
    (pool : StoragePool) (n : String) (ps : GoMap) (hpool : pool.parent = name)
    (h : CreateVolume c req calls = .ok (r, calls ++ [.createVolume pool n ps])) :
    ∃ b, n = req.name ∧ req.capacityRange = some b ∧ 0 < b ∧
      r = (if u.isCapacityAvailable b u.sectorSize then
          match a.create (u.oceanstorGetParams req.name
              ((ps.set "vstoreId" (.str a.vStoreId)).set "parentname" (.str p.parentName))) with
          | .error err => (none, some (statusError "Internal" err))
          | .ok vol =>
            (some ⟨some (makeCreateVolumeResponse req { vol with dTreeParentName := p.parentName } pool)⟩, none)
        else (none, some (statusError "Internal" (capacityMsg b)))) ∧
      ∀ v, r.1 = some ⟨some v⟩ → v.volumeContext.lookup "dTreeParentName" = some p.parentName := by
  obtain ⟨b, rfl, hb, hpos, hsize, -, -⟩ := CreateVolume_call_entries hk h
  have hr := (CreateVolume_call h).2.2.1
  rw [hs.answers (.createVolume pool req.name ps) _ hpool rfl] at hr
  unfold OceanstorDTreePlugin.CreateVolume at hr
  rw [createSizeCheck_of_int u hsize] at hr
  dsimp only at hr
  refine ⟨b, rfl, hb, hpos, ?_, fun v => ?_⟩ <;> rw [hr] <;> cases u.isCapacityAvailable b u.sectorSize
  · rfl
  · cases a.create _ <;> rfl
  · simp
  · cases a.create _
    · simp
    · simp only [↓reduceIte, Option.some.injEq, CreateVolumeResponse.mk.injEq]
      rintro rfl
      exact makeCreateVolumeResponse_dTreeParentName _ _ _

end Served

/-! ### The capability report -/

namespace OceanstorDTreePlugin

/-- `p.updateNFS4Capability(capabilities)`, with what `p.cli.GetNFSServiceSetting` returned: a
`map[string]bool`, which reads `false` for a missing key. The map it writes into is the caller's,
which is not nil here. -/
def updateNFS4Capability (nfsServiceSetting : Except Err (String → Bool)) (capabilities : GoMap) :
    GoMap × Option Err :=
  match nfsServiceSetting with
  | .error err => (capabilities, some err)
  | .ok setting =>
    let capabilities := ((capabilities.set "SupportNFS3" (.bool true)).set "SupportNFS4" (.bool false)).set
      "SupportNFS41" (.bool false)
    let capabilities := if !setting "SupportNFS3" then capabilities.set "SupportNFS3" (.bool false) else capabilities
    let capabilities := if setting "SupportNFS4" then capabilities.set "SupportNFS4" (.bool true) else capabilities
    let capabilities := if setting "SupportNFS41" then capabilities.set "SupportNFS41" (.bool true) else capabilities
    (capabilities, none)

/-- `(*OceanstorDTreePlugin).UpdateBackendCapabilities()`, given what the embedded plugin's query
returned (`base`, with `none` for a nil capability map) and the array's NFS service setting.
`supportLabel` is `string(constants.SupportLabel)`; writing it into a nil map panics. -/
def UpdateBackendCapabilities (supportLabel : String) (base : Except Err (Option GoMap × GoMap))
    (nfsServiceSetting : Except Err (String → Bool)) : Except GoPanic (Option GoMap × Option GoMap × Option Err) :=
  match base with
  | .error err => pure (none, none, some err)
  | .ok (none, _) => throw (.nilMapWrite supportLabel)
  | .ok (some capabilities, specifications) =>
    match updateNFS4Capability nfsServiceSetting (capabilities.set supportLabel (.bool false)) with
    | (_, some err) => pure (none, none, some err)
    | (capabilities, none) => pure (some capabilities, some specifications, none)

end OceanstorDTreePlugin

/-! ### A sample dtree backend -/

/-- `utils.ToStringWithFlag` on strings, and an embedded plugin whose login succeeds. -/
def demoCollab : Collab :=
  ⟨fun _ => "", fun _ => true, fun _ => .ok [], fun v => (v.asString.getD "", v.asString.isSome),
    fun _ _ => .ok "DoradoV6", fun _ => none, fun _ => none, fun _ => none⟩

/-- The backend `d1`: dtrees of the file system `fs1`, in the pool `fs-pool`. -/
def demoDTreeBackend : Backend :=
  ⟨"oceanstor-dtree", [("parentname", .str "fs1"), ("protocol", .str "nfs"), ("portals", .list [.str "10.0.0.1"])],
    [⟨"fs-pool", "d1", []⟩]⟩

/-- What `Init` makes of `demoDTreeBackend`'s parameters. -/
def demoDTree : OceanstorDTreePlugin := ⟨"10.0.0.1", "fs1"⟩

/-- An array that creates, deletes and expands every dtree it is asked for. -/
def demoDTreeArray : DTreeArray :=
  ⟨"0", fun _ => .ok ⟨"pvc-1", "", none, .ok 1073741824⟩, fun _ => none, fun _ _ _ _ _ => none⟩

/-- The sample cluster with `d1` added, its volumes created in `fs-pool`. -/
def dtreeCluster : Cluster :=
  { demoCluster with
    getBackendWithFresh := fun b => if b = "d1" then some demoDTreeBackend else demoCluster.getBackendWithFresh b
    selectStoragePool := fun _ _ => .ok (⟨"fs-pool", "d1", []⟩, none)
    plugin := fun pc => if pc.backend = "d1" then
      (demoDTree.answer demoSan demoDTreeArray demoCollab pc).getD (demoCluster.plugin pc) else demoCluster.plugin pc }

theorem dtreeCluster_serves :
    ServesDTree demoSan demoDTreeArray demoCollab dtreeCluster "d1" demoDTreeBackend demoDTree where
  backend := rfl
  storage := rfl
  init := ⟨.NewPlugin, [], true, rfl⟩
  answers pc r hb ha := by simp [dtreeCluster, hb, ha]

/-- Creating `pvc-1` on `d1`: the reply names `fs1` as the volume's parent dtree. -/
theorem dtree_create_volume_demo :
    ∃ r ps, CreateVolume dtreeCluster demoRequest [] = .ok (r, [.createVolume ⟨"fs-pool", "d1", []⟩ "pvc-1" ps]) ∧
      (∃ v, r.1 = some ⟨some v⟩) ∧
      ∀ v, r.1 = some ⟨some v⟩ → v.volumeContext.lookup "dTreeParentName" = some "fs1" :=
  ⟨_, _, rfl, ⟨_, rfl⟩,
    (dtree_create_volume dtreeCluster_serves (by decide) demoRequest [] _ _ _ _ rfl rfl).elim
      fun _ h => h.2.2.2.2⟩

/-- Deleting and doubling `d1.pvc-1`: both go to the dtree `pvc-1` of `fs1`. -/
theorem dtree_delete_expand_demo :
    DeleteVolume dtreeCluster ⟨"d1.pvc-1"⟩ [] =
        .ok ((some (), none), [.deleteDTreeVolume "d1" [("parentname", .str "fs1"), ("name", .str "pvc-1")]]) ∧
      ControllerExpandVolume dtreeCluster ⟨"d1.pvc-1", some ⟨2147483648, 0⟩, none⟩ [] =
        .ok ((some ⟨2147483648, false⟩, none), [.expandDTreeVolume "d1" [("name", .str "pvc-1"),
          ("parentname", .str "fs1"), ("spacehardquota", .int 2147483648)]]) :=
  ⟨((dtree_delete_expand dtreeCluster_serves "pvc-1" []).1 ⟨"d1.pvc-1"⟩ rfl).trans rfl,
    ((dtree_delete_expand dtreeCluster_serves "pvc-1" []).2 ⟨"d1.pvc-1", some ⟨2147483648, 0⟩, none⟩ _ rfl
      (by decide) rfl (by decide)).trans rfl⟩

end CsiPlugin
