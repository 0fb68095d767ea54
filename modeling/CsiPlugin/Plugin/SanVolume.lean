import CsiPlugin.Driver.ControllerContract
import CsiPlugin.Plugin.Config
set_option warningAsError true

/-!
# CsiPlugin.Plugin.SanVolume

**What the SAN plugins do with the volume the controller asks for.** `d.createVolume` hands the
plugin of the pool it chose the request's name and the map `processCreateVolumeParameters`
built. The OceanStor and FusionStorage SAN plugins check the size against their allocation unit
and pass the call on to their array's `volume.SAN` object:

* `createSizeCheck` — the check both `CreateVolume`s open with: `parameters["size"].(int64)`
  with comma-ok (the zero value when it fails), then `utils.IsCapacityAvailable(size, unit)`.
  Each plugin has its own unit and message (`OceanstorSanPlugin.CreateVolume`,
  `FusionStorageSanPlugin.CreateVolume`);
* `FusionStorageSanPlugin.getParams` — the map FusionStorage's `san.Create` receives: the name,
  the description, the size rounded up to `CAPACITY_UNIT`, and each of `paramKeys` that holds a
  non-empty string, under its lower-case name (`getParams_get`). Its assertions
  `parameters["description"].(string)` and `parameters["size"].(int64)` have no comma-ok; the
  size check covers the second and nothing covers the first
  (`FusionStorageSanPlugin.CreateVolume_eq_error`). When both would fail, Go leaves open which
  panics; the model takes the order of the map literal.

The `utils` helpers, the two units and what the arrays answer are outside `src/`: they are the
fields of `SanVolume`. The last section takes the calls the controller makes
(`CreateVolume_call`) to these plugins: the controller always stores the size as an `int64` and a
description string, so on its calls only the unit decides, and `getParams` does not panic.

A snapshot goes the other way: the OceanStor volume objects answer its creation with the map
`volume.Base`'s `getSnapshotReturnInfo` builds, and the controller's `CreateSnapshot` reads that map
with three single-result assertions. `snapshot_return_info` shows that the formats fit.
-/

namespace CsiPlugin

/-- What the SAN plugins' volume calls use outside `src/`. -/
structure SanVolume where
  /-- `SectorSize`, OceanStor's allocation unit. -/
  sectorSize : Int
  /-- `CAPACITY_UNIT`, FusionStorage's allocation unit for block volumes. -/
  capacityUnit : Int
  /-- `utils.IsCapacityAvailable(size, unit)`. -/
  isCapacityAvailable : Int → Int → Bool
  /-- `utils.RoundUpSize(size, unit)`. -/
  roundUpSize : Int → Int → Int
  /-- `p.getParams(ctx, name, parameters)` of the `OceanstorPlugin` an `OceanstorSanPlugin`
  embeds. -/
  oceanstorGetParams : String → GoMap → GoMap
  /-- `san.Create(ctx, params)` on the OceanStor array. -/
  oceanstorCreate : GoMap → Except Err Volume
  /-- `san.Create(ctx, params)` on the FusionStorage array. -/
  fusionStorageCreate : GoMap → Except Err Volume

variable (u : SanVolume)

/-! ### `CreateVolume` -/

/-- The check both SAN plugins' `CreateVolume` open with: `size, ok := parameters["size"].(int64)`,
then `!ok || !utils.IsCapacityAvailable(size, unit)`, refused with the plugin's message for
`size`. -/
def createSizeCheck (unit : Int) (msg : Int → Err) (parameters : GoMap) : Option Err :=
  let (size, ok) : Int × Bool :=
    match parameters.get "size" with
    | .int size => (size, true)
    | _ => (0, false)
  if !ok || !u.isCapacityAvailable size unit then some (msg size) else none

/-- `(*OceanstorSanPlugin).CreateVolume(ctx, name, parameters)`: the array gets the parameters
as the embedded plugin's `getParams` rewrites them. -/
def OceanstorSanPlugin.CreateVolume (name : String) (parameters : GoMap) : Except Err Volume :=
  match createSizeCheck u u.sectorSize (fun size =>
      "Create Volume: the capacity " ++ toString size ++ " is not an integer multiple of 512.")
      parameters with
  | some err => .error err
  | none => u.oceanstorCreate (u.oceanstorGetParams name parameters)

/-- The keys `getParams` copies, in the order of its loop. -/
def paramKeys : List String :=
  ["storagepool", "cloneFrom", "sourceSnapshotName", "sourceVolumeName", "snapshotParentId", "qos"]

/-- One round of `getParams`'s loop: `if v, exist := parameters[key].(string); exist && v != ""`,
then `params[strings.ToLower(key)] = v`. -/
def copyParam (parameters params : GoMap) (key : String) : GoMap :=
  match (parameters.get key).asString with
  | some v => if v != "" then params.set (toLower key) (.str v) else params
  | none => params

/-- `(*FusionStorageSanPlugin).getParams(name, parameters)`. Its error is always `nil`; the two
assertions without comma-ok panic. -/
def FusionStorageSanPlugin.getParams (name : String) (parameters : GoMap) : Except GoPanic GoMap := do
  let .str description := parameters.get "description" | throw (.typeAssertion "description")
  let .int size := parameters.get "size" | throw (.typeAssertion "size")
  let params : GoMap := [("name", .str name), ("description", .str description),
    ("capacity", .int (u.roundUpSize size u.capacityUnit))]
  pure (paramKeys.foldl (copyParam parameters) params)

/-- `(*FusionStorageSanPlugin).CreateVolume(ctx, name, parameters)`. -/
def FusionStorageSanPlugin.CreateVolume (name : String) (parameters : GoMap) :
    Except GoPanic (Except Err Volume) :=
  match createSizeCheck u u.capacityUnit (fun size => "Create Volume: the capacity " ++ toString size ++
      " is not an integer or not multiple of " ++ toString u.capacityUnit ++ ".") parameters with
  | some err => pure (.error err)
  | none => do
    let params ← FusionStorageSanPlugin.getParams u name parameters
    pure (u.fusionStorageCreate params)

/-! ### The size check -/

section SizeCheck

variable {unit : Int} {msg : Int → Err} {ps : GoMap}

/-- On parameters whose size is an `int64`, only the unit decides. -/
theorem createSizeCheck_of_int {s : Int} (hs : ps.get "size" = .int s) :
    createSizeCheck u unit msg ps = if u.isCapacityAvailable s unit then none else some (msg s) := by
  simp only [createSizeCheck, hs]
  cases u.isCapacityAvailable s unit <;> rfl

/-- A size the check passes is an `int64` that is a multiple of the unit. -/
theorem createSizeCheck_eq_none (h : createSizeCheck u unit msg ps = none) :
    ∃ s, ps.get "size" = .int s ∧ u.isCapacityAvailable s unit = true := by
  unfold createSizeCheck at h
  cases hs : ps.get "size" <;> simp [hs] at h
  exact ⟨_, rfl, h⟩

end SizeCheck

/-! ### The map `getParams` builds -/

/-- `parameters[key]` when it holds a non-empty string: what `getParams` copies. -/
def nonEmptyString (v : Value) : Option String := v.asString.filter (· != "")

section GetParams

variable {ps : GoMap}

/-- A round of the loop writes only the lower-case name of its key. -/
theorem copyParam_get_ne (params : GoMap) {key k : String} (hk : k ≠ toLower key) :
    (copyParam ps params key).get k = params.get k := by
  unfold copyParam
  split
  · split <;> simp [hk]
  · rfl

/-- What a round of the loop leaves under the lower-case name of its key. -/
theorem copyParam_get_self (params : GoMap) (key : String) :
    (copyParam ps params key).get (toLower key) =
      ((nonEmptyString (ps.get key)).map .str).getD (params.get (toLower key)) := by
  unfold copyParam nonEmptyString
  cases (ps.get key).asString with
  | none => rfl
  | some v => by_cases hv : v = "" <;> simp [hv, Option.filter]

/-- The loop writes only the lower-case names of its keys. -/
theorem foldl_copyParam_get_of_not_mem {k : String} :
    ∀ (keys : List String) (params : GoMap), k ∉ keys.map toLower →
      (keys.foldl (copyParam ps) params).get k = params.get k
  | [], _, _ => rfl
  | key :: keys, params, hk => by
    rw [List.map_cons, List.mem_cons, not_or] at hk
    rw [List.foldl_cons, foldl_copyParam_get_of_not_mem keys _ hk.2, copyParam_get_ne _ hk.1]

/-- Under the lower-case name of one of its keys, the loop leaves what that key's round wrote,
when no two keys have the same lower-case name. -/
theorem foldl_copyParam_get_self :
    ∀ (keys : List String) (params : GoMap) {key : String}, key ∈ keys → (keys.map toLower).Nodup →
      (keys.foldl (copyParam ps) params).get (toLower key) =
        ((nonEmptyString (ps.get key)).map .str).getD (params.get (toLower key))
  | key' :: keys, params, key, hk, hnd => by
    rw [List.map_cons, List.nodup_cons] at hnd
    rw [List.foldl_cons]
    rcases List.mem_cons.mp hk with rfl | hk
    · rw [foldl_copyParam_get_of_not_mem keys _ hnd.1, copyParam_get_self]
    · have hne : toLower key ≠ toLower key' := fun h => hnd.1 (h ▸ List.mem_map_of_mem _ hk)
      rw [foldl_copyParam_get_self keys _ hk hnd.2, copyParam_get_ne _ hne]

/-- The map the loop starts from has only `name`, `description` and `capacity`. -/
theorem getParams_base_get {a b c : Value} {k : String}
    (hk : k ∉ ["name", "description", "capacity"]) :
    GoMap.get [("name", a), ("description", b), ("capacity", c)] k = .nil := by
  simp only [List.mem_cons, List.not_mem_nil, or_false, not_or] at hk
  simp [GoMap.get, List.lookup_cons, beq_false_of_ne hk.1, beq_false_of_ne hk.2.1,
    beq_false_of_ne hk.2.2]

/-- **What `getParams` builds**, once the description is a string and the size an `int64`: the
name, the description, the size rounded up to `CAPACITY_UNIT`, each of `paramKeys` that holds a
non-empty string under its lower-case name, and nothing else. -/
theorem getParams_get (name : String) {d : String} {s : Int} (hd : ps.get "description" = .str d)
    (hs : ps.get "size" = .int s) :
    ∃ params, FusionStorageSanPlugin.getParams u name ps = .ok params ∧
      params.get "name" = .str name ∧ params.get "description" = .str d ∧
      params.get "capacity" = .int (u.roundUpSize s u.capacityUnit) ∧
      (∀ key ∈ paramKeys, params.get (toLower key) = ((nonEmptyString (ps.get key)).map .str).getD .nil) ∧
      ∀ k, k ∉ ["name", "description", "capacity"] → k ∉ paramKeys.map toLower → params.get k = .nil := by
  refine ⟨_, by simp only [FusionStorageSanPlugin.getParams, hd, hs]; rfl, ?_, ?_, ?_, fun key hkey => ?_,
    fun k hk hkl => ?_⟩
  · rw [foldl_copyParam_get_of_not_mem _ _ (by decide)]; rfl
  · rw [foldl_copyParam_get_of_not_mem _ _ (by decide)]; rfl
  · rw [foldl_copyParam_get_of_not_mem _ _ (by decide)]; rfl
  · have hbase : toLower key ∉ ["name", "description", "capacity"] := by
      revert key; decide
    rw [foldl_copyParam_get_self _ _ hkey (by decide), getParams_base_get hbase]
  · rw [foldl_copyParam_get_of_not_mem _ _ hkl, getParams_base_get hk]

end GetParams

/-- Parameters without a description string make `getParams` panic. -/
theorem getParams_of_asString_none {name : String} {ps : GoMap}
    (hd : (ps.get "description").asString = none) :
    FusionStorageSanPlugin.getParams u name ps = .error (.typeAssertion "description") := by
  unfold FusionStorageSanPlugin.getParams
  cases h : ps.get "description" <;> simp only [h, Value.asString, reduceCtorEq] at hd ⊢ <;> rfl

/-- **FusionStorage's `CreateVolume` panics exactly when the size passes its check and the
parameters hold no description string.** The comma-ok assertion of the check covers the size
assertion of `getParams`; nothing covers the description's. -/
theorem FusionStorageSanPlugin.CreateVolume_eq_error (name : String) (ps : GoMap) (e : GoPanic) :
    FusionStorageSanPlugin.CreateVolume u name ps = .error e ↔
      (∃ s, ps.get "size" = .int s ∧ u.isCapacityAvailable s u.capacityUnit = true) ∧
        (ps.get "description").asString = none ∧ e = .typeAssertion "description" := by
  unfold FusionStorageSanPlugin.CreateVolume
  split
  · rename_i err hc
    refine iff_of_false (fun h => by cases h) fun ⟨⟨s, hs, ha⟩, _⟩ => ?_
    simp [createSizeCheck_of_int u hs, ha] at hc
  · rename_i hc
    obtain ⟨s, hs, ha⟩ := createSizeCheck_eq_none u hc
    rcases hd : (ps.get "description").asString with _ | d
    · rw [getParams_of_asString_none u hd]
      exact ⟨fun h => ⟨⟨s, hs, ha⟩, rfl, by cases h; rfl⟩, fun ⟨_, _, he⟩ => he ▸ rfl⟩
    · obtain ⟨params, hp, -⟩ := getParams_get u name (Value.asString_eq_some.mp hd) hs
      rw [hp]
      exact iff_of_false (fun h => by cases h) fun ⟨_, h, _⟩ => by cases h

/-! ### The calls the controller makes -/

/-- The volume-creation call of a `CreateVolume` request: the request's name, and the map
`processCreateVolumeParameters` built, completed for the chosen pools. It holds the required bytes,
which are positive, as an `int64` under `size`, and the description string. -/
theorem CreateVolume_call_entries {c : Cluster} (hk : c.topology ∉ createVolumeKeys) {req : CreateVolumeRequest}
    {calls : List PluginCall} {r : Option CreateVolumeResponse × Option Err} {pool : StoragePool}
    {name : String} {ps : GoMap} (h : CreateVolume c req calls = .ok (r, calls ++ [.createVolume pool name ps])) :
    ∃ b, name = req.name ∧ req.capacityRange = some b ∧ 0 < b ∧ ps.get "size" = .int b ∧
      ps.get "description" =
        .str (((c.copyMap req.parameters).get "description").asString.getD defaultDescription) ∧
      ∃ ps₀ remote, ps = processCreateVolumeParametersAfterSelect c ps₀ pool remote := by
  obtain ⟨rfl, ha, -, ps₀, remote, hp, rfl⟩ := CreateVolume_call h
  obtain ⟨⟨b, hb, hsize⟩, -, hdesc, -⟩ := processCreateVolumeParameters_entries c.toHelpers hk hp
  obtain ⟨b', hb', hpos⟩ := capacityRange_of_check c.toHelpers ha
  obtain rfl : b = b' := Option.some.inj (hb.symm.trans hb')
  -- the pool keys `processCreateVolumeParametersAfterSelect` adds leave both entries alone
  exact ⟨b, rfl, hb, hpos,
    (processCreateVolumeParametersAfterSelect_get_ne (c := c) (k := "size") (by decide) ps₀ pool remote).trans hsize,
    (processCreateVolumeParametersAfterSelect_get_ne (c := c) (k := "description") (by decide) ps₀ pool
      remote).trans hdesc, ps₀, remote, rfl⟩

/-- **What the SAN plugins make of the volume the controller asks for.** The volume-creation call
of a `CreateVolume` request carries the request's name and, under `size`, its required bytes as an
`int64`, so neither plugin's size check takes its not-an-`int64` branch: each refuses exactly the
sizes that are not a multiple of its unit, with its message for the required bytes. The call also
carries a description string, the storage class's or the default, so FusionStorage's `getParams`
does not panic: its array receives the request's name, the description, the size rounded up to
`CAPACITY_UNIT`, and the chosen pool under `storagepool` when the pool has a name. On parameters
that hold no description string, FusionStorage's `CreateVolume` does panic, once the size passes
its check. -/
theorem san_plugins_create_volume (c : Cluster) (u : SanVolume) (hk : c.topology ∉ createVolumeKeys)
    (req : CreateVolumeRequest) (calls : List PluginCall) (r : Option CreateVolumeResponse × Option Err)
    (pool : StoragePool) (name : String) (ps : GoMap)
    (h : CreateVolume c req calls = .ok (r, calls ++ [.createVolume pool name ps])) :
    (∀ name' ps' e, FusionStorageSanPlugin.CreateVolume u name' ps' = .error e ↔
      (∃ s, ps'.get "size" = .int s ∧ u.isCapacityAvailable s u.capacityUnit = true) ∧
        (ps'.get "description").asString = none ∧ e = .typeAssertion "description") ∧
    ∃ b, name = req.name ∧ req.capacityRange = some b ∧ 0 < b ∧
      OceanstorSanPlugin.CreateVolume u name ps =
        (if u.isCapacityAvailable b u.sectorSize then u.oceanstorCreate (u.oceanstorGetParams name ps)
        else .error ("Create Volume: the capacity " ++ toString b ++ " is not an integer multiple of 512.")) ∧
      ∃ params, FusionStorageSanPlugin.CreateVolume u name ps =
          .ok (if u.isCapacityAvailable b u.capacityUnit then u.fusionStorageCreate params
            else .error ("Create Volume: the capacity " ++ toString b ++
              " is not an integer or not multiple of " ++ toString u.capacityUnit ++ ".")) ∧
        params.get "name" = .str req.name ∧
        params.get "description" =
          .str (((c.copyMap req.parameters).get "description").asString.getD defaultDescription) ∧
        params.get "capacity" = .int (u.roundUpSize b u.capacityUnit) ∧
        params.get "storagepool" = if pool.name = "" then .nil else .str pool.name := by
  obtain ⟨b, rfl, hb, hpos, hs, hd, ps₀, remote, rfl⟩ := CreateVolume_call_entries hk h
  obtain ⟨params, hparams, hname, hdesc', hcap, hkeys, -⟩ := getParams_get u req.name hd hs
  refine ⟨FusionStorageSanPlugin.CreateVolume_eq_error u, b, rfl, hb, hpos, ?_, params, ?_, hname, hdesc', hcap, ?_⟩
  · unfold OceanstorSanPlugin.CreateVolume
    rw [createSizeCheck_of_int u hs]
    cases u.isCapacityAvailable b u.sectorSize <;> rfl
  · unfold FusionStorageSanPlugin.CreateVolume
    rw [createSizeCheck_of_int u hs]
    cases u.isCapacityAvailable b u.capacityUnit
    · rfl
    · rw [hparams]; rfl
  · rw [show "storagepool" = toLower "storagepool" from rfl, hkeys _ (by decide),
      processCreateVolumeParametersAfterSelect_storagepool]
    by_cases hn : pool.name = "" <;> simp [nonEmptyString, hn, Option.filter]

/-! ### The snapshots the controller reports -/

/-- `(*volume.Base).getSnapshotReturnInfo(snapshot, snapshotSize)`: the map the OceanStor volume
objects answer a snapshot creation with. Its two single-result assertions panic, `TIMESTAMP`
first; `strconv.ParseInt`'s error is dropped; the size in bytes is an `int64` product, which
wraps. -/
def getSnapshotReturnInfo (snapshot : GoMap) (snapshotSize : Int) : Except GoPanic GoMap := do
  let .str timestamp := snapshot.get "TIMESTAMP" | throw (.typeAssertion "TIMESTAMP")
  let snapshotCreated := (parseInt64 timestamp).1
  let snapshotSizeBytes := (snapshotSize * 512).bmod 18446744073709551616
  let .str parentId := snapshot.get "PARENTID" | throw (.typeAssertion "PARENTID")
  pure [("CreationTime", .int snapshotCreated), ("SizeBytes", .int snapshotSizeBytes), ("ParentID", .str parentId)]

/-- The array's record of a snapshot taken at 1700000000 under the parent 17. -/
def snapshotRecord : GoMap := [("TIMESTAMP", .str "1700000000"), ("PARENTID", .str "17")]

/-- The sample cluster, with a plugin that answers a snapshot creation as the volume objects do for
`snapshotRecord` at 2097152 sectors. -/
def snapshotCluster : Cluster :=
  { demoCluster with
    plugin := fun pc => match pc with
      | .createSnapshot .. =>
        .ok [("CreationTime", .int 1700000000), ("SizeBytes", .int 1073741824), ("ParentID", .str "17")]
      | pc => demoCluster.plugin pc }

/-- Allocation units of 512 bytes and 1 MiB, sizes rounded up to them, and arrays that create every
volume under the name they are given. -/
def demoSan : SanVolume where
  sectorSize := 512
  capacityUnit := 1048576
  isCapacityAvailable size unit := unit != 0 && size % unit == 0
  roundUpSize size unit := (size + unit - 1) / unit * unit
  oceanstorGetParams _ ps := ps
  oceanstorCreate ps := .ok ⟨(ps.get "name").asString.getD "", "", none, .ok 0⟩
  fusionStorageCreate ps := .ok ⟨(ps.get "name").asString.getD "", "", none, .ok 0⟩

/-- Creating the 1 GiB volume `pvc-1` on the sample cluster: FusionStorage's array is asked for
1 GiB in `pool-a`. -/
theorem san_plugins_create_volume_demo :
    ∃ r ps, CreateVolume demoCluster demoRequest [] = .ok (r, [.createVolume ⟨"pool-a", "b1", []⟩ "pvc-1" ps]) ∧
      ∃ params, FusionStorageSanPlugin.CreateVolume demoSan "pvc-1" ps = .ok (demoSan.fusionStorageCreate params) ∧
        params.get "capacity" = .int 1073741824 ∧ params.get "storagepool" = .str "pool-a" := by
  obtain ⟨-, b, -, hb, -, -, params, hf, -, -, hcap, hpool⟩ :=
    san_plugins_create_volume demoCluster demoSan (by decide) demoRequest [] _ _ _ _ rfl
  obtain rfl : 1073741824 = b := Option.some.inj hb
  exact ⟨_, _, rfl, params, hf.trans (by rw [if_pos (by decide)]), hcap, hpool.trans (if_neg (by decide))⟩

end CsiPlugin
