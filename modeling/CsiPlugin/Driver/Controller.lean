import CsiPlugin.Driver.CreateVolume
import CsiPlugin.Plugin.Basic
set_option warningAsError true

/-!
# CsiPlugin.Driver.Controller

**The controller service of `csi/driver/controller.go`.** Each gRPC method checks its request,
splits the volume or snapshot ID into a backend name and the name on the array, looks the
backend up, and makes at most one call into the backend's plugin; a plugin error comes back as
an `Internal` status. `CreateVolume` runs `checkCreateVolumeRequest` and then either imports an
existing volume (`manageVolume`, when the PVC carries both manage annotations) or creates one
(`createVolume`, through `backend.SelectStoragePool`); the responses are built by
`makeCreateVolumeResponse` and `getVolumeResponse` of `controller_helper.go`.

Design points:

* The methods run in `ControllerM`, a state monad over the list of plugin calls made so far
  that can panic (`GoPanic`): a nil pointer read, an index out of range, a failed single-result
  type assertion, an `Error()` call on a nil error, a write into a nil map.
* The backend registry, the Kubernetes client, `json`, `backend.SelectStoragePool` and the
  plugins are not under src/: their answers are fields of `Cluster`, as the request sees them.
  A plugin call is a `PluginCall` value, and `Cluster.plugin` answers each call at the type its
  Go method returns (`PluginCall.Answer`), so a call and its answer cannot be mixed up.
* A method returns the pair `(response, error)` Go returns; `none` is `nil`. The responses are
  the fields the controller fills in.
* `CreateVolume`'s `defer utils.RecoverPanic(ctx)` is outside src/; a panic is kept as the
  outcome.
-/

namespace CsiPlugin

/-! ### The backends -/

/-- A `backend.StoragePool`, by what the controller reads of it. -/
structure StoragePool where
  name : String
  /-- `pool.Parent`: the name of the backend the pool belongs to. -/
  parent : String
  /-- `pool.GetSupportedTopologies(ctx)`. -/
  supportedTopologies : List (List (String × String))
  deriving Repr, DecidableEq

/-- A `backend.Backend`, by the fields the controller reads. -/
structure Backend where
  storage : String
  parameters : GoMap
  pools : List StoragePool
  deriving Repr

/-- A `utils.Volume`, by the methods the controller calls on it. -/
structure Volume where
  volumeName : String
  dTreeParentName : String
  /-- `vol.GetLunWWN()`; `none` is its error. -/
  lunWWN : Option String
  /-- `vol.GetSize()`. -/
  size : Except Err Int

/-- A call of a backend's plugin, with its arguments. A backend is named by the key it was
looked up under; `createVolume` goes to the plugin of the pool `backend.SelectStoragePool`
chose. -/
inductive PluginCall where
  | createVolume (pool : StoragePool) (name : String) (parameters : GoMap)
  | queryVolume (backend name : String) (parameters : GoMap)
  | deleteVolume (backend name : String)
  | deleteDTreeVolume (backend : String) (parameters : GoMap)
  | expandVolume (backend name : String) (size : Int)
  | expandDTreeVolume (backend : String) (parameters : GoMap)
  | attachVolume (backend name : String) (parameters : GoMap)
  | detachVolume (backend name : String) (parameters : GoMap)
  | createSnapshot (backend volName snapshotName : String)
  | deleteSnapshot (backend snapshotParentId snapshotName : String)
  deriving Repr

/-- What a plugin method returns besides its error. -/
def PluginCall.Answer : PluginCall → Type
  | .createVolume .. | .queryVolume .. => Volume
  | .expandVolume .. | .expandDTreeVolume .. => Bool
  | .attachVolume .. | .createSnapshot .. => GoMap
  | .deleteVolume .. | .deleteDTreeVolume .. | .detachVolume .. | .deleteSnapshot .. => Unit

/-- What the controller calls outside the repository, as one request sees it. -/
structure Cluster extends Helpers where
  /-- `app.GetGlobalConfig().DriverName`. -/
  driverName : String
  /-- `app.GetGlobalConfig().K8sUtils.GetVolumeConfiguration(ctx, name)`: the PVC's annotations. -/
  getVolumeConfiguration : String → Except Err (List (String × String))
  /-- `backend.GetBackendWithFresh(ctx, name, true)`. -/
  getBackendWithFresh : String → Option Backend
  /-- `backend.SelectStoragePool(ctx, requiredBytes, parameters)`: the local and remote pool. -/
  selectStoragePool : Int → GoMap → Except Err (StoragePool × Option StoragePool)
  /-- `backend.GetMetroDomain`, `backend.GetMetrovStorePairID` and `backend.GetAccountName` of a
  backend name. -/
  getMetroDomain : String → String
  getMetrovStorePairID : String → String
  getAccountName : String → String
  /-- `backend.ValidateBackend(ctx, b, parameters)`. -/
  validateBackend : Backend → GoMap → Option Err
  /-- `json.Unmarshal` of a node ID into a `map[string]interface{}`. -/
  unmarshal : String → Except Err GoMap
  /-- `json.Marshal` of a mapping. -/
  marshal : GoMap → Except Err String
  /-- The plugins' answers. -/
  plugin : (pc : PluginCall) → Except Err pc.Answer

/-! ### The monad -/

/-- A Go runtime panic in the controller. -/
inductive GoPanic where
  /-- A field read through a nil pointer. -/
  | nilDeref (field : String)
  /-- `s[i]` with `i ≥ len(s)`. -/
  | indexOutOfRange (index length : Nat)
  /-- A single-result type assertion `m[key].(T)` that failed. -/
  | typeAssertion (key : String)
  /-- `err.Error()` on a nil `error`. -/
  | nilError
  /-- `m[key] = v` on a nil map. -/
  | nilMapWrite (key : String)
  deriving Repr, DecidableEq

/-- The controller's computations: the plugin calls made so far, and panics. -/
abbrev ControllerM := StateT (List PluginCall) (Except GoPanic)

/-- Call a plugin: the call is recorded, and the plugin answers. -/
def Cluster.call (c : Cluster) (pc : PluginCall) : ControllerM (Except Err pc.Answer) :=
  fun calls => .ok (c.plugin pc, calls ++ [pc])

/-- A panic of `processCreateVolumeParameters` is a panic of the controller. -/
def liftNilDeref {α : Type} : Except NilDeref α → ControllerM α
  | .ok a => pure a
  | .error e => throw (.nilDeref e.field)

/-- `p.Field` for a pointer `p`. -/
def deref {α : Type} (p : Option α) (field : String) : ControllerM α :=
  match p with
  | some a => pure a
  | none => throw (.nilDeref field)

/-- `s[i]`. -/
def index {α : Type} (s : List α) (i : Nat) : ControllerM α :=
  match s[i]? with
  | some a => pure a
  | none => throw (.indexOutOfRange i s.length)

/-- `m[key].(int64)`. -/
def assertInt64 (m : GoMap) (key : String) : ControllerM Int :=
  match m.get key with
  | .int n => pure n
  | _ => throw (.typeAssertion key)

/-- `m[key].(string)`. -/
def assertStr (m : GoMap) (key : String) : ControllerM String :=
  match m.get key with
  | .str s => pure s
  | _ => throw (.typeAssertion key)

/-- A map the controller writes into: a nil map panics at the first write, of `key`. -/
def nonNilMap (m : Option GoMap) (key : String) : ControllerM GoMap :=
  match m with
  | some m => pure m
  | none => throw (.nilMapWrite key)

/-! ### Running the monad

One lemma per primitive, so that a method evaluates by `simp` on a given list of calls. -/

namespace ControllerM

@[simp] theorem bind_apply {α β : Type} (x : ControllerM α) (f : α → ControllerM β)
    (calls : List PluginCall) :
    (x >>= f) calls = match x calls with
      | .ok (a, calls') => f a calls'
      | .error e => .error e := by
  change StateT.bind x f calls = _
  unfold StateT.bind
  cases x calls <;> rfl

@[simp] theorem map_apply {α β : Type} (g : α → β) (x : ControllerM α) (calls : List PluginCall) :
    (g <$> x) calls = match x calls with
      | .ok (a, calls') => .ok (g a, calls')
      | .error e => .error e := by
  change StateT.map g x calls = _
  unfold StateT.map
  cases x calls <;> rfl

@[simp] theorem pure_apply {α : Type} (a : α) (calls : List PluginCall) :
    (pure a : ControllerM α) calls = .ok (a, calls) := rfl

@[simp] theorem throw_apply {α : Type} (e : GoPanic) (calls : List PluginCall) :
    (throw e : ControllerM α) calls = .error e := rfl

end ControllerM

@[simp] theorem Cluster.call_apply (c : Cluster) (pc : PluginCall) (calls : List PluginCall) :
    c.call pc calls = .ok (c.plugin pc, calls ++ [pc]) := rfl

@[simp] theorem liftNilDeref_ok {α : Type} (a : α) : liftNilDeref (.ok a : Except NilDeref α) = pure a :=
  rfl

@[simp] theorem deref_some {α : Type} (a : α) (field : String) : deref (some a) field = pure a := rfl

@[simp] theorem nonNilMap_some (m : GoMap) (key : String) : nonNilMap (some m) key = pure m := rfl

/-! ### Requests and responses -/

/-- A `csi.CapacityRange`. -/
structure CapacityRange where
  requiredBytes : Int
  limitBytes : Int
  deriving Repr, DecidableEq

structure DeleteVolumeRequest where
  volumeId : String
  deriving Repr, DecidableEq

structure ControllerExpandVolumeRequest where
  volumeId : String
  capacityRange : Option CapacityRange
  volumeCapability : Option VolumeCapability
  deriving Repr, DecidableEq

structure ControllerPublishVolumeRequest where
  volumeId : String
  nodeId : String
  deriving Repr, DecidableEq

structure ControllerUnpublishVolumeRequest where
  volumeId : String
  nodeId : String
  deriving Repr, DecidableEq

structure CreateSnapshotRequest where
  sourceVolumeId : String
  name : String
  deriving Repr, DecidableEq

structure DeleteSnapshotRequest where
  snapshotId : String
  deriving Repr, DecidableEq

/-- A `csi.Volume`. -/
structure CsiVolume where
  volumeId : String
  capacityBytes : Int
  volumeContext : List (String × String)
  accessibleTopology : List (List (String × String))
  contentSource : Option ContentSource
  deriving Repr, DecidableEq

/-- A `csi.CreateVolumeResponse`; `&csi.CreateVolumeResponse{}` has no volume. -/
structure CreateVolumeResponse where
  volume : Option CsiVolume
  deriving Repr, DecidableEq

structure ControllerExpandVolumeResponse where
  capacityBytes : Int
  nodeExpansionRequired : Bool
  deriving Repr, DecidableEq

structure ControllerPublishVolumeResponse where
  publishContext : List (String × String)
  deriving Repr, DecidableEq

/-- A `csi.Snapshot`. -/
structure CsiSnapshot where
  sizeBytes : Int
  snapshotId : String
  sourceVolumeId : String
  creationTime : Int
  readyToUse : Bool
  deriving Repr, DecidableEq

structure CreateSnapshotResponse where
  snapshot : CsiSnapshot
  deriving Repr, DecidableEq

/-- A `csi.ControllerServiceCapability_RPC_Type`. -/
inductive ControllerRpc where
  | createDeleteVolume
  | publishUnpublishVolume
  | expandVolume
  | createDeleteSnapshot
  | cloneVolume
  deriving Repr, DecidableEq

/-! ### `controller_helper.go`: building the CreateVolume response -/

/-- `annManageVolumeName`. -/
def annManageVolumeName : String := "/manageVolumeName"

/-- `annManageBackendName`. -/
def annManageBackendName : String := "/manageBackendName"

/-- `isSupportExpandVolume(ctx, req, b)`. -/
def isSupportExpandVolume (req : ControllerExpandVolumeRequest) (b : Backend) : Bool × Option Err :=
  if b.storage = "fusionstorage-nas" ∨ b.storage = "oceanstor-nas" ∨ b.storage = "oceanstor-dtree" then
    (true, none)
  else
    match req.volumeCapability with
    | none => (false, some "Expand volume failed, req.GetVolumeCapability() is empty.")
    | some volumeCapability =>
      if volumeCapability.accessMode = .multiNodeMultiWriter ∧ !volumeCapability.isBlock then
        (false, some ("The PVC " ++ req.volumeId ++ " is a \"lun\" type, volumeMode is \"Filesystem\", " ++
          "accessModes is \"ReadWriteMany\", can not support expand volume."))
      else if volumeCapability.accessMode = .multiNodeReaderOnly then
        (false, some ("The PVC " ++ req.volumeId ++ " accessModes is \"ReadOnlyMany\", no need to expand volume."))
      else (true, none)

/-- `processCreateVolumeParametersAfterSelect(parameters, localPool, remotePool)`. -/
def processCreateVolumeParametersAfterSelect (c : Cluster) (parameters : GoMap) (localPool : StoragePool)
    (remotePool : Option StoragePool) : GoMap :=
  let parameters := parameters.set "storagepool" (.str localPool.name)
  let parameters :=
    match remotePool with
    | none => parameters
    | some remotePool =>
      ((parameters.set "metroDomain" (.str (c.getMetroDomain remotePool.parent))).set "vStorePairID"
        (.str (c.getMetrovStorePairID remotePool.parent))).set "remoteStoragePool" (.str remotePool.name)
  parameters.set "accountName" (.str (c.getAccountName localPool.parent))

/-- `getAccessibleTopologies(ctx, req, pool)`: the loop copies each supported segment map into a
`csi.Topology`. -/
def getAccessibleTopologies (req : CreateVolumeRequest) (pool : StoragePool) :
    List (List (String × String)) :=
  match req.accessibilityRequirements with
  | some t => if t.requisite.length ≠ 0 then pool.supportedTopologies else []
  | none => []

/-- `getAttributes(req, vol, backendName)`; a missing `fsPermission` reads as `""`. -/
def getAttributes (req : CreateVolumeRequest) (vol : Volume) (backendName : String) :
    List (String × String) :=
  let attributes := [("backend", backendName), ("name", vol.volumeName),
    ("fsPermission", (req.parameters.lookup "fsPermission").getD ""),
    ("dTreeParentName", vol.dTreeParentName)]
  match vol.lunWWN with
  | some lunWWN => attributes ++ [("lunWWN", lunWWN)]
  | none => attributes

/-- `getVolumeResponse(accessibleTopologies, attributes, volumeId, size)`. -/
def getVolumeResponse (accessibleTopologies : List (List (String × String)))
    (attributes : List (String × String)) (volumeId : String) (size : Int) : CsiVolume :=
  ⟨volumeId, size, attributes, accessibleTopologies, none⟩

/-- `makeCreateVolumeResponse(ctx, req, vol, pool)`; `GetRequiredBytes()` of a nil range is 0. -/
def makeCreateVolumeResponse (req : CreateVolumeRequest) (vol : Volume) (pool : StoragePool) :
    CsiVolume :=
  let contentSource := req.volumeContentSource
  let size := req.capacityRange.getD 0
  let csiVolume := getVolumeResponse (getAccessibleTopologies req pool)
    (getAttributes req vol pool.parent) (pool.parent ++ "." ++ vol.volumeName) size
  match contentSource with
  | some _ => { csiVolume with contentSource := contentSource }
  | none => csiVolume

/-- `validateCapacity(ctx, req, vol)`. -/
def validateCapacity (req : CreateVolumeRequest) (vol : Volume) : ControllerM (Option Err) :=
  match vol.size with
  | .error err => pure (some err)
  | .ok actualCapacity => do
    let requiredBytes ← deref req.capacityRange "RequiredBytes"
    if actualCapacity ≠ requiredBytes then
      pure (some ("the actual capacity " ++ toString actualCapacity ++
        " is different from PVC storage size " ++ toString requiredBytes))
    else pure none

/-! ### Creating and importing a volume -/

/-- `d.createVolume(ctx, req)`. -/
def createVolume (c : Cluster) (req : CreateVolumeRequest) :
    ControllerM (Option CreateVolumeResponse × Option Err) := do
  let (parameters, err) ← liftNilDeref (processCreateVolumeParameters c.toHelpers req)
  match err with
  | some err => pure (none, some err)
  | none =>
    let requiredBytes ← deref req.capacityRange "RequiredBytes"
    match c.selectStoragePool requiredBytes (parameters.getD []) with
    | .error err => pure (none, some (statusError "Internal" err))
    | .ok (localPool, remotePool) =>
      let parameters ← nonNilMap parameters "storagepool"
      let parameters := processCreateVolumeParametersAfterSelect c parameters localPool remotePool
      match ← c.call (.createVolume localPool req.name parameters) with
      | .error err => pure (none, some (statusError "Internal" err))
      | .ok vol => pure (some ⟨some (makeCreateVolumeResponse req vol localPool)⟩, none)

/-- `d.manageVolume(ctx, req, volumeName, backendName)`. -/
def manageVolume (c : Cluster) (req : CreateVolumeRequest) (volumeName backendName : String) :
    ControllerM (Option CreateVolumeResponse × Option Err) := do
  match c.getBackendWithFresh backendName with
  | none =>
    pure (some ⟨none⟩, some ("backend " ++ backendName ++ " doesn't exist. Manage Volume " ++
      volumeName ++ " failed"))
  | some selectBackend =>
    if req.volumeContentSource.isSome then
      pure (some ⟨none⟩, some ("Manage volume " ++ volumeName ++ " can not set the source content."))
    else
      let (parameters, err) ← liftNilDeref (processCreateVolumeParameters c.toHelpers req)
      match err with
      | some err => pure (none, some err)
      | none =>
        match c.validateBackend selectBackend (parameters.getD []) with
        | some err => pure (none, some err)
        | none =>
          match ← c.call (.queryVolume backendName volumeName (parameters.getD [])) with
          | .error err => pure (none, some (statusError "Internal" err))
          | .ok vol =>
            match ← validateCapacity req vol with
            | some err => pure (none, some (statusError "Internal" err))
            | none =>
              let pool ← index selectBackend.pools 0
              let accessibleTopologies := getAccessibleTopologies req pool
              let attributes := getAttributes req vol backendName
              pure (some ⟨some (getVolumeResponse accessibleTopologies attributes
                (backendName ++ "." ++ volumeName) (req.capacityRange.getD 0))⟩, none)

/-! ### `controller.go` -/

/-- `d.CreateVolume(ctx, req)`. -/
def CreateVolume (c : Cluster) (req : CreateVolumeRequest) :
    ControllerM (Option CreateVolumeResponse × Option Err) :=
  match checkCreateVolumeRequest c.toHelpers req with
  | some err => pure (none, some err)
  | none =>
    match c.getVolumeConfiguration req.name with
    | .error err => if !contains err "PVCNotFound" then pure (none, some err) else createVolume c req
    | .ok annotations =>
      let volumeName := annotations.lookup (c.driverName ++ annManageVolumeName)
      let backendName := annotations.lookup (c.driverName ++ annManageBackendName)
      if (volumeName.isNone && backendName.isSome) || (volumeName.isSome && backendName.isNone) then
        let msg := "The annotation with PVC " ++ req.name ++ " is incorrect, both VolumeName [" ++
          volumeName.getD "" ++ "] and BackendName [" ++ backendName.getD "" ++ "] " ++
          "should configure."
        pure (none, some (statusError "FailedPrecondition" msg))
      else
        match volumeName, backendName with
        | some volumeName, some backendName => manageVolume c req volumeName backendName
        | _, _ => createVolume c req

/-- `d.DeleteVolume(ctx, req)`: a backend that does not exist is a success. -/
def DeleteVolume (c : Cluster) (req : DeleteVolumeRequest) : ControllerM (Option Unit × Option Err) := do
  let (backendName, volName) := c.splitVolumeId req.volumeId
  match c.getBackendWithFresh backendName with
  | none => pure (some (), none)
  | some backend =>
    let result ←
      if backend.storage = DTreeStorage then
        c.call (.deleteDTreeVolume backendName
          [("parentname", backend.parameters.get "parentname"), ("name", .str volName)])
      else c.call (.deleteVolume backendName volName)
    match result with
    | .error err => pure (none, some (statusError "Internal" err))
    | .ok _ => pure (some (), none)

/-- `d.ControllerExpandVolume(ctx, req)`. -/
def ControllerExpandVolume (c : Cluster) (req : ControllerExpandVolumeRequest) :
    ControllerM (Option ControllerExpandVolumeResponse × Option Err) := do
  let volumeId := req.volumeId
  if volumeId = "" then pure (none, some (statusError "InvalidArgument" "no volume ID provided"))
  else
    match req.capacityRange with
    | none => pure (none, some (statusError "InvalidArgument" "no capacity range provided"))
    | some capacityRange =>
      let minSize := capacityRange.requiredBytes
      let maxSize := capacityRange.limitBytes
      if 0 < maxSize ∧ maxSize < minSize then
        pure (none, some (statusError "InvalidArgument" "limitBytes is smaller than requiredBytes"))
      else
        let (backendName, volName) := c.splitVolumeId volumeId
        match c.getBackendWithFresh backendName with
        | none => pure (none, some (statusError "Internal" ("Backend " ++ backendName ++ " doesn't exist")))
        | some backend =>
          match isSupportExpandVolume req backend with
          | (false, none) => throw .nilError
          | (false, some err) => pure (none, some (statusError "InvalidArgument" err))
          | (true, _) =>
            let result ←
              if backend.storage = DTreeStorage then
                c.call (.expandDTreeVolume backendName [("name", .str volName),
                  ("parentname", backend.parameters.get "parentname"), ("spacehardquota", .int minSize)])
              else c.call (.expandVolume backendName volName minSize)
            match result with
            | .error err => pure (none, some (statusError "Internal" err))
            | .ok nodeExpansionRequired => pure (some ⟨minSize, nodeExpansionRequired⟩, none)

/-- `d.ControllerPublishVolume(ctx, req)`. -/
def ControllerPublishVolume (c : Cluster) (req : ControllerPublishVolumeRequest) :
    ControllerM (Option ControllerPublishVolumeResponse × Option Err) := do
  let (backendName, volName) := c.splitVolumeId req.volumeId
  match c.getBackendWithFresh backendName with
  | none => pure (none, some (statusError "Internal" ("Backend " ++ backendName ++ " doesn't exist")))
  | some _ =>
    match c.unmarshal req.nodeId with
    | .error err => pure (none, some (statusError "Internal" err))
    | .ok parameters =>
      match ← c.call (.attachVolume backendName volName parameters) with
      | .error err => pure (none, some (statusError "Internal" err))
      | .ok mappingInfo =>
        match c.marshal mappingInfo with
        | .error err => pure (none, some (statusError "Internal" err))
        | .ok publishInfo => pure (some ⟨[("publishInfo", publishInfo)]⟩, none)

/-- `d.ControllerUnpublishVolume(ctx, req)`: a backend that does not exist is a success. -/
def ControllerUnpublishVolume (c : Cluster) (req : ControllerUnpublishVolumeRequest) :
    ControllerM (Option Unit × Option Err) := do
  let (backendName, volName) := c.splitVolumeId req.volumeId
  match c.getBackendWithFresh backendName with
  | none => pure (some (), none)
  | some _ =>
    match c.unmarshal req.nodeId with
    | .error err => pure (none, some (statusError "Internal" err))
    | .ok parameters =>
      match ← c.call (.detachVolume backendName volName parameters) with
      | .error err => pure (none, some (statusError "Internal" err))
      | .ok _ => pure (some (), none)

/-- `d.ControllerGetCapabilities(ctx, req)`. -/
def ControllerGetCapabilities : List ControllerRpc :=
  [.createDeleteVolume, .publishUnpublishVolume, .expandVolume, .createDeleteSnapshot, .cloneVolume]

/-- `d.CreateSnapshot(ctx, req)`: the response's fields are evaluated in order, each through a
single-result type assertion on the plugin's answer. -/
def CreateSnapshot (c : Cluster) (req : CreateSnapshotRequest) :
    ControllerM (Option CreateSnapshotResponse × Option Err) := do
  let volumeId := req.sourceVolumeId
  if volumeId = "" then pure (none, some (statusError "InvalidArgument" "Volume ID missing in request"))
  else
    let snapshotName := req.name
    if snapshotName = "" then
      pure (none, some (statusError "InvalidArgument" "Snapshot Name missing in request"))
    else
      let (backendName, volName) := c.splitVolumeId volumeId
      match c.getBackendWithFresh backendName with
      | none => pure (none, some (statusError "Internal" ("Backend " ++ backendName ++ " doesn't exist")))
      | some _ =>
        match ← c.call (.createSnapshot backendName volName snapshotName) with
        | .error err => pure (none, some (statusError "Internal" err))
        | .ok snapshot =>
          let sizeBytes ← assertInt64 snapshot "SizeBytes"
          let parentId ← assertStr snapshot "ParentID"
          let creationTime ← assertInt64 snapshot "CreationTime"
          pure (some ⟨⟨sizeBytes, backendName ++ "." ++ parentId ++ "." ++ snapshotName, volumeId,
            creationTime, true⟩⟩, none)

/-- `d.DeleteSnapshot(ctx, req)`: a backend that does not exist is a success. -/
def DeleteSnapshot (c : Cluster) (req : DeleteSnapshotRequest) : ControllerM (Option Unit × Option Err) := do
  let snapshotId := req.snapshotId
  if snapshotId = "" then pure (none, some (statusError "InvalidArgument" "Snapshot ID missing in request"))
  else
    let (backendName, snapshotParentId, snapshotName) := c.splitSnapshotId snapshotId
    match c.getBackendWithFresh backendName with
    | none => pure (some (), none)
    | some _ =>
      match ← c.call (.deleteSnapshot backendName snapshotParentId snapshotName) with
      | .error err => pure (none, some (statusError "Internal" err))
      | .ok _ => pure (some (), none)

/-- The error of `ValidateVolumeCapabilities`, `ListVolumes` and `GetCapacity`. -/
def notImplemented : Err := statusError "Unimplemented" "Not implemented"

/-- The error of `ListSnapshots` and `ControllerGetVolume`. -/
def unimplemented : Err := statusError "Unimplemented" ""

/-! ### The service -/

/-- A call of one of the controller's gRPC methods. -/
inductive ControllerRequest where
  | createVolume (req : CreateVolumeRequest)
  | deleteVolume (req : DeleteVolumeRequest)
  | controllerExpandVolume (req : ControllerExpandVolumeRequest)
  | controllerPublishVolume (req : ControllerPublishVolumeRequest)
  | controllerUnpublishVolume (req : ControllerUnpublishVolumeRequest)
  | createSnapshot (req : CreateSnapshotRequest)
  | deleteSnapshot (req : DeleteSnapshotRequest)
  | controllerGetCapabilities
  | validateVolumeCapabilities
  | listVolumes
  | getCapacity
  | listSnapshots
  | controllerGetVolume
  deriving Repr, DecidableEq

/-- The error a method returns, which gRPC sends back as the call's status. -/
def ControllerRequest.serve (c : Cluster) : ControllerRequest → ControllerM (Option Err)
  | .createVolume req => (·.2) <$> CreateVolume c req
  | .deleteVolume req => (·.2) <$> DeleteVolume c req
  | .controllerExpandVolume req => (·.2) <$> ControllerExpandVolume c req
  | .controllerPublishVolume req => (·.2) <$> ControllerPublishVolume c req
  | .controllerUnpublishVolume req => (·.2) <$> ControllerUnpublishVolume c req
  | .createSnapshot req => (·.2) <$> CreateSnapshot c req
  | .deleteSnapshot req => (·.2) <$> DeleteSnapshot c req
  | .controllerGetCapabilities => pure none
  | .validateVolumeCapabilities | .listVolumes | .getCapacity => pure (some notImplemented)
  | .listSnapshots | .controllerGetVolume => pure (some unimplemented)

end CsiPlugin
