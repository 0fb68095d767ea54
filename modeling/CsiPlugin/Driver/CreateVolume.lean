import CsiPlugin.Driver.ControllerHelper
set_option warningAsError true

/-!
# CsiPlugin.Driver.CreateVolume

**The rest of the CreateVolume request path of `csi/driver/controller_helper.go`.** `CreateVolume`
first runs `checkCreateVolumeRequest`, which rejects a request with

* a missing or non-positive `CapacityRange`,
* a storage-class `fsPermission` that is not three octal digits (`checkFsPermission`),
* a `reservedSnapshotSpaceRatio` that `strconv.Atoi` does not parse or that lies outside
  `[0, 50]` (`checkReservedSnapshotSpaceRatio`),
* capabilities that `validateModeAndType` rejects,

each as an `InvalidArgument` status. `processCreateVolumeParameters` then builds the parameter
map the backend sees: it stores the capacity under `size`, resolves `backend` (by
`helper.GetBackendName`, overridden by the volume `cloneFrom` names, overridden again by the
request's content source), stores the accessibility requirements, the NFS version
(`processNFSProtocol`) and a `description` (a default when there is none; at most
`maxDescriptionLength` bytes otherwise).

The request is modelled by the fields these functions read. What they call from packages that
are not under src/ (`utils.CopyMap`, `utils.SplitVolumeId`, `utils.SplitSnapshotId`,
`helper.GetBackendName`, the key `backend.Topology`) is a field of `Helpers`. The library calls
they make are modelled here: `strconv.Atoi` (`atoi`), the one regular expression
(`matchFsPermission`), `len` of a string (its UTF-8 byte count) and the text of a gRPC status
error (`statusError`).
-/

namespace CsiPlugin

/-! ### The request -/

/-- The `type` oneof of `req.GetVolumeContentSource()`, when the source is not nil. -/
inductive ContentSource where
  | snapshot (snapshotId : String)
  | volume (volumeId : String)
  /-- Neither `GetSnapshot()` nor `GetVolume()` is set. -/
  | neither
  deriving Repr, DecidableEq

/-- A `csi.TopologyRequirement`, by the segments of its requisite and preferred topologies. -/
structure TopologyRequirement where
  requisite : List (List (String × String))
  preferred : List (List (String × String))
  deriving Repr, DecidableEq

/-- A `csi.CreateVolumeRequest`, by the fields the controller reads. -/
structure CreateVolumeRequest where
  name : String
  /-- `req.GetCapacityRange()`: nil, or its `RequiredBytes`. -/
  capacityRange : Option Int
  /-- `req.GetParameters()`, the storage class's `map[string]string`. -/
  parameters : List (String × String)
  volumeCapabilities : List VolumeCapability
  volumeContentSource : Option ContentSource
  accessibilityRequirements : Option TopologyRequirement
  deriving Repr, DecidableEq

/-- What the CreateVolume path calls from packages that are not under src/. -/
structure Helpers where
  /-- `utils.CopyMap(req.GetParameters())`. -/
  copyMap : List (String × String) → GoMap
  /-- `helper.GetBackendName(name)`. -/
  getBackendName : String → String
  /-- `utils.SplitVolumeId(id)`: the backend name and the volume name. -/
  splitVolumeId : String → String × String
  /-- `utils.SplitSnapshotId(id)`: the backend name, the parent ID and the snapshot name. -/
  splitSnapshotId : String → String × String × String
  /-- `backend.Topology`, the key of the accessibility requirements. -/
  topology : String

/-- A Go runtime panic: a field of a nil pointer was read. -/
structure NilDeref where
  field : String
  deriving Repr, DecidableEq

/-- `status.Error(code, msg).Error()`: the text of a gRPC status error. -/
def statusError (code msg : String) : Err := "rpc error: code = " ++ code ++ " desc = " ++ msg

/-! ### Library calls -/

/-- The value of a string of ASCII digits, most significant digit first. -/
def digitsValue (cs : List Char) : Nat := cs.foldl (fun n c => 10 * n + (c.toNat - '0'.toNat)) 0

/-- `strconv.Atoi(s)` on a 64-bit platform: an optional sign and at least one ASCII digit,
whose value fits in an `int` (`[-2^63, 2^63 - 1]`); `none` is the error. -/
def atoi (s : String) : Option Int :=
  let (neg, body) : Bool × List Char :=
    match s.toList with
    | '-' :: cs => (true, cs)
    | '+' :: cs => (false, cs)
    | cs => (false, cs)
  if body.isEmpty || !body.all Char.isDigit then none
  else
    let v : Int := if neg then -(digitsValue body : Int) else digitsValue body
    if -9223372036854775808 ≤ v ∧ v ≤ 9223372036854775807 then some v else none

/-- A character of the class `[0-7]`. -/
def isOctalDigit (c : Char) : Bool := '0' ≤ c && c ≤ '7'

/-- `regexp.MustCompile("^[0-7][0-7][0-7]$").FindStringSubmatch(s) != nil`: outside multi-line
mode `$` matches only at the end of the text, so the whole string is three octal digits. -/
def matchFsPermission (s : String) : Bool :=
  match s.toList with
  | [a, b, c] => isOctalDigit a && isOctalDigit b && isOctalDigit c
  | _ => false

/-! ### `checkCreateVolumeRequest` -/

/-- `checkFsPermission(ctx, parameters)`. -/
def checkFsPermission (parameters : GoMap) : Option Err :=
  match (parameters.get "fsPermission").asString with
  | none => none
  | some fsPermission =>
    if matchFsPermission fsPermission then none
    else some ("fsPermission [" ++ fsPermission ++ "] in storageClass.yaml format must be [0-7][0-7][0-7].")

/-- `checkReservedSnapshotSpaceRatio(ctx, parameters)`. -/
def checkReservedSnapshotSpaceRatio (parameters : GoMap) : Option Err :=
  match (parameters.get "reservedSnapshotSpaceRatio").asString with
  | none => none
  | some reservedSnapshotSpaceRatioString =>
    match atoi reservedSnapshotSpaceRatioString with
    | none =>
      some ("Convert [" ++ reservedSnapshotSpaceRatioString ++
        "] to int failed, please check parameter reservedSnapshotSpaceRatio " ++ "in storageclass.")
    | some reservedSnapshotSpaceRatio =>
      if reservedSnapshotSpaceRatio < 0 ∨ reservedSnapshotSpaceRatio > 50 then
        some ("reservedSnapshotSpaceRatio: [" ++ reservedSnapshotSpaceRatioString ++
          "] must in range [0, 50], please check this " ++ "parameter in storageclass.")
      else none

/-- `checkStorageClassParameters(ctx, parameters)`. -/
def checkStorageClassParameters (parameters : GoMap) : Option Err :=
  match checkFsPermission parameters with
  | some err => some err
  | none => checkReservedSnapshotSpaceRatio parameters

/-- `msg` of the `CapacityRange` check. -/
def capacityRangeMsg : String := "CreateVolume CapacityRange must be provided"

/-- `checkCreateVolumeRequest(ctx, req)`. -/
def checkCreateVolumeRequest (h : Helpers) (req : CreateVolumeRequest) : Option Err :=
  if req.capacityRange.isNone || req.capacityRange.any (· ≤ 0) then
    some (statusError "InvalidArgument" capacityRangeMsg)
  else
    let parameters := h.copyMap req.parameters
    match checkStorageClassParameters parameters with
    | some err => some (statusError "InvalidArgument" err)
    | none =>
      let msg := validateModeAndType req.volumeCapabilities parameters
      if msg ≠ "" then some (statusError "InvalidArgument" msg) else none

/-! ### `processCreateVolumeParameters` -/

/-- `maxDescriptionLength`. -/
def maxDescriptionLength : Nat := 255

/-- The `description` `processDescription` stores when the storage class has none. -/
def defaultDescription : String := "Created from Kubernetes CSI"

/-- `processDescription(ctx, parameters)`; Go's `len` counts the bytes of the UTF-8 text. -/
def processDescription (parameters : GoMap) : GoMap × Option Err :=
  match (parameters.get "description").asString with
  | none => (parameters.set "description" (.str defaultDescription), none)
  | some description =>
    if description.utf8ByteSize > maxDescriptionLength then
      (parameters, some ("StorageClass parameter \"description\": [" ++ description ++
        "] invalid, the length exceeds " ++ toString maxDescriptionLength ++ "."))
    else (parameters, none)

/-- `processVolumeContentSource(ctx, req, parameters)`. -/
def processVolumeContentSource (h : Helpers) (contentSource : Option ContentSource)
    (parameters : GoMap) : GoMap × Option Err :=
  match contentSource with
  | none => (parameters, none)
  | some (.snapshot sourceSnapshotId) =>
    let (sourceBackendName, snapshotParentId, sourceSnapshotName) := h.splitSnapshotId sourceSnapshotId
    (((parameters.set "sourceSnapshotName" (.str sourceSnapshotName)).set "snapshotParentId"
      (.str snapshotParentId)).set "backend" (.str sourceBackendName), none)
  | some (.volume sourceVolumeId) =>
    let (sourceBackendName, sourceVolumeName) := h.splitVolumeId sourceVolumeId
    ((parameters.set "sourceVolumeName" (.str sourceVolumeName)).set "backend" (.str sourceBackendName),
      none)
  | some .neither =>
    (parameters, some (statusError "InvalidArgument" "the source ID provided by user is invalid"))

/-- `processAccessibilityRequirements(ctx, req, parameters)`: the segment maps are copied entry
by entry into the stored `backend.AccessibleTopology`. -/
def processAccessibilityRequirements (h : Helpers) (accessibleTopology : Option TopologyRequirement)
    (parameters : GoMap) : GoMap :=
  match accessibleTopology with
  | none => parameters
  | some t => parameters.set h.topology (.topology t.requisite t.preferred)

/-- The `backend` step of `processCreateVolumeParameters`: a string `backend` is replaced by
`helper.GetBackendName` of it. -/
def processBackendName (h : Helpers) (parameters : GoMap) : GoMap :=
  match (parameters.get "backend").asString with
  | some backendName => parameters.set "backend" (.str (h.getBackendName backendName))
  | none => parameters

/-- The `cloneFrom` step of `processCreateVolumeParameters`: a non-empty `cloneFrom` is split
into `backend` and `cloneFrom`. -/
def processCloneFrom (h : Helpers) (parameters : GoMap) : GoMap :=
  match (parameters.get "cloneFrom").asString with
  | some cloneFrom =>
    if cloneFrom ≠ "" then
      let (backendName, volumeName) := h.splitVolumeId cloneFrom
      (parameters.set "backend" (.str backendName)).set "cloneFrom" (.str volumeName)
    else parameters
  | none => parameters

/-- `processCreateVolumeParameters(ctx, req)`: the map (Go returns it with the content-source
error, and nil with the others) and the error. `req.GetCapacityRange().RequiredBytes` reads a
field of the nil pointer when the request has no capacity range. -/
def processCreateVolumeParameters (h : Helpers) (req : CreateVolumeRequest) :
    Except NilDeref (Option GoMap × Option Err) :=
  match req.capacityRange with
  | none => .error ⟨"RequiredBytes"⟩
  | some requiredBytes =>
    let parameters := (h.copyMap req.parameters).set "size" (.int requiredBytes)
    let parameters := processCloneFrom h (processBackendName h parameters)
    match processVolumeContentSource h req.volumeContentSource parameters with
    | (parameters, some err) => .ok (some parameters, some err)
    | (parameters, none) =>
      let parameters := processAccessibilityRequirements h req.accessibilityRequirements parameters
      match processNFSProtocol req.volumeCapabilities parameters with
      | (_, some err) => .ok (none, some err)
      | (parameters, none) =>
        match processDescription parameters with
        | (_, some err) => .ok (none, some err)
        | (parameters, none) => .ok (some parameters, none)

end CsiPlugin
