import CsiPlugin.Go.Basic
set_option warningAsError true

/-!
# CsiPlugin.Driver.ControllerHelper

**The CreateVolume request checks of `csi/driver/controller_helper.go`.** Two of them read the
request's volume capabilities in a loop:

* `processNFSProtocol` — for each capability, for each of its mount flags, `addNFSProtocol`
  scans the comma-separated, space-trimmed pieces of the flag for `nfsvers=` pieces and stores
  the mapped protocol under `parameters["nfsProtocol"]`; an unsupported version or a second
  version is an error, and the outer loop stops at the first capability after which
  `nfsProtocol` is set;
* `validateModeAndType` — one pass over the capabilities that overwrites `volumeMode` with each
  capability's mode and sets `accessMode` to `RWX` once any capability is
  `MULTI_NODE_MULTI_WRITER`, then three checks against the storage-class parameters.

The CSI message types are modelled by the fields these functions read: a capability's access
type (`GetBlock()`, `GetMount().GetMountFlags()`) and its access mode (`GetAccessMode().GetMode()`,
`UNKNOWN` when unset). Go mutates `parameters` in place and returns only the `error`; the model
returns the map next to the error, so a failed call still shows what it had written.
-/

namespace CsiPlugin

/-! ### CSI volume capabilities -/

/-- `csi.VolumeCapability_AccessMode_Mode`. -/
inductive AccessMode where
  | unknown
  | singleNodeWriter
  | singleNodeReaderOnly
  | multiNodeReaderOnly
  | multiNodeSingleWriter
  | multiNodeMultiWriter
  | singleNodeSingleWriter
  | singleNodeMultiWriter
  deriving Repr, DecidableEq

/-- The `access_type` oneof of a `csi.VolumeCapability`. -/
inductive AccessType where
  /-- Neither field set: `GetBlock()` and `GetMount()` are both nil. -/
  | unset
  | block
  | mount (mountFlags : List String)
  deriving Repr, DecidableEq

/-- A `csi.VolumeCapability`, by the fields the controller reads. -/
structure VolumeCapability where
  accessType : AccessType
  accessMode : AccessMode
  deriving Repr, DecidableEq

namespace VolumeCapability

/-- `v.GetMount().GetMountFlags()`: nil (no flags) unless the capability is a mount. -/
def mountFlags (v : VolumeCapability) : List String :=
  match v.accessType with
  | .mount flags => flags
  | _ => []

/-- `mode.GetBlock() != nil`. -/
def isBlock (v : VolumeCapability) : Bool :=
  match v.accessType with
  | .block => true
  | _ => false

end VolumeCapability

/-! ### `processNFSProtocol` -/

/-- `nfsProtocolMap` (`nfsvers=3.0` is deliberately absent). -/
def nfsProtocolMap : List (String × String) :=
  [("nfsvers=3", "nfs3"), ("nfsvers=4", "nfs4"), ("nfsvers=4.0", "nfs4"), ("nfsvers=4.1", "nfs41")]

/-- The loop of `addNFSProtocol` over the trimmed pieces of `mountFlag`. -/
def addNFSProtocolLoop (mountFlag : String) : List String → GoMap → GoMap × Option Err
  | [], parameters => (parameters, none)
  | singleFlag :: rest, parameters =>
    if hasPrefix singleFlag "nfsvers=" then
      match nfsProtocolMap.lookup singleFlag with
      | none => (parameters, some ("unsupported nfs protocol version [" ++ singleFlag ++ "]."))
      | some value =>
        if !(parameters.get "nfsProtocol").isNil then
          (parameters, some ("Duplicate nfs protocol [" ++ mountFlag ++ "]."))
        else addNFSProtocolLoop mountFlag rest (parameters.set "nfsProtocol" (.str value))
    else addNFSProtocolLoop mountFlag rest parameters

/-- `addNFSProtocol(ctx, mountFlag, parameters)`. -/
def addNFSProtocol (mountFlag : String) (parameters : GoMap) : GoMap × Option Err :=
  addNFSProtocolLoop mountFlag ((split mountFlag ',').map trimSpace) parameters

/-- The inner loop of `processNFSProtocol`: `addNFSProtocol` on each mount flag of one
capability, returning the first error. -/
def addMountFlags : List String → GoMap → GoMap × Option Err
  | [], parameters => (parameters, none)
  | mountFlag :: rest, parameters =>
    match addNFSProtocol mountFlag parameters with
    | (parameters', some err) => (parameters', some err)
    | (parameters', none) => addMountFlags rest parameters'

/-- `processNFSProtocol(ctx, req, parameters)` over `req.GetVolumeCapabilities()`: the loop
breaks after the first capability that leaves `nfsProtocol` set. -/
def processNFSProtocol : List VolumeCapability → GoMap → GoMap × Option Err
  | [], parameters => (parameters, none)
  | v :: rest, parameters =>
    match addMountFlags v.mountFlags parameters with
    | (parameters', some err) => (parameters', some err)
    | (parameters', none) =>
      if !(parameters'.get "nfsProtocol").isNil then (parameters', none)
      else processNFSProtocol rest parameters'

/-! ### `validateModeAndType` -/

/-- `RWX`. -/
def RWX : String := "ReadWriteMany"
/-- `Block`. -/
def Block : String := "Block"
/-- `FileSystem`. -/
def FileSystem : String := "FileSystem"
/-- `volumeTypeDTree`. -/
def volumeTypeDTree : String := "dtree"
/-- `volumeTypeFileSystem`. -/
def volumeTypeFileSystem : String := "fs"
/-- `volumeTypeLun`. -/
def volumeTypeLun : String := "lun"

/-- `constants.Ext2`, `Ext3`, `Ext4` and `Xfs` (`pkg/constants` is not under src/): the file
system types the error text lists, each the name of the type. -/
def supportedFsTypes : List String := ["ext2", "ext3", "ext4", "xfs"]

/-- `utils.ToStringSafe` (`utils` is not under src/) on the values it meets here: the
parameters come from the request's `map[string]string`, so `fsType` is a string, which reads
as itself, or missing, which reads as the empty string. -/
def toStringSafe : Value → String
  | .str s => s
  | _ => ""

/-- One iteration of the capability loop of `validateModeAndType` on
`(volumeMode, accessMode)`. -/
def modeStep (acc : String × String) (mode : VolumeCapability) : String × String :=
  (if mode.isBlock then Block else FileSystem,
   if mode.accessMode = .multiNodeMultiWriter then RWX else acc.2)

/-- `validateModeAndType(req, parameters)`: the empty string when the request passes. -/
def validateModeAndType (volumeCapabilities : List VolumeCapability) (parameters : GoMap) :
    String :=
  if volumeCapabilities.isEmpty then "Volume Capabilities missing in request" else
  let (volumeMode, accessMode) := volumeCapabilities.foldl modeStep ("", "")
  let volumeType := parameters.get "volumeType"
  if volumeMode = Block &&
      (volumeType.isStr volumeTypeFileSystem || volumeType.isStr volumeTypeDTree) then
    "VolumeMode is block but volumeType is " ++ toStringSafe volumeType ++
      ". Please check the storage class"
  else if accessMode = RWX && volumeMode = FileSystem && volumeType.isStr volumeTypeLun then
    "If volumeType in the sc.yaml file is set to \"lun\" and volumeMode in the pvc.yaml file is " ++
      "set to \"Filesystem\", accessModes in the pvc.yaml file cannot be set to \"ReadWriteMany\"."
  else
    let fsType := toStringSafe (parameters.get "fsType")
    if fsType ≠ "" && !supportedFsTypes.contains fsType then
      "fsType " ++ fsType ++ " is not correct, [ext2, ext3, ext4, xfs] are support." ++
        " Please check the storage class "
    else ""

end CsiPlugin
