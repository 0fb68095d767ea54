import CsiPlugin.Go.Basic
set_option warningAsError true

/-!
# CsiPlugin.App.ConnectorOptions

**The connector flags of `csi/app/options/connector.go`.** `NewConnectorOptions` fills in the
defaults; `AddFlags` registers one flag per option, and registering a flag stores its default
in the option; `ValidateFlags` collects the errors of three checks.

The checks come in two shapes: a string option that must be one of a list
(`validateScsiMultiPathType` and `validateNvmeMultiPathType`, both `validateOneOf`), and a
number that must lie in a range (`validateScanVolumeTimeout` and `validateConnectorThreads`,
both `validateRange`). `ValidateFlags` runs the first three only: `validateConnectorThreads` is
never called, so `ValidateFlags` does not read `connectorThreads`.
-/

namespace CsiPlugin

/-- `dmMultiPath`. -/
def dmMultiPath : String := "DM-multipath"
/-- `hwUltraPath`. -/
def hwUltraPath : String := "HW-UltraPath"
/-- `hwUltraPathNVMe`. -/
def hwUltraPathNVMe : String := "HW-UltraPath-NVMe"
/-- `defaultCleanupTimeout`. -/
def defaultCleanupTimeout : Int := 240
/-- `defaultScanVolumeTimeout`. -/
def defaultScanVolumeTimeout : Int := 3
/-- `defaultConnectorThreads`. -/
def defaultConnectorThreads : Int := 4
/-- `minThreads`. -/
def minThreads : Int := 1
/-- `maxThreads`. -/
def maxThreads : Int := 10

/-- `connectorOptions`. -/
structure ConnectorOptions where
  volumeUseMultiPath : Bool
  scsiMultiPathType : String
  nvmeMultiPathType : String
  deviceCleanupTimeout : Int
  scanVolumeTimeout : Int
  connectorThreads : Int
  allPathOnline : Bool
  deriving Repr, DecidableEq

/-- `NewConnectorOptions()`. -/
def NewConnectorOptions : ConnectorOptions where
  volumeUseMultiPath := true
  scsiMultiPathType := dmMultiPath
  nvmeMultiPathType := hwUltraPathNVMe
  deviceCleanupTimeout := defaultCleanupTimeout
  scanVolumeTimeout := defaultScanVolumeTimeout
  connectorThreads := defaultConnectorThreads
  allPathOnline := false

namespace ConnectorOptions

/-- `opt.AddFlags(ff)`, before the command line is parsed: each `ff.BoolVar`, `ff.StringVar` and
`ff.IntVar` stores the flag's default value in its field. -/
def AddFlags (_opt : ConnectorOptions) : ConnectorOptions where
  volumeUseMultiPath := true
  scsiMultiPathType := dmMultiPath
  nvmeMultiPathType := hwUltraPathNVMe
  deviceCleanupTimeout := 240
  scanVolumeTimeout := 3
  connectorThreads := 4
  allPathOnline := false

/-! ### The checks -/

/-- A `switch` that accepts a string option only when it is one of `allowed`. -/
def validateOneOf (allowed : List String) (value : String) (msg : Err) : Option Err :=
  if value ∈ allowed then none else some msg

/-- A check that a number option lies in `[lo, hi]`. -/
def validateRange (lo hi value : Int) (msg : Err) : Option Err :=
  if value < lo ∨ value > hi then some msg else none

/-- `opt.validateScsiMultiPathType()`. -/
def validateScsiMultiPathType (opt : ConnectorOptions) : Option Err :=
  validateOneOf [dmMultiPath, hwUltraPath, hwUltraPathNVMe] opt.scsiMultiPathType
    ("the scsi-multipath-type=" ++ opt.scsiMultiPathType ++ " configuration is incorrect")

/-- `opt.validateNvmeMultiPathType()`. -/
def validateNvmeMultiPathType (opt : ConnectorOptions) : Option Err :=
  validateOneOf [hwUltraPathNVMe] opt.nvmeMultiPathType
    ("the nvme-multipath-type=" ++ opt.nvmeMultiPathType ++ " configuration is incorrect")

/-- `opt.validateScanVolumeTimeout()`. -/
def validateScanVolumeTimeout (opt : ConnectorOptions) : Option Err :=
  validateRange 1 600 opt.scanVolumeTimeout
    ("the value of scanVolumeTimeout ranges from 1 to 600, current is: " ++ toString opt.scanVolumeTimeout)

/-- `opt.validateConnectorThreads()`. -/
def validateConnectorThreads (opt : ConnectorOptions) : Option Err :=
  validateRange minThreads maxThreads opt.connectorThreads
    ("the connector-threads " ++ toString opt.connectorThreads ++ " should be " ++ toString minThreads ++
      "~" ++ toString maxThreads)

/-- `if err != nil { errs = append(errs, err) }`. -/
def appendErr (errs : List Err) : Option Err → List Err
  | some err => errs ++ [err]
  | none => errs

/-- `opt.ValidateFlags()`. -/
def ValidateFlags (opt : ConnectorOptions) : List Err :=
  let errs := appendErr [] opt.validateScsiMultiPathType
  let errs := appendErr errs opt.validateNvmeMultiPathType
  appendErr errs opt.validateScanVolumeTimeout

end ConnectorOptions

end CsiPlugin
