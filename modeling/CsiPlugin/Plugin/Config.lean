import CsiPlugin.Plugin.Basic
set_option warningAsError true

/-!
# CsiPlugin.Plugin.Config

**`Init` and `Validate` of the three plugin types.** `Validate(ctx, config)` checks a backend
configuration before it is committed; `Init(config, parameters, keepLogin)` checks
`parameters = config["parameters"]` again while it fills in the plugin and logs in. The two are
separately written check sequences over the same nested maps:

* `OceanstorSanPlugin` — protocol one of `iscsi`, `fc`, `roce`, `fc-nvme`; for `iscsi` and
  `roce` a portal list that `proto.VerifyIscsiPortals` accepts; `Init` alone then requires the
  product `DoradoV6` for `roce` and `fc-nvme`;
* `FusionStorageSanPlugin` — `Validate` wants the protocol `scsi` or `iscsi` and a non-empty
  portal list; `Init` lower-cases the protocol and then, for `scsi`, reads the first portal as a
  host-to-manage-IP map and parses each IP, and for `iscsi` runs `proto.VerifyIscsiPortals`;
* `OceanstorDTreePlugin` — both want the protocol `nfs` and exactly one portal; `Validate` also
  checks `storage` and `parentname`.

What these functions call outside src/ is a field of `Collab`: the helpers of `utils`, `proto`,
`net` and `fmt`, and the array behind the backend (its client configuration, its login, and the
embedded plugin's `init`, which logs in and reads the product). Each plugin type is checked
against its own `Collab`, since each family has its own client package.
-/

namespace CsiPlugin

/-- What `Init` and `Validate` call outside src/. -/
structure Collab where
  /-- `fmt`'s `%v` of a value, in error texts. -/
  sprint : Value → String
  /-- `net.ParseIP(s) != nil`. -/
  parseIP : String → Bool
  /-- `proto.VerifyIscsiPortals(portals)`: the portal IPs, or the error. -/
  verifyIscsiPortals : List Value → Except Err (List String)
  /-- `utils.ToStringWithFlag(v)`: the string and whether there was one. -/
  toStringWithFlag : Value → String × Bool
  /-- The embedded plugin's `p.init(config, keepLogin)`: on success, the array's product. -/
  init : GoMap → Bool → Except Err String
  /-- `p.getNewClientConfig(ctx, param)`, by its error. -/
  getNewClientConfig : GoMap → Option Err
  /-- `client.NewClient(clientConfig)` where it can fail (the dtree client), by its error. -/
  newClient : GoMap → Option Err
  /-- `cli.ValidateLogin(ctx)` on the throwaway client, by its error. -/
  validateLogin : GoMap → Option Err

/-- `_, ok := m[k]`: whether the key is present at all (a present `nil` counts). -/
def GoMap.has (m : GoMap) (k : String) : Bool := (m.lookup k).isSome

/-- `strings.ToLower`, exact for comparisons with lower-case ASCII words: ASCII `A`–`Z` and
U+0130, which Go's `unicode.ToLower` maps to `i`, become ASCII; every other rune that Go lowers
becomes a non-ASCII rune, and is kept here. -/
def toLower (s : String) : String :=
  String.mk (s.toList.map fun c => if c.toNat = 0x130 then 'i' else c.toLower)

variable (c : Collab)

/-! ### `OceanstorSanPlugin` -/

/-- The four protocols of an `oceanstor-san` backend. -/
def isSanProtocol (protocol : String) : Bool :=
  protocol == "iscsi" || protocol == "fc" || protocol == "roce" || protocol == "fc-nvme"

/-- The protocols whose portal list is checked. -/
def needsPortals (protocol : String) : Bool := protocol == "iscsi" || protocol == "roce"

/-- The protocols that need a `DoradoV6` array. -/
def needsNvmeProduct (protocol : String) : Bool := protocol == "roce" || protocol == "fc-nvme"

/-- `(*OceanstorSanPlugin).Init`: on success, the plugin it leaves. -/
def OceanstorSanPlugin.Init (p : OceanstorSanPlugin) (config parameters : GoMap)
    (keepLogin : Bool) : Except Err OceanstorSanPlugin :=
  match (parameters.get "protocol").asString with
  | none => .error "protocol must be provided as 'iscsi', 'fc', 'roce' or 'fc-nvme' for oceanstor-san backend"
  | some protocol =>
    if !isSanProtocol protocol then
      .error "protocol must be provided as 'iscsi', 'fc', 'roce' or 'fc-nvme' for oceanstor-san backend"
    else
      let alua := ((parameters.get "ALUA").asMap).getD []
      let portals : Except Err (List String) :=
        if needsPortals protocol then
          match (parameters.get "portals").asList with
          | none => .error "portals are required to configure for iSCSI or RoCE backend"
          | some portals => c.verifyIscsiPortals portals
        else .ok p.portals
      match portals with
      | .error e => .error e
      | .ok portals =>
        match c.init config keepLogin with
        | .error e => .error e
        | .ok product =>
          if needsNvmeProduct protocol && product != "DoradoV6" then
            .error ("The storage backend " ++ product ++ " does not support NVME protocol")
          else .ok { p with alua, portals, product, protocol, storageOnline := true }

/-- `verifyOceanstorSanParam(ctx, config)`. -/
def verifyOceanstorSanParam (config : GoMap) : Option Err :=
  match (config.get "parameters").asMap with
  | none => some ("Verify parameters: [" ++ c.sprint (config.get "parameters") ++
      "] failed. \nparameters must be provided")
  | some parameters =>
    let protocolErr := "Verify protocol: [" ++ c.sprint (parameters.get "protocol") ++
      "] failed. \nprotocol must be provided and be one of " ++
      "[iscsi, fc, roce, fc-nvme] for oceanstor-san backend\n"
    match (parameters.get "protocol").asString with
    | none => some protocolErr
    | some protocol =>
      if !isSanProtocol protocol then some protocolErr
      else if needsPortals protocol then
        match (parameters.get "portals").asList with
        | none => some ("Verify portals: [" ++ c.sprint (parameters.get "portals") ++
            "] failed. \nportals are required to configure for " ++
            "iscsi or roce for oceanstor-san backend\n")
        | some portals =>
          match c.verifyIscsiPortals portals with
          | .error e => some e
          | .ok _ => none
      else none

/-- `(*OceanstorSanPlugin).Validate(ctx, param)`: the parameters, then a login on a throwaway
client. -/
def OceanstorSanPlugin.Validate (param : GoMap) : Option Err :=
  match verifyOceanstorSanParam c param with
  | some e => some e
  | none =>
    match c.getNewClientConfig param with
    | some e => some e
    | none => c.validateLogin param

/-! ### `FusionStorageSanPlugin` -/

/-- The loop of `Init` over the entries of the `scsi` portal map (`GoMap.entries`): every string
value must parse as an IP and is recorded as the host's manage IP; other values are skipped. -/
def collectHosts (hosts : List (String × String)) :
    List (String × Value) → Except Err (List (String × String))
  | [] => .ok hosts
  | (k, v) :: rest =>
    match v.asString with
    | none => collectHosts hosts rest
    | some manageIP =>
      if !c.parseIP manageIP then .error ("Manage IP " ++ manageIP ++ " of host " ++ k ++ " is invalid")
      else collectHosts ((k, manageIP) :: hosts) rest

/-- The per-protocol part of `(*FusionStorageSanPlugin).Init` on a non-empty portal list. -/
def FusionStorageSanPlugin.initProtocol (p : FusionStorageSanPlugin) (parameters : GoMap)
    (protocol : String) (portals : List Value) : Except Err FusionStorageSanPlugin :=
  if toLower protocol == "scsi" then
    match (portals.headD .nil).asMap with
    | none => .error "scsi portals convert to map[string]interface\x7b\x7d failed"
    | some scsi =>
      match collectHosts c p.hosts scsi.entries with
      | .error e => .error e
      | .ok hosts => .ok { p with hosts, protocol := "scsi" }
  else if toLower protocol == "iscsi" then
    match c.verifyIscsiPortals portals with
    | .error e => .error e
    | .ok ips =>
      let alua := ((parameters.get "ALUA").asMap).getD []
      .ok { p with portals := ips, protocol := "iscsi", alua }
  else .error ("protocol " ++ protocol ++ " configured is error. Just support iscsi and scsi")

/-- `(*FusionStorageSanPlugin).Init`. -/
def FusionStorageSanPlugin.Init (p : FusionStorageSanPlugin) (config parameters : GoMap)
    (keepLogin : Bool) : Except Err FusionStorageSanPlugin :=
  match (parameters.get "protocol").asString with
  | none => .error "protocol must be configured"
  | some protocol =>
    match (parameters.get "portals").asList with
    | none => .error "portals must be configured"
    | some portals =>
      if portals.isEmpty then .error "portals must be configured"
      else
        match p.initProtocol c parameters protocol portals with
        | .error e => .error e
        | .ok p' =>
          match c.init config keepLogin with
          | .error e => .error e
          | .ok _ => .ok p'

/-- `verifyFusionStorageSanParam(ctx, config)`. -/
def verifyFusionStorageSanParam (config : GoMap) : Option Err :=
  match (config.get "parameters").asMap with
  | none => some ("Verify parameters: [" ++ c.sprint (config.get "parameters") ++
      "] failed. \nparameters must be provided")
  | some parameters =>
    let protocolErr := "Verify protocol: [" ++ c.sprint (parameters.get "protocol") ++
      "] failed. \nprotocol must be provided and be \"scsi\" or \"iscsi\" " ++
      "for fusionstorage-san backend\n"
    match (parameters.get "protocol").asString with
    | none => some protocolErr
    | some protocol =>
      if !(protocol == "scsi" || protocol == "iscsi") then some protocolErr
      else
        let portalsErr := "Verify portals: [" ++ c.sprint (parameters.get "portals") ++
          "] failed. \nportals must be configured in fusionstorage-san backend\n"
        match (parameters.get "portals").asList with
        | none => some portalsErr
        | some portals => if portals.isEmpty then some portalsErr else none

/-- `(*FusionStorageSanPlugin).Validate(ctx, param)`. -/
def FusionStorageSanPlugin.Validate (param : GoMap) : Option Err :=
  match verifyFusionStorageSanParam c param with
  | some e => some e
  | none =>
    match c.getNewClientConfig param with
    | some e => some e
    | none => c.validateLogin param

/-! ### `OceanstorDTreePlugin` -/

/-- `(*OceanstorDTreePlugin).Init`. Each `s, exist := utils.ToStringWithFlag(v)` of the source is
one pair here, read as `s.1` and `s.2`. -/
def OceanstorDTreePlugin.Init (p : OceanstorDTreePlugin) (config parameters : GoMap)
    (keepLogin : Bool) : Except Err OceanstorDTreePlugin :=
  let protocol := c.toStringWithFlag (parameters.get "protocol")
  if !protocol.2 || protocol.1 != "nfs" then
    .error "protocol must be provided and be \"nfs\" for oceanstor-dtree backend"
  else if !parameters.has "portals" then
    .error "portals must be provided for oceanstor-dtree backend and just support one portal"
  else
    match (parameters.get "portals").asList with
    | some [portal] =>
      match c.init config keepLogin with
      | .error e => .error e
      | .ok _ =>
        let parentName := (c.toStringWithFlag (parameters.get "parentname")).1
        .ok { p with portal := (c.toStringWithFlag portal).1, parentName }
    | _ => .error "portals must be provided for oceanstor-dtree backend and just support one portal"

/-- `verifyOceanstorDTreeParam(ctx, config)`. -/
def verifyOceanstorDTreeParam (config : GoMap) : Option Err :=
  let storage := c.toStringWithFlag (config.get "storage")
  if !storage.2 || storage.1 != DTreeStorage then
    some ("Verify storage: [" ++ c.sprint (config.get "storage") ++ "] failed. \nstorage must be " ++
      DTreeStorage)
  else
    match (config.get "parameters").asMap with
    | none => some ("Verify parameters: [" ++ c.sprint (config.get "parameters") ++
        "] failed. \nparameters must be provided")
    | some parameters =>
      let parentName := c.toStringWithFlag (parameters.get "parentname")
      if !parentName.2 || parentName.1 == "" then
        some ("Verify parentname: [" ++ c.sprint (parameters.get "parentname") ++
          "] failed. \nParentname must be provided for oceanstor-dtree backend\n")
      else
        let protocol := c.toStringWithFlag (parameters.get "protocol")
        if !protocol.2 || protocol.1 != "nfs" then
          some ("Verify protocol: [" ++ c.sprint (parameters.get "protocol") ++
            "] failed. \nProtocol must be provided and must be \"nfs\" for oceanstor-dtree backend\n")
        else
          let portalsErr := "Verify portals: [" ++ c.sprint (parameters.get "portals") ++
            "] failed. \nportals must be provided for oceanstor-dtree backend and just support " ++
            "one portal\n"
          if !parameters.has "portals" then some portalsErr
          else
            match (parameters.get "portals").asList with
            | some [_] => none
            | _ => some portalsErr

/-- `(*OceanstorDTreePlugin).Validate(ctx, param)`: here the client configuration comes first. -/
def OceanstorDTreePlugin.Validate (param : GoMap) : Option Err :=
  match c.getNewClientConfig param with
  | some e => some e
  | none =>
    match verifyOceanstorDTreeParam c param with
    | some e => some e
    | none =>
      match c.newClient param with
      | some e => some e
      | none => c.validateLogin param

end CsiPlugin
