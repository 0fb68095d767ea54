import CsiPlugin.Plugin.Config
set_option warningAsError true

/-!
# CsiPlugin.Plugin.ValidateInit

**Does `Validate` accept only what `Init` accepts?** For each plugin type: what a passing
`Validate` establishes about `config["parameters"]` (one inversion lemma each), and what `Init`
then does on those parameters when the array's login succeeds.

* `OceanstorDTreePlugin`: `Validate` checks everything `Init` checks, so `Init` succeeds.
* `OceanstorSanPlugin`: `Validate` never reads the product, so `Init` can still fail, with
  the NVMe message, for `roce` or `fc-nvme` on an array other than `DoradoV6`.
* `FusionStorageSanPlugin`: `Validate` stops at the protocol name and a non-empty portal list;
  `Init` on a fresh plugin succeeds exactly when its per-protocol portal checks pass (a host map
  of valid manage IPs for `scsi`, `proto.VerifyIscsiPortals` for `iscsi`), so
  `fusionstorage_validate_skips_portal_checks` finds configurations `Validate` accepts and `Init`
  rejects, unlike the two other plugins, whose `Validate` runs their `Init`'s portal checks.
-/

namespace CsiPlugin

variable (c : Collab)

/-! ### `OceanstorDTreePlugin` -/

/-- What a passing `verifyOceanstorDTreeParam` establishes about `config["parameters"]`. -/
theorem verifyOceanstorDTreeParam_eq_none {config : GoMap}
    (h : verifyOceanstorDTreeParam c config = none) :
    ∃ params : GoMap, config.get "parameters" = .obj params ∧
      (c.toStringWithFlag (params.get "protocol")).2 = true ∧
      (c.toStringWithFlag (params.get "protocol")).1 = "nfs" ∧
      params.has "portals" = true ∧ ∃ portal, (params.get "portals").asList = some [portal] := by
  rcases hm : (config.get "parameters").asMap with _ | params
  · simp only [verifyOceanstorDTreeParam, hm] at h
    split_ifs at h
  simp only [verifyOceanstorDTreeParam, hm] at h
  refine ⟨params, Value.asMap_eq_some.mp hm, ?_⟩
  split_ifs at h with _ _ hprot hhas
  rcases hl : (params.get "portals").asList with _ | _ | ⟨portal, _ | _⟩ <;> simp [hl] at h
  simp only [Bool.or_eq_true, Bool.not_eq_true', bne_iff_ne, ne_eq, not_or, not_not,
    Bool.not_eq_false] at hprot hhas
  exact ⟨hprot.1, hprot.2, hhas, portal, rfl⟩

/-- A passing `Validate` on a `oceanstor-dtree` configuration makes `Init` succeed whenever the
array's login does. -/
theorem OceanstorDTreePlugin.init_ok_of_validate {config params : GoMap} {keepLogin : Bool}
    {product : String} (hinit : c.init config keepLogin = .ok product)
    (hv : OceanstorDTreePlugin.Validate c config = none) (hp : config.get "parameters" = .obj params)
    (p : OceanstorDTreePlugin) :
    (OceanstorDTreePlugin.Init c p config params keepLogin).isOk := by
  have hver : verifyOceanstorDTreeParam c config = none := by
    unfold OceanstorDTreePlugin.Validate at hv
    split at hv
    · cases hv
    split at hv
    · cases hv
    · assumption
  obtain ⟨params', hp', hexist, hprot, hhas, portal, hl⟩ := verifyOceanstorDTreeParam_eq_none c hver
  rw [hp] at hp'
  cases hp'
  simp [OceanstorDTreePlugin.Init, hexist, hprot, hhas, hl, hinit, Except.isOk, Except.toBool]

/-! ### `OceanstorSanPlugin` -/

/-- What a passing `verifyOceanstorSanParam` establishes about `config["parameters"]`. -/
theorem verifyOceanstorSanParam_eq_none {config : GoMap}
    (h : verifyOceanstorSanParam c config = none) :
    ∃ params : GoMap, ∃ protocol, config.get "parameters" = .obj params ∧
      (params.get "protocol").asString = some protocol ∧ isSanProtocol protocol = true ∧
      (needsPortals protocol = true → ∃ portals ips, (params.get "portals").asList = some portals ∧
        c.verifyIscsiPortals portals = .ok ips) := by
  rcases hm : (config.get "parameters").asMap with _ | params
  · simp [verifyOceanstorSanParam, hm] at h
  rcases hpr : (params.get "protocol").asString with _ | protocol
  · simp [verifyOceanstorSanParam, hm, hpr] at h
  simp only [verifyOceanstorSanParam, hm, hpr] at h
  refine ⟨params, protocol, Value.asMap_eq_some.mp hm, hpr, ?_⟩
  split_ifs at h with hs hn
  · refine ⟨by simpa using hs, fun _ => ?_⟩
    rcases hl : (params.get "portals").asList with _ | portals
    · simp [hl] at h
    rcases hi : c.verifyIscsiPortals portals with e | ips
    · simp [hl, hi] at h
    exact ⟨portals, ips, rfl, hi⟩
  · exact ⟨by simpa using hs, fun h' => absurd h' hn⟩

/-- A passing `Validate` on a `oceanstor-san` configuration makes `Init` succeed whenever the
array's login does, except on `roce` and `fc-nvme` with an array other than `DoradoV6`: there
`Init` fails with the NVMe message, since `Validate` never reads the product. -/
theorem OceanstorSanPlugin.init_of_validate {config params : GoMap} {keepLogin : Bool}
    {product : String} (hinit : c.init config keepLogin = .ok product)
    (hv : OceanstorSanPlugin.Validate c config = none) (hp : config.get "parameters" = .obj params)
    (p : OceanstorSanPlugin) :
    ∃ protocol, (params.get "protocol").asString = some protocol ∧
      if needsNvmeProduct protocol && product != "DoradoV6" then
        OceanstorSanPlugin.Init c p config params keepLogin =
          .error ("The storage backend " ++ product ++ " does not support NVME protocol")
      else (OceanstorSanPlugin.Init c p config params keepLogin).isOk := by
  have hver : verifyOceanstorSanParam c config = none := by
    simp only [OceanstorSanPlugin.Validate] at hv
    split at hv
    · cases hv
    · assumption
  obtain ⟨params', protocol, hp', hpr, hs, hportals⟩ := verifyOceanstorSanParam_eq_none c hver
  rw [hp] at hp'
  cases hp'
  refine ⟨protocol, hpr, ?_⟩
  have hs' : (!isSanProtocol protocol) = false := by simp [hs]
  by_cases hn : needsPortals protocol = true
  · obtain ⟨portals, ips, hl, hi⟩ := hportals hn
    split_ifs with hnv <;>
      simp [OceanstorSanPlugin.Init, hpr, hs', hn, hl, hi, hinit, hnv, Except.isOk, Except.toBool]
  · split_ifs with hnv <;>
      simp [OceanstorSanPlugin.Init, hpr, hs', hn, hinit, hnv, Except.isOk, Except.toBool]

/-! ### `FusionStorageSanPlugin` -/

/-- What a passing `verifyFusionStorageSanParam` establishes about `config["parameters"]`. -/
theorem verifyFusionStorageSanParam_eq_none {config : GoMap}
    (h : verifyFusionStorageSanParam c config = none) :
    ∃ params : GoMap, ∃ protocol portals, config.get "parameters" = .obj params ∧
      (params.get "protocol").asString = some protocol ∧ (protocol = "scsi" ∨ protocol = "iscsi") ∧
      (params.get "portals").asList = some portals ∧ portals ≠ [] := by
  rcases hm : (config.get "parameters").asMap with _ | params
  · simp [verifyFusionStorageSanParam, hm] at h
  rcases hpr : (params.get "protocol").asString with _ | protocol
  · simp [verifyFusionStorageSanParam, hm, hpr] at h
  rcases hl : (params.get "portals").asList with _ | portals
  · simp only [verifyFusionStorageSanParam, hm, hpr, hl] at h
    split_ifs at h
  simp only [verifyFusionStorageSanParam, hm, hpr, hl] at h
  split_ifs at h with hs he
  refine ⟨params, protocol, portals, Value.asMap_eq_some.mp hm, hpr,
    by simpa [or_iff_not_imp_left] using hs, hl, by simpa using he⟩

/-- `Init` past its protocol and portal-list checks: the per-protocol portal checks, then the
login. -/
theorem FusionStorageSanPlugin.Init_of_portals (p : FusionStorageSanPlugin) {config params : GoMap}
    {keepLogin : Bool} {protocol : String} {portals : List Value}
    (hpr : (params.get "protocol").asString = some protocol)
    (hl : (params.get "portals").asList = some portals) (hempty : portals.isEmpty = false) :
    FusionStorageSanPlugin.Init c p config params keepLogin =
      match p.initProtocol c params protocol portals with
      | .error e => .error e
      | .ok p' =>
        match c.init config keepLogin with
        | .error e => .error e
        | .ok _ => .ok p' := by
  unfold FusionStorageSanPlugin.Init
  simp only [hpr, hl]
  exact if_neg (by simp [hempty])

/-- The two protocol names are written in lower case. -/
theorem toLower_scsi_iscsi : toLower "scsi" = "scsi" ∧ toLower "iscsi" = "iscsi" := by decide

/-- A passing `Validate` on a `fusionstorage-san` configuration gets `Init` on a fresh plugin past
its protocol and portal-list checks: when the array's login succeeds, `Init` succeeds exactly
when its per-protocol portal checks do — for `scsi` the first portal is a host map whose string
values are all valid manage IPs, for `iscsi` `proto.VerifyIscsiPortals` accepts the portals. -/
theorem FusionStorageSanPlugin.init_of_validate {config params : GoMap} {keepLogin : Bool}
    {product : String} (hinit : c.init config keepLogin = .ok product)
    (hv : FusionStorageSanPlugin.Validate c config = none)
    (hp : config.get "parameters" = .obj params) :
    ∃ protocol portals, (params.get "protocol").asString = some protocol ∧
      (params.get "portals").asList = some portals ∧
      (protocol = "scsi" → ((FusionStorageSanPlugin.Init c .NewPlugin config params keepLogin).isOk ↔
        ∃ scsi, (portals.headD .nil).asMap = some scsi ∧ (collectHosts c [] scsi.entries).isOk)) ∧
      (protocol = "iscsi" → ((FusionStorageSanPlugin.Init c .NewPlugin config params keepLogin).isOk ↔
        (c.verifyIscsiPortals portals).isOk)) := by
  have hver : verifyFusionStorageSanParam c config = none := by
    simp only [FusionStorageSanPlugin.Validate] at hv
    split at hv
    · cases hv
    · assumption
  obtain ⟨params', protocol, portals, hp', hpr, hs, hl, hne⟩ :=
    verifyFusionStorageSanParam_eq_none c hver
  rw [hp] at hp'
  cases hp'
  have hempty : portals.isEmpty = false := by simpa using hne
  refine ⟨protocol, portals, hpr, hl, fun hsc => ?_, fun hsc => ?_⟩ <;> subst hsc <;>
    rw [FusionStorageSanPlugin.Init_of_portals c _ hpr hl hempty]
  · rcases hm : (portals.head?.getD .nil).asMap with _ | scsi
    · simp [FusionStorageSanPlugin.initProtocol, toLower_scsi_iscsi.1, hm, Except.isOk, Except.toBool]
    · rcases hh : collectHosts c [] scsi.entries with e | hosts <;>
        simp [FusionStorageSanPlugin.initProtocol, FusionStorageSanPlugin.NewPlugin,
          toLower_scsi_iscsi.1, hm, hh, hinit, Except.isOk, Except.toBool]
  · rcases hi : c.verifyIscsiPortals portals with e | ips <;>
      simp [FusionStorageSanPlugin.initProtocol, toLower_scsi_iscsi.2, hi, hinit, Except.isOk,
        Except.toBool]

/-- The host loop fails on a map that holds a manage IP that does not parse. -/
theorem collectHosts_isOk_of_invalid {k ip : String} (hip : c.parseIP ip = false) :
    ∀ (hosts : List (String × String)) (l : List (String × Value)), (k, .str ip) ∈ l →
      (collectHosts c hosts l).isOk = false
  | hosts, (k', v) :: rest, hmem => by
    rcases List.mem_cons.mp hmem with h | h
    · cases h
      simp [collectHosts, Value.asString, hip, Except.isOk, Except.toBool]
    · unfold collectHosts
      cases v.asString with
      | none => exact collectHosts_isOk_of_invalid hip hosts rest h
      | some m =>
        by_cases hm : c.parseIP m = true
        · simpa [hm] using collectHosts_isOk_of_invalid hip _ rest h
        · simp [hm, Except.isOk, Except.toBool]

/-- **FusionStorage's `Validate` does not run its `Init`'s portal checks.** Take a
`fusionstorage-san` configuration whose parameters name the protocol `scsi` or `iscsi` with a
non-empty portal list, where the client configuration and the validation login pass: `Validate`
accepts it. Yet `Init` on a fresh plugin rejects it, before it logs in, on each portal check
`Validate` skips: for `scsi` when the first portal is no host map, with Init's own message, or when
the host map holds a manage IP that does not parse; for `iscsi` when `proto.VerifyIscsiPortals`
rejects the portals, with that error. -/
theorem fusionstorage_validate_skips_portal_checks (config params : GoMap) (keepLogin : Bool)
    (protocol : String) (portals : List Value) (hp : config.get "parameters" = .obj params)
    (hpr : params.get "protocol" = .str protocol) (hl : params.get "portals" = .list portals)
    (hne : portals ≠ []) (hcfg : c.getNewClientConfig config = none)
    (hlogin : c.validateLogin config = none) :
    ((protocol = "scsi" ∨ protocol = "iscsi") → FusionStorageSanPlugin.Validate c config = none) ∧
    (protocol = "scsi" → (portals.headD .nil).asMap = none →
      FusionStorageSanPlugin.Init c .NewPlugin config params keepLogin =
        .error "scsi portals convert to map[string]interface\x7b\x7d failed") ∧
    (protocol = "scsi" → ∀ scsi k ip, (portals.headD .nil).asMap = some scsi →
      scsi.get k = .str ip → c.parseIP ip = false →
      (FusionStorageSanPlugin.Init c .NewPlugin config params keepLogin).isOk = false) ∧
    (protocol = "iscsi" → ∀ e, c.verifyIscsiPortals portals = .error e →
      FusionStorageSanPlugin.Init c .NewPlugin config params keepLogin = .error e) := by
  have hempty : portals.isEmpty = false := by simpa using hne
  have hInit := @FusionStorageSanPlugin.Init_of_portals c .NewPlugin config params keepLogin protocol
    portals (by simp [hpr]) (by simp [hl]) hempty
  refine ⟨fun hs => ?_, fun hs hm => ?_, fun hs scsi k ip hm hk hip => ?_, fun hs e he => ?_⟩ <;>
    (try subst hs) <;> (try rw [List.headD_eq_head?_getD] at hm)
  · have hs' : (protocol == "scsi" || protocol == "iscsi") = true := by
      rcases hs with rfl | rfl <;> rfl
    simp [FusionStorageSanPlugin.Validate, verifyFusionStorageSanParam, hp, hpr, hl, hempty, hs',
      hcfg, hlogin]
  · rw [hInit]
    simp [FusionStorageSanPlugin.initProtocol, toLower_scsi_iscsi.1, hm]
  · have hbad := collectHosts_isOk_of_invalid c hip [] _ (GoMap.mem_entries_of_get hk)
    rcases hh : collectHosts c [] scsi.entries with e | hosts
    · rw [hInit]
      simp [FusionStorageSanPlugin.initProtocol, FusionStorageSanPlugin.NewPlugin,
        toLower_scsi_iscsi.1, hm, hh, Except.isOk, Except.toBool]
    · simp [hh, Except.isOk, Except.toBool] at hbad
  · rw [hInit]
    simp [FusionStorageSanPlugin.initProtocol, toLower_scsi_iscsi.2, he]

/-- A `scsi` configuration whose one portal is a plain address instead of a host map: `Validate`
accepts it, and `Init` rejects it. -/
theorem fusionstorage_validate_skips_portal_checks_plain :
    let c : Collab := ⟨fun _ => "", fun _ => true, fun _ => .ok [],
      fun v => ((v.asString).getD "", (v.asString).isSome), fun _ _ => .ok "V5",
      fun _ => none, fun _ => none, fun _ => none⟩
    let params : GoMap := [("protocol", .str "scsi"), ("portals", .list [.str "192.168.1.1"])]
    FusionStorageSanPlugin.Validate c [("parameters", .obj params)] = none ∧
      FusionStorageSanPlugin.Init c .NewPlugin [("parameters", .obj params)] params true =
        .error "scsi portals convert to map[string]interface\x7b\x7d failed" := by
  intro c params
  have h := fusionstorage_validate_skips_portal_checks c [("parameters", .obj params)] params true "scsi"
    [.str "192.168.1.1"] rfl rfl rfl (List.cons_ne_nil _ _) rfl rfl
  exact ⟨h.1 (.inl rfl), h.2.1 rfl rfl⟩

/-! ### All three plugin types -/

end CsiPlugin
