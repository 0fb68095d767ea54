import CsiPlugin.Plugin.Config
import CsiPlugin.Plugin.SessionRuns
set_option warningAsError true

/-!
# CsiPlugin.Plugin.Capabilities

**`UpdateBackendCapabilities` of an `OceanstorSanPlugin`.** The embedded `OceanstorPlugin` queries
the array; on an error the plugin goes offline and returns the error. On success it goes online
and limits two of the capabilities the array reported:

* `SupportMetro` (`updateHyperMetroCapability`) becomes whether the plugin has a metro remote
  and both it and the remote are online;
* `SupportReplication` (`updateReplicaCapability`) becomes whether it has a replica remote.

Both rewrite a capability only when the array advertised it (the key is present and not
`false`); `limitCapability` is that shared shape. The embedded plugin's query is not under src/
and is an argument (`base`), as are the plugin's remotes.

`capability_report` states what the report holds, and that the call's effect on the session
state is the `refresh` step of the run model in `SessionRuns`.
-/

namespace CsiPlugin

/-- `if v, exist := capabilities[key]; !exist || v == false { return }`, then
`capabilities[key] = supported`: an advertised capability is replaced by `supported`. -/
def limitCapability (key : String) (supported : Bool) (capabilities : GoMap) : GoMap :=
  if !capabilities.has key || (capabilities.get key).isBool false then capabilities
  else capabilities.set key (.bool supported)

namespace OceanstorSanPlugin

/-- `p.updateHyperMetroCapability(capabilities)`, with `p.metroRemotePlugin` as `metroRemotePlugin`. -/
def updateHyperMetroCapability (x : OceanstorSanPlugin)
    (metroRemotePlugin : Option OceanstorSanPlugin) (capabilities : GoMap) : GoMap :=
  limitCapability "SupportMetro"
    (match metroRemotePlugin with
     | none => false
     | some r => x.storageOnline && r.storageOnline)
    capabilities

/-- `p.updateReplicaCapability(capabilities)`; `replicaRemote` is `p.replicaRemotePlugin != nil`. -/
def updateReplicaCapability (replicaRemote : Bool) (capabilities : GoMap) : GoMap :=
  limitCapability "SupportReplication" replicaRemote capabilities

/-- `(*OceanstorSanPlugin).UpdateBackendCapabilities()`, given what the embedded plugin's query
returned (`base`): the plugin after the call, and the capabilities, specifications and error it
returns. -/
def UpdateBackendCapabilities (x : OceanstorSanPlugin) (metroRemotePlugin : Option OceanstorSanPlugin)
    (replicaRemote : Bool) (base : Except Err (GoMap × GoMap)) :
    OceanstorSanPlugin × (Option GoMap × Option GoMap × Option Err) :=
  match base with
  | .error err => (x.updateOnline false, (none, none, some err))
  | .ok (capabilities, specifications) =>
    let x := x.updateOnline true
    (x, (some (updateReplicaCapability replicaRemote
      (x.updateHyperMetroCapability metroRemotePlugin capabilities)), some specifications, none))

end OceanstorSanPlugin

/-! ### The report -/

/-- The array advertises `key`: the capability is present and not `false`. -/
def GoMap.advertises (capabilities : GoMap) (key : String) : Bool :=
  capabilities.has key && !(capabilities.get key).isBool false

theorem limitCapability_get (key k : String) (supported : Bool) (capabilities : GoMap) :
    (limitCapability key supported capabilities).get k =
      if k = key ∧ capabilities.advertises key then .bool supported else capabilities.get k := by
  unfold limitCapability GoMap.advertises
  by_cases hk : k = key
  · subst hk
    cases capabilities.has k <;> cases (capabilities.get k).isBool false <;> simp
  · simp only [hk, false_and, if_false]
    split <;> simp [hk]

/-- Limiting one capability leaves whether another is advertised alone. -/
theorem limitCapability_advertises_ne {key k : String} (supported : Bool) (capabilities : GoMap)
    (hk : k ≠ key) : (limitCapability key supported capabilities).advertises k = capabilities.advertises k := by
  unfold limitCapability
  split
  · rfl
  · simp [GoMap.advertises, GoMap.has, GoMap.set, GoMap.get, List.lookup_cons, beq_false_of_ne hk]

/-- A limited capability reads `true` only when it was advertised and is supported. -/
theorem limitCapability_true {key : String} {supported : Bool} {capabilities : GoMap}
    (h : (limitCapability key supported capabilities).get key = .bool true) : supported = true := by
  rw [limitCapability_get] at h
  cases ha : capabilities.advertises key
  · -- not advertised: the array's own value, which cannot be `true`
    simp only [ha, and_false, if_false, GoMap.get] at h
    cases hl : capabilities.lookup key <;>
      simp_all [GoMap.advertises, GoMap.has, GoMap.get]
  · simpa [ha] using h

open OceanstorSanPlugin in
/-- **The capability report.** `UpdateBackendCapabilities` changes the session state as the run
model's `refresh` step does, with the query's success as the new `storageOnline`. A failed query
is returned as it is. After a successful one, `SupportMetro` and `SupportReplication`, where the
array advertised them, are replaced by whether a metro remote is configured and online (the
plugin itself is online by then) and whether a replica remote is configured; every other
capability is the array's. So each of the two reads `true` only when its remote is there, and
for metro, online. -/
theorem capability_report (x : OceanstorSanPlugin) (metroRemotePlugin : Option OceanstorSanPlugin)
    (replicaRemote : Bool) (base : Except Err (GoMap × GoMap)) :
    (∀ (s : Sys) (side : Side), s.pair.get side = x →
      s.refresh side base.isOk =
        { s with
          pair := s.pair.set side (x.UpdateBackendCapabilities metroRemotePlugin replicaRemote base).1 }) ∧
    (∀ err, base = .error err →
      (x.UpdateBackendCapabilities metroRemotePlugin replicaRemote base).2 = (none, none, some err)) ∧
    ∀ capabilities specifications, base = .ok (capabilities, specifications) →
      ∃ caps, (x.UpdateBackendCapabilities metroRemotePlugin replicaRemote base).2 =
          (some caps, some specifications, none) ∧
        caps.get "SupportMetro" =
          (if capabilities.advertises "SupportMetro" then .bool (metroRemotePlugin.any (·.storageOnline))
           else capabilities.get "SupportMetro") ∧
        caps.get "SupportReplication" =
          (if capabilities.advertises "SupportReplication" then .bool replicaRemote
           else capabilities.get "SupportReplication") ∧
        (caps.get "SupportMetro" = .bool true → ∃ r, metroRemotePlugin = some r ∧ r.storageOnline) ∧
        (caps.get "SupportReplication" = .bool true → replicaRemote) ∧
        ∀ k, k ≠ "SupportMetro" → k ≠ "SupportReplication" → caps.get k = capabilities.get k := by
  refine ⟨fun s side hx => ?_, fun err he => by subst he; rfl, fun capabilities specifications he => ?_⟩
  · cases base <;> simp [Sys.refresh, hx, UpdateBackendCapabilities, Except.isOk, Except.toBool]
  subst he
  have hmetro : (match metroRemotePlugin with
      | none => false
      | some r => (x.updateOnline true).storageOnline && r.storageOnline) =
      metroRemotePlugin.any (·.storageOnline) := by
    cases metroRemotePlugin <;> rfl
  refine ⟨_, rfl, ?_, ?_, fun h => ?_, fun h => ?_, fun k hm hr => ?_⟩
  · simp only [updateReplicaCapability, updateHyperMetroCapability, limitCapability_get, hmetro]
    simp
  · simp [updateReplicaCapability, updateHyperMetroCapability, limitCapability_get,
      limitCapability_advertises_ne]
  · have hr : (updateHyperMetroCapability (x.updateOnline true) metroRemotePlugin capabilities).get
        "SupportMetro" = .bool true := by
      simpa [updateReplicaCapability, limitCapability_get] using h
    have := hmetro ▸ limitCapability_true hr
    cases metroRemotePlugin <;> simp_all
  · exact limitCapability_true h
  · simp [updateReplicaCapability, updateHyperMetroCapability, limitCapability_get, hm, hr]

/-- An array that advertises metro support, with the remote offline: the report says no. -/
example :
    ((OceanstorSanPlugin.initialized.UpdateBackendCapabilities
      (some { OceanstorSanPlugin.initialized with storageOnline := false }) false
      (.ok ([("SupportMetro", .bool true), ("SupportThin", .bool true)], []))).2.1.map
        (·.get "SupportMetro")) = some (.bool false) := rfl

end CsiPlugin
