import CsiPlugin.Driver.ControllerCalls
import CsiPlugin.Driver.CreateVolumeContract
set_option warningAsError true

/-!
# CsiPlugin.Driver.ControllerContract

**What the controller's methods promise.** Over the call discipline of `ControllerCalls`:

* `ControllerExpandVolume` (`controller_expand_volume`): when it reaches the plugin, and that the
  one call it makes is the one the backend's storage type selects, expanding to `RequiredBytes`;
* `CreateVolume` (`create_volume_reply`, `create_volume_panic`): what a returned volume promises,
  created in the pool `backend.SelectStoragePool` chose or imported as the PVC's annotations name,
  and its one panic, at `Pools[0]` of a backend with no pools;
* the IDs the controller hands out (`volume_ids_route_back`, `snapshot_ids_route_back`): when
  `utils.SplitVolumeId` and `utils.SplitSnapshotId` split them back into their parts, later
  requests on them act on the volume or snapshot they name; and unpublishing detaches what
  publishing attached (`publish_unpublish_pair`).

What a method can do is inverted once, in a lemma per function (`ControllerExpandVolume_cases`,
`createVolume_cases`, `createVolume_ok`, `manageVolume_ok`, `CreateVolume_ok`,
`CreateSnapshot_ok`), by a case split on what each step read; the theorems are assembled from
those.
-/

namespace CsiPlugin

/-! ### ControllerExpandVolume -/

/-- The storage types that expand whatever the volume's capability. -/
def expandableStorages : List String := ["fusionstorage-nas", "oceanstor-nas", "oceanstor-dtree"]

/-- Which volumes `isSupportExpandVolume` lets expand. -/
theorem isSupportExpandVolume_fst (req : ControllerExpandVolumeRequest) (b : Backend) :
    (isSupportExpandVolume req b).1 = true ↔ b.storage ∈ expandableStorages ∨
      ∃ cap, req.volumeCapability = some cap ∧
        ¬(cap.accessMode = .multiNodeMultiWriter ∧ cap.isBlock = false) ∧
        cap.accessMode ≠ .multiNodeReaderOnly := by
  unfold isSupportExpandVolume
  by_cases hs : b.storage = "fusionstorage-nas" ∨ b.storage = "oceanstor-nas" ∨ b.storage = "oceanstor-dtree"
  · simp [hs, expandableStorages]
  · simp only [hs, if_false, expandableStorages, List.mem_cons, List.not_mem_nil, or_false, false_or]
    rcases req.volumeCapability with _ | cap
    · simp
    · dsimp only
      split
      · simp_all
      · split <;> simp_all

/-- `isSupportExpandVolume` refuses only with an error, so `err.Error()` does not panic. -/
theorem isSupportExpandVolume_snd (req : ControllerExpandVolumeRequest) (b : Backend)
    (h : (isSupportExpandVolume req b).1 = false) : (isSupportExpandVolume req b).2.isSome := by
  unfold isSupportExpandVolume at h ⊢
  by_cases hs : b.storage = "fusionstorage-nas" ∨ b.storage = "oceanstor-nas" ∨ b.storage = "oceanstor-dtree"
  · simp [hs] at h
  · simp only [hs, if_false] at h ⊢
    rcases hcap : req.volumeCapability with _ | cap <;> simp only [hcap] at h ⊢
    · rfl
    · split
      · rfl
      · rename_i h₁
        split
        · rfl
        · rename_i h₂
          rw [if_neg h₁, if_neg h₂] at h
          cases h

/-- The checks a `ControllerExpandVolume` request passes before the plugin is called, with the
capacity range and the backend they read. -/
structure ExpandAdmits (c : Cluster) (req : ControllerExpandVolumeRequest) (cr : CapacityRange)
    (bk : Backend) : Prop where
  volumeId : req.volumeId ≠ ""
  capacityRange : req.capacityRange = some cr
  limit : ¬(0 < cr.limitBytes ∧ cr.limitBytes < cr.requiredBytes)
  backend : c.getBackendWithFresh (c.splitVolumeId req.volumeId).1 = some bk
  supported : (isSupportExpandVolume req bk).1 = true

/-- What a run of `ControllerExpandVolume` does: on a request that fails one of its checks, it
refuses with an error and calls no plugin; on one that passes them all, it makes the one
expansion call the backend's storage type selects, and a response reports `RequiredBytes`. -/
theorem ControllerExpandVolume_cases (c : Cluster) (req : ControllerExpandVolumeRequest)
    (calls : List PluginCall) :
    (∃ err, ControllerExpandVolume c req calls = .ok ((none, some err), calls) ∧
      ∀ cr bk, ¬ExpandAdmits c req cr bk) ∨
    ∃ cr bk, ExpandAdmits c req cr bk ∧ ∃ r, ControllerExpandVolume c req calls =
        .ok (r, calls ++ [if bk.storage = DTreeStorage then
          .expandDTreeVolume (c.splitVolumeId req.volumeId).1 [("name", .str (c.splitVolumeId req.volumeId).2),
            ("parentname", bk.parameters.get "parentname"), ("spacehardquota", .int cr.requiredBytes)]
          else .expandVolume (c.splitVolumeId req.volumeId).1 (c.splitVolumeId req.volumeId).2 cr.requiredBytes]) ∧
      ∀ resp, r.1 = some resp → resp.capacityBytes = cr.requiredBytes := by
  unfold ControllerExpandVolume
  simp only []
  by_cases hv : req.volumeId = ""
  · exact .inl ⟨_, by simp [hv]; rfl, fun _ _ h => h.volumeId hv⟩
  rcases hcr : req.capacityRange with _ | cr
  · exact .inl ⟨_, by simp [hv]; rfl, fun _ _ h => absurd h.capacityRange (by simp [hcr])⟩
  by_cases hl : 0 < cr.limitBytes ∧ cr.limitBytes < cr.requiredBytes
  · refine .inl ⟨_, by simp [hv, hl]; rfl, fun cr' _ h => h.limit ?_⟩
    obtain rfl : cr = cr' := Option.some.inj (hcr.symm.trans h.capacityRange)
    exact hl
  rcases hb : c.getBackendWithFresh (c.splitVolumeId req.volumeId).1 with _ | bk
  · exact .inl ⟨_, by simp [hv, hl, hb]; rfl, fun _ _ h => absurd h.backend (by simp [hb])⟩
  have hs := isSupportExpandVolume_snd req bk
  rcases hsup : isSupportExpandVolume req bk with ⟨_ | _, _ | err⟩
  · simp [hsup] at hs
  · refine .inl ⟨_, by simp [hv, hl, hb, hsup]; rfl, fun _ bk' h => ?_⟩
    obtain rfl : bk = bk' := Option.some.inj (hb.symm.trans h.backend)
    exact absurd h.supported (by simp [hsup])
  all_goals
    refine .inr ⟨cr, bk, ⟨hv, hcr, hl, hb, by simp [hsup]⟩, ?_⟩
    by_cases hd : bk.storage = DTreeStorage
    · rcases hpl : c.plugin (.expandDTreeVolume (c.splitVolumeId req.volumeId).1
        [("name", .str (c.splitVolumeId req.volumeId).2), ("parentname", bk.parameters.get "parentname"),
          ("spacehardquota", .int cr.requiredBytes)]) with err | b <;> simp [hv, hl, hsup, hd, hpl]
    · rcases hpl : c.plugin (.expandVolume (c.splitVolumeId req.volumeId).1 (c.splitVolumeId req.volumeId).2
        cr.requiredBytes) with err | b <;> simp [hv, hl, hsup, hd, hpl]

section CreateVolume

variable {c : Cluster} {req : CreateVolumeRequest} {calls calls' : List PluginCall}

/-- `validateCapacity` accepts exactly a volume of the requested size. -/
theorem validateCapacity_none {vol : Volume} (h : validateCapacity req vol calls = .ok (none, calls')) :
    ∃ capacity, req.capacityRange = some capacity ∧ vol.size = .ok capacity := by
  unfold validateCapacity at h
  rcases hs : vol.size with err | actual <;> simp [hs] at h
  rcases hcap : req.capacityRange with _ | capacity <;> simp [hcap, deref] at h
  by_cases he : actual = capacity <;> simp [he] at h
  exact ⟨capacity, rfl, he ▸ rfl⟩

theorem validateCapacity_ne_error {vol : Volume} {b : Int} (hb : req.capacityRange = some b)
    (e : GoPanic) : validateCapacity req vol calls ≠ .error e := by
  unfold validateCapacity
  rcases vol.size with err | actual <;> simp [hb]
  split <;> simp

/-- `processCreateVolumeParametersAfterSelect` writes the keys of the chosen pools only. -/
theorem processCreateVolumeParametersAfterSelect_get_ne {k : String}
    (hk : k ∉ ["storagepool", "metroDomain", "vStorePairID", "remoteStoragePool", "accountName"])
    (ps : GoMap) (pool : StoragePool) (remote : Option StoragePool) :
    (processCreateVolumeParametersAfterSelect c ps pool remote).get k = ps.get k := by
  simp only [List.mem_cons, List.not_mem_nil, or_false, not_or] at hk
  obtain ⟨h1, h2, h3, h4, h5⟩ := hk
  unfold processCreateVolumeParametersAfterSelect
  cases remote <;> simp [h1, h2, h3, h4, h5]

theorem processCreateVolumeParametersAfterSelect_storagepool (ps : GoMap) (pool : StoragePool)
    (remote : Option StoragePool) :
    (processCreateVolumeParametersAfterSelect c ps pool remote).get "storagepool" = .str pool.name := by
  unfold processCreateVolumeParametersAfterSelect
  cases remote <;> simp

/-- What a run of `createVolume` can do: reply with an error and call nothing, or call the plugin
of the pool `backend.SelectStoragePool` chose, once, under the request's name, with the map
`processCreateVolumeParameters` built completed for the chosen pools, and answer from the
plugin's reply. -/
theorem createVolume_cases {r : Option CreateVolumeResponse × Option Err}
    (h : createVolume c req calls = .ok (r, calls')) :
    (calls' = calls ∧ r.1 = none) ∨
    ∃ ps b pool remote, processCreateVolumeParameters c.toHelpers req = .ok (some ps, none) ∧
      req.capacityRange = some b ∧ c.selectStoragePool b ps = .ok (pool, remote) ∧
      calls' = calls ++ [.createVolume pool req.name (processCreateVolumeParametersAfterSelect c ps pool remote)] ∧
      r = match c.plugin (.createVolume pool req.name (processCreateVolumeParametersAfterSelect c ps pool remote)) with
        | .error err => (none, some (statusError "Internal" err))
        | .ok vol => (some ⟨some (makeCreateVolumeResponse req vol pool)⟩, none) := by
  unfold createVolume at h
  rcases hp : processCreateVolumeParameters c.toHelpers req with e | ⟨ps, _ | err⟩ <;>
    simp [hp, liftNilDeref] at h
  rotate_left
  · exact .inl ⟨h.2.symm, by rw [← h.1]⟩
  rcases hcap : req.capacityRange with _ | b <;> simp [hcap, deref] at h
  rcases hs : c.selectStoragePool b (ps.getD []) with err | ⟨pool, remote⟩ <;> simp [hs] at h
  · exact .inl ⟨h.2.symm, by rw [← h.1]⟩
  rcases ps with _ | ps <;> simp [nonNilMap] at h
  refine .inr ⟨ps, b, pool, remote, rfl, rfl, hs, ?_⟩
  rcases hpl : c.plugin (.createVolume pool req.name (processCreateVolumeParametersAfterSelect c ps pool remote))
    with err | vol <;> simp [hpl] at h ⊢ <;> exact ⟨h.2.symm, h.1.symm⟩

/-- A volume `createVolume` returns: the plugin of the pool `backend.SelectStoragePool` chose for
the required bytes and the map `processCreateVolumeParameters` built created it. -/
theorem createVolume_ok {v : CsiVolume} (h : createVolume c req calls = .ok ((some ⟨some v⟩, none), calls')) :
    ∃ ps b pool remote vol, processCreateVolumeParameters c.toHelpers req = .ok (some ps, none) ∧
      req.capacityRange = some b ∧ c.selectStoragePool b ps = .ok (pool, remote) ∧
      calls' = calls ++ [.createVolume pool req.name (processCreateVolumeParametersAfterSelect c ps pool remote)] ∧
      c.plugin (.createVolume pool req.name (processCreateVolumeParametersAfterSelect c ps pool remote)) = .ok vol ∧
      v = makeCreateVolumeResponse req vol pool := by
  rcases createVolume_cases h with ⟨-, h₁⟩ | ⟨ps, b, pool, remote, hp, hb, hs, rfl, hr⟩
  · cases h₁
  rcases hpl : c.plugin (.createVolume pool req.name (processCreateVolumeParametersAfterSelect c ps pool remote))
    with err | vol <;> simp only [hpl, Prod.mk.injEq, Option.some.injEq, CreateVolumeResponse.mk.injEq,
      reduceCtorEq, false_and] at hr
  exact ⟨ps, b, pool, remote, vol, hp, hb, hs, rfl, hpl, hr.1⟩

/-- On an accepted request `createVolume` does not panic. -/
theorem createVolume_ne_error (ha : checkCreateVolumeRequest c.toHelpers req = none) (e : GoPanic) :
    createVolume c req calls ≠ .error e := by
  obtain ⟨b, hb, -⟩ := capacityRange_of_check c.toHelpers ha
  obtain ⟨⟨ps, err⟩, hp, hsome, -⟩ := processCreateVolumeParameters_shape c.toHelpers hb
  intro h
  unfold createVolume at h
  rcases err with _ | err <;> simp [hp, liftNilDeref] at h
  obtain ⟨ps, rfl⟩ := Option.isSome_iff_exists.mp (hsome rfl)
  simp only [hb, deref_some, ControllerM.bind_apply, ControllerM.pure_apply] at h
  rcases hs : c.selectStoragePool b ps with err | ⟨pool, remote⟩ <;> simp [hs] at h
  rcases hpl : c.plugin (.createVolume pool req.name (processCreateVolumeParametersAfterSelect c ps pool remote))
    with err | vol <;> simp [hpl] at h

/-- A volume `manageVolume` imports: the backend's plugin found it, with the requested size. -/
theorem manageVolume_ok {n b : String} {v : CsiVolume}
    (h : manageVolume c req n b calls = .ok ((some ⟨some v⟩, none), calls')) :
    req.volumeContentSource = none ∧ ∃ bk ps vol pool capacity, c.getBackendWithFresh b = some bk ∧
      calls' = calls ++ [.queryVolume b n ps] ∧ c.plugin (.queryVolume b n ps) = .ok vol ∧
      req.capacityRange = some capacity ∧ vol.size = .ok capacity ∧ bk.pools[0]? = some pool ∧
      v = getVolumeResponse (getAccessibleTopologies req pool) (getAttributes req vol b) (b ++ "." ++ n)
        capacity := by
  unfold manageVolume at h
  rcases hb : c.getBackendWithFresh b with _ | bk <;> simp [hb] at h
  rcases hsrc : req.volumeContentSource with _ | src <;> simp [hsrc] at h
  rcases hp : processCreateVolumeParameters c.toHelpers req with e | ⟨ps, _ | err⟩ <;>
    simp [hp, liftNilDeref] at h
  rcases hv : c.validateBackend bk (ps.getD []) with _ | err <;> simp [hv] at h
  rcases hpl : c.plugin (.queryVolume b n (ps.getD [])) with err | vol <;> simp [hpl] at h
  rcases hvc : validateCapacity req vol (calls ++ [.queryVolume b n (ps.getD [])]) with
    e | ⟨_ | err, calls₁⟩ <;> simp [hvc] at h
  have hc₁ : calls₁ = calls ++ [.queryVolume b n (ps.getD [])] := NoCall.validateCapacity req vol _ _ _ hvc
  obtain ⟨capacity, hcap, hsize⟩ := validateCapacity_none hvc
  rcases hpool : bk.pools[0]? with _ | pool <;> simp [index, hpool] at h
  refine ⟨rfl, bk, _, vol, pool, capacity, rfl, ?_, hpl, hcap, hsize, hpool, ?_⟩
  · rw [← h.2, hc₁]
  · simp [← h.1, hcap]

/-- On an accepted request, `manageVolume` panics only at `selectBackend.Pools[0]`, on a backend
with no pools. -/
theorem manageVolume_error {n b : String} {e : GoPanic} (ha : checkCreateVolumeRequest c.toHelpers req = none)
    (h : manageVolume c req n b calls = .error e) :
    e = .indexOutOfRange 0 0 ∧ ∃ bk, c.getBackendWithFresh b = some bk ∧ bk.pools = [] := by
  obtain ⟨cap, hcap, -⟩ := capacityRange_of_check c.toHelpers ha
  obtain ⟨⟨ps, err⟩, hp, -, -⟩ := processCreateVolumeParameters_shape c.toHelpers hcap
  unfold manageVolume at h
  rcases hb : c.getBackendWithFresh b with _ | bk <;> simp [hb] at h
  rcases hsrc : req.volumeContentSource with _ | src <;> simp [hsrc] at h
  rcases err with _ | err <;> simp [hp, liftNilDeref] at h
  rcases hv : c.validateBackend bk (ps.getD []) with _ | err <;> simp [hv] at h
  rcases hpl : c.plugin (.queryVolume b n (ps.getD [])) with err | vol <;> simp [hpl] at h
  rcases hvc : validateCapacity req vol (calls ++ [.queryVolume b n (ps.getD [])]) with
    e' | ⟨_ | err, calls₁⟩ <;> simp [hvc] at h
  · exact absurd hvc (validateCapacity_ne_error hcap e')
  rcases hpool : bk.pools with _ | ⟨pool, pools⟩ <;> simp [index, hpool] at h
  exact ⟨h.symm, bk, rfl, hpool⟩

/-- Where `CreateVolume` sends a request: to an error reply that calls nothing, or, once
`checkCreateVolumeRequest` accepted it, to `createVolume`, or to `manageVolume` when the PVC
names both the volume and the backend to import. -/
theorem CreateVolume_route (c : Cluster) (req : CreateVolumeRequest) (calls : List PluginCall) :
    (∃ err, CreateVolume c req calls = .ok ((none, some err), calls)) ∨
    checkCreateVolumeRequest c.toHelpers req = none ∧
      (CreateVolume c req calls = createVolume c req calls ∨
        ∃ annotations n b, c.getVolumeConfiguration req.name = .ok annotations ∧
          annotations.lookup (c.driverName ++ annManageVolumeName) = some n ∧
          annotations.lookup (c.driverName ++ annManageBackendName) = some b ∧
          CreateVolume c req calls = manageVolume c req n b calls) := by
  unfold CreateVolume
  rcases ha : checkCreateVolumeRequest c.toHelpers req with _ | err
  swap
  · exact .inl ⟨err, rfl⟩
  rcases hcfg : c.getVolumeConfiguration req.name with err | annotations
  · by_cases hc : contains err "PVCNotFound"
    · exact .inr ⟨rfl, .inl (by simp [hc])⟩
    · exact .inl ⟨err, by simp [hc]⟩
  · rcases hn : annotations.lookup (c.driverName ++ annManageVolumeName) with _ | n <;>
      rcases hb : annotations.lookup (c.driverName ++ annManageBackendName) with _ | b
    · exact .inr ⟨rfl, .inl (by simp [hn, hb])⟩
    · exact .inl ⟨_, by simp [hn, hb]; rfl⟩
    · exact .inl ⟨_, by simp [hn, hb]; rfl⟩
    · exact .inr ⟨rfl, .inr ⟨annotations, n, b, rfl, hn, hb, by simp [hn, hb]⟩⟩

/-- A volume `CreateVolume` returns comes from `createVolume`, or from `manageVolume` when the PVC
names both the volume and the backend to import. -/
theorem CreateVolume_ok {v : CsiVolume} (h : CreateVolume c req calls = .ok ((some ⟨some v⟩, none), calls')) :
    checkCreateVolumeRequest c.toHelpers req = none ∧
    (createVolume c req calls = .ok ((some ⟨some v⟩, none), calls') ∨
      ∃ annotations n b, c.getVolumeConfiguration req.name = .ok annotations ∧
        annotations.lookup (c.driverName ++ annManageVolumeName) = some n ∧
        annotations.lookup (c.driverName ++ annManageBackendName) = some b ∧
        manageVolume c req n b calls = .ok ((some ⟨some v⟩, none), calls')) := by
  rcases CreateVolume_route c req calls with ⟨err, h'⟩ | ⟨ha, h' | ⟨annotations, n, b, hcfg, hn, hb, h'⟩⟩ <;>
    rw [h'] at h
  · simp at h
  · exact ⟨ha, .inl h⟩
  · exact ⟨ha, .inr ⟨annotations, n, b, hcfg, hn, hb, h⟩⟩

/-- The volume-creation call of a `CreateVolume` request: under the request's name, with the map
`processCreateVolumeParameters` built from an accepted request, completed for the chosen pools. The
reply is the plugin's answer. -/
theorem CreateVolume_call {r : Option CreateVolumeResponse × Option Err} {pool : StoragePool} {name : String}
    {ps : GoMap} (h : CreateVolume c req calls = .ok (r, calls ++ [.createVolume pool name ps])) :
    name = req.name ∧ checkCreateVolumeRequest c.toHelpers req = none ∧
    (r = match c.plugin (.createVolume pool name ps) with
      | .error err => (none, some (statusError "Internal" err))
      | .ok vol => (some ⟨some (makeCreateVolumeResponse req vol pool)⟩, none)) ∧
    ∃ ps₀ remote, processCreateVolumeParameters c.toHelpers req = .ok (some ps₀, none) ∧
      ps = processCreateVolumeParametersAfterSelect c ps₀ pool remote := by
  rcases CreateVolume_route c req calls with ⟨err, h'⟩ | ⟨ha, h' | ⟨annotations, n, b, -, -, -, h'⟩⟩ <;>
    rw [h'] at h
  · simp at h
  · rcases createVolume_cases h with ⟨h₁, -⟩ | ⟨ps₀, -, pool', remote, hp, -, -, h₁, hr⟩
    · simp at h₁
    · simp only [List.append_cancel_left_eq, List.cons.injEq, PluginCall.createVolume.injEq, and_true] at h₁
      obtain ⟨rfl, rfl, rfl⟩ := h₁
      refine ⟨rfl, ha, ?_, ps₀, remote, hp, rfl⟩
      subst hr
      cases c.plugin (.createVolume pool req.name (processCreateVolumeParametersAfterSelect c ps₀ pool remote)) <;>
        rfl
  · rcases manageVolume_callsOnce c req n b _ _ _ h with h₁ | ⟨pc, ⟨ps', rfl⟩, h₁, -⟩ <;> simp at h₁

end CreateVolume

/-- **What a volume `CreateVolume` returns promises.** The request passed
`checkCreateVolumeRequest`, and the response reports the requested capacity, which is positive.
Either the volume was created: `processCreateVolumeParameters` built a map from the request,
`backend.SelectStoragePool` chose a pool for the required bytes and that map, and the plugin of
that pool created the volume under the request's name, from the map completed for the chosen
pools; the volume ID joins the pool's backend and the array's name for the volume, and the
response carries the request's content source. Or it was imported: the PVC names the volume and
the backend, the backend's plugin found the volume with exactly the requested size, the volume
ID joins the two names, and the request had no content source. In both cases the plugin was
called once. -/
theorem create_volume_reply (c : Cluster) (req : CreateVolumeRequest) (calls calls' : List PluginCall)
    (v : CsiVolume) (h : CreateVolume c req calls = .ok ((some ⟨some v⟩, none), calls')) :
    checkCreateVolumeRequest c.toHelpers req = none ∧
    (∃ b, req.capacityRange = some b ∧ 0 < b ∧ v.capacityBytes = b) ∧
    ((∃ ps b pool remote vol, processCreateVolumeParameters c.toHelpers req = .ok (some ps, none) ∧
        req.capacityRange = some b ∧ c.selectStoragePool b ps = .ok (pool, remote) ∧
        calls' = calls ++ [.createVolume pool req.name (processCreateVolumeParametersAfterSelect c ps pool remote)] ∧
        c.plugin (.createVolume pool req.name (processCreateVolumeParametersAfterSelect c ps pool remote)) = .ok vol ∧
        v.volumeId = pool.parent ++ "." ++ vol.volumeName ∧ v.contentSource = req.volumeContentSource) ∨
      (∃ annotations b n ps vol, c.getVolumeConfiguration req.name = .ok annotations ∧
        annotations.lookup (c.driverName ++ annManageVolumeName) = some n ∧
        annotations.lookup (c.driverName ++ annManageBackendName) = some b ∧
        calls' = calls ++ [.queryVolume b n ps] ∧ c.plugin (.queryVolume b n ps) = .ok vol ∧
        vol.size = .ok v.capacityBytes ∧ v.volumeId = b ++ "." ++ n ∧ req.volumeContentSource = none)) := by
  obtain ⟨ha, hcases⟩ := CreateVolume_ok h
  obtain ⟨b, hb, hpos⟩ := capacityRange_of_check c.toHelpers ha
  rcases hcases with hc | ⟨annotations, n, bn, hcfg, hn, hbn, hm⟩
  · obtain ⟨ps, b', pool, remote, vol, hp, hb', hs, rfl, hpl, rfl⟩ := createVolume_ok hc
    refine ⟨ha, ⟨b, hb, hpos, ?_⟩, .inl ⟨ps, b', pool, remote, vol, hp, hb', hs, rfl, hpl, ?_, ?_⟩⟩ <;>
      cases hsrc : req.volumeContentSource <;>
      simp [makeCreateVolumeResponse, getVolumeResponse, hsrc, hb]
  · obtain ⟨hsrc, bk, ps, vol, pool, capacity, -, rfl, hpl, hcap, hsize, -, rfl⟩ := manageVolume_ok hm
    obtain rfl : capacity = b := Option.some.inj (hcap.symm.trans hb)
    exact ⟨ha, ⟨capacity, hcap, hpos, rfl⟩,
      .inr ⟨annotations, bn, n, ps, vol, hcfg, hn, hbn, rfl, hpl, hsize, rfl, hsrc⟩⟩

/-- Creating `pvc-1` on the sample cluster: a positive capacity, reported as requested. -/
theorem create_volume_reply_demo :
    ∃ v calls', CreateVolume demoCluster demoRequest [] = .ok ((some ⟨some v⟩, none), calls') ∧
      ∃ b, demoRequest.capacityRange = some b ∧ 0 < b ∧ v.capacityBytes = b :=
  ⟨_, _, rfl, (create_volume_reply demoCluster demoRequest [] _ _ rfl).2.1⟩

/-- **`CreateVolume` panics only when importing from a backend with no pools.** Every other path
of an accepted request returns: `processCreateVolumeParameters` and `validateCapacity` read a
capacity range `checkCreateVolumeRequest` has made sure of, and `createVolume` writes into the
map `processCreateVolumeParameters` returned with no error. `manageVolume` indexes
`selectBackend.Pools[0]` after the plugin's query without checking that the backend has a pool. -/
theorem create_volume_panic (c : Cluster) (req : CreateVolumeRequest) (calls : List PluginCall)
    (e : GoPanic) (h : CreateVolume c req calls = .error e) :
    e = .indexOutOfRange 0 0 ∧ ∃ annotations n b bk, c.getVolumeConfiguration req.name = .ok annotations ∧
      annotations.lookup (c.driverName ++ annManageVolumeName) = some n ∧
      annotations.lookup (c.driverName ++ annManageBackendName) = some b ∧
      c.getBackendWithFresh b = some bk ∧ bk.pools = [] := by
  rcases CreateVolume_route c req calls with ⟨err, h'⟩ | ⟨ha, h' | ⟨annotations, n, b, hcfg, hn, hb, h'⟩⟩ <;>
    rw [h'] at h
  · simp at h
  · exact absurd h (createVolume_ne_error ha e)
  · obtain ⟨he, bk, hbk, hpools⟩ := manageVolume_error ha h
    exact ⟨he, annotations, n, b, bk, hcfg, hn, hb, hbk, hpools⟩

/-- The sample cluster, where the PVC asks to import `vol-7` from `b1`. -/
def importCluster : Cluster :=
  { demoCluster with
    getVolumeConfiguration := fun _ =>
      .ok [("csi.huawei.com/manageVolumeName", "vol-7"), ("csi.huawei.com/manageBackendName", "b1")] }

/-- Importing `vol-7` from `b1`, which has no pools, panics after the plugin found the volume. -/
theorem create_volume_panic_import :
    ∃ e, CreateVolume importCluster demoRequest [] = .error e ∧ e = .indexOutOfRange 0 0 :=
  ⟨_, rfl, (create_volume_panic importCluster demoRequest [] _ rfl).1⟩

/-! ### Requests on the IDs the controller hands out -/

/-- The volume ID a request names. -/
def ControllerRequest.volumeId : ControllerRequest → Option String
  | .deleteVolume req => some req.volumeId
  | .controllerExpandVolume req => some req.volumeId
  | .controllerPublishVolume req => some req.volumeId
  | .controllerUnpublishVolume req => some req.volumeId
  | .createSnapshot req => some req.sourceVolumeId
  | _ => none

section Ids

variable (c : Cluster)

/-- A request on a volume ID calls a plugin only on the volume `splitVolumeId` reads from it. -/
theorem ControllerRequest.serve_volume {r : ControllerRequest} {volumeId : String}
    (hr : r.volumeId = some volumeId) {calls : List PluginCall} {err : Option Err}
    {calls' : List PluginCall} (h : r.serve c calls = .ok (err, calls')) :
    calls' = calls ∨ ∃ pc, pc.volume = some (c.splitVolumeId volumeId) ∧ calls' = calls ++ [pc] := by
  have keep {P : PluginCall → Prop} (hP : ∀ pc, P pc → pc.volume = some (c.splitVolumeId volumeId))
      (h : calls' = calls ∨ ∃ pc, P pc ∧ calls' = calls ++ [pc] ∧ InternalOrNone err) :
      calls' = calls ∨ ∃ pc, pc.volume = some (c.splitVolumeId volumeId) ∧ calls' = calls ++ [pc] :=
    h.imp_right fun ⟨pc, hp, h, _⟩ => ⟨pc, hP pc hp, h⟩
  cases r <;> simp only [ControllerRequest.volumeId, Option.some.injEq, reduceCtorEq] at hr <;> subst hr
  · exact keep (fun _ => id) ((DeleteVolume_callsOnce c _).serve h)
  · exact keep (fun _ => id) ((ControllerExpandVolume_callsOnce c _).serve h)
  · exact keep (fun _ ⟨_, _, h⟩ => by subst h; rfl) ((ControllerPublishVolume_callsOnce c _).serve h)
  · exact keep (fun _ ⟨_, _, h⟩ => by subst h; rfl) ((ControllerUnpublishVolume_callsOnce c _).serve h)
  · exact keep (fun _ => id) ((CreateSnapshot_callsOnce c _).serve h)

@[simp] theorem makeCreateVolumeResponse_volumeId (req : CreateVolumeRequest) (vol : Volume)
    (pool : StoragePool) :
    (makeCreateVolumeResponse req vol pool).volumeId = pool.parent ++ "." ++ vol.volumeName := by
  unfold makeCreateVolumeResponse
  cases req.volumeContentSource <;> rfl

/-- The response to a created volume names the volume's parent dtree. -/
theorem makeCreateVolumeResponse_dTreeParentName (req : CreateVolumeRequest) (vol : Volume) (pool : StoragePool) :
    (makeCreateVolumeResponse req vol pool).volumeContext.lookup "dTreeParentName" = some vol.dTreeParentName := by
  unfold makeCreateVolumeResponse getVolumeResponse getAttributes
  cases req.volumeContentSource <;> cases vol.lunWWN <;> rfl

/-- **The volume IDs `CreateVolume` hands out address the volume they name.** A returned volume's
ID joins a backend name and a volume name: those of the pool's backend and of the volume its
plugin created, or those the PVC's annotations named for import, where the backend's plugin found
the volume. When `utils.SplitVolumeId` splits the ID back into the two names, every later request
on it (deleting, expanding, publishing, unpublishing it, or taking a snapshot of it) calls a
plugin on that volume only. -/
theorem volume_ids_route_back (c' : Cluster) (req : CreateVolumeRequest) (calls calls' : List PluginCall)
    (v : CsiVolume) (h : CreateVolume c req calls = .ok ((some ⟨some v⟩, none), calls')) :
    ∃ b n, v.volumeId = b ++ "." ++ n ∧
      ((∃ pool ps, calls' = calls ++ [.createVolume pool req.name ps] ∧ b = pool.parent ∧
          ∃ vol : Volume, c.plugin (.createVolume pool req.name ps) = .ok vol ∧ vol.volumeName = n) ∨
        ∃ annotations ps, c.getVolumeConfiguration req.name = .ok annotations ∧
          annotations.lookup (c.driverName ++ annManageVolumeName) = some n ∧
          annotations.lookup (c.driverName ++ annManageBackendName) = some b ∧
          calls' = calls ++ [.queryVolume b n ps] ∧ ∃ vol : Volume, c.plugin (.queryVolume b n ps) = .ok vol) ∧
      (c'.splitVolumeId v.volumeId = (b, n) →
        ∀ (r : ControllerRequest) calls₀ err calls₁, r.volumeId = some v.volumeId →
          r.serve c' calls₀ = .ok (err, calls₁) →
          calls₁ = calls₀ ∨ ∃ pc, pc.volume = some (b, n) ∧ calls₁ = calls₀ ++ [pc]) := by
  have later (b n : String) (hs : c'.splitVolumeId v.volumeId = (b, n)) (r : ControllerRequest)
      (calls₀ : List PluginCall) (err : Option Err) (calls₁ : List PluginCall)
      (hr : r.volumeId = some v.volumeId) (h : r.serve c' calls₀ = .ok (err, calls₁)) :
      calls₁ = calls₀ ∨ ∃ pc, pc.volume = some (b, n) ∧ calls₁ = calls₀ ++ [pc] :=
    hs ▸ ControllerRequest.serve_volume c' hr h
  obtain ⟨-, hcases⟩ := CreateVolume_ok h
  rcases hcases with hc | ⟨annotations, n, b, hcfg, hn, hb, hm⟩
  · obtain ⟨ps, -, pool, remote, vol, -, -, -, rfl, hpl, rfl⟩ := createVolume_ok hc
    exact ⟨pool.parent, vol.volumeName, makeCreateVolumeResponse_volumeId req vol pool,
      .inl ⟨pool, _, rfl, rfl, vol, hpl, rfl⟩, later _ _⟩
  · obtain ⟨-, bk, ps, vol, pool, capacity, -, rfl, hpl, -, -, -, rfl⟩ := manageVolume_ok hm
    exact ⟨b, n, rfl, .inr ⟨annotations, ps, hcfg, hn, hb, rfl, vol, hpl⟩, later _ _⟩

/-- Creating `pvc-1` on the sample cluster: its ID is `b1.pvc-1`, which a later request splits
back into `b1` and `pvc-1`. -/
theorem volume_ids_route_back_demo :
    ∃ v calls', CreateVolume demoCluster demoRequest [] = .ok ((some ⟨some v⟩, none), calls') ∧
      v.volumeId = "b1.pvc-1" ∧ ∃ b n, v.volumeId = b ++ "." ++ n :=
  ⟨_, _, rfl, rfl, (volume_ids_route_back demoCluster demoCluster demoRequest [] _ _ rfl).imp
    fun _ ⟨n, h, _⟩ => ⟨n, h⟩⟩

/-- A snapshot `CreateSnapshot` returns: the volume's backend took it, and its ID joins the backend,
the parent ID the plugin reported and the snapshot's name. -/
theorem CreateSnapshot_ok {req : CreateSnapshotRequest} {calls calls' : List PluginCall}
    {resp : CreateSnapshotResponse} (h : CreateSnapshot c req calls = .ok ((some resp, none), calls')) :
    ∃ snapshot : GoMap, calls' = calls ++ [.createSnapshot (c.splitVolumeId req.sourceVolumeId).1
        (c.splitVolumeId req.sourceVolumeId).2 req.name] ∧
      c.plugin (.createSnapshot (c.splitVolumeId req.sourceVolumeId).1 (c.splitVolumeId req.sourceVolumeId).2
        req.name) = .ok snapshot ∧
      ∃ p, snapshot.get "ParentID" = .str p ∧
        resp.snapshot.snapshotId = (c.splitVolumeId req.sourceVolumeId).1 ++ "." ++ p ++ "." ++ req.name ∧
        resp.snapshot.sourceVolumeId = req.sourceVolumeId := by
  unfold CreateSnapshot at h
  simp only [] at h
  by_cases hv : req.sourceVolumeId = "" <;> simp only [hv, if_true, if_false] at h
  · simp at h
  by_cases hn : req.name = "" <;> simp only [hn, if_true, if_false] at h
  · simp at h
  rcases hb : c.getBackendWithFresh (c.splitVolumeId req.sourceVolumeId).1 with _ | bk
  · rw [hb] at h
    simp at h
  rw [hb] at h
  simp only [ControllerM.bind_apply, Cluster.call_apply] at h
  rcases hpl : c.plugin (.createSnapshot (c.splitVolumeId req.sourceVolumeId).1
    (c.splitVolumeId req.sourceVolumeId).2 req.name) with err | snapshot <;> rw [hpl] at h
  · simp at h
  dsimp only at h
  simp only [ControllerM.bind_apply] at h
  cases hsz : GoMap.get snapshot "SizeBytes" <;> simp [assertInt64, hsz] at h
  cases hp : GoMap.get snapshot "ParentID" <;> simp [assertStr, hp] at h
  cases hct : GoMap.get snapshot "CreationTime" <;> simp [assertInt64, hct] at h
  rename_i p _
  obtain ⟨rfl, rfl⟩ := h
  exact ⟨snapshot, rfl, rfl, p, hp, rfl, rfl⟩
/-- **The snapshot IDs `CreateSnapshot` hands out address the snapshot they name.** A returned
snapshot's ID joins the name of the volume's backend, whose plugin took the snapshot, the parent
ID the plugin reported and the snapshot's name. When `utils.SplitSnapshotId` splits the ID back
into the three, `DeleteSnapshot` on it calls that backend's plugin to delete exactly that
snapshot. -/
theorem snapshot_ids_route_back (c' : Cluster) (req : CreateSnapshotRequest) (calls calls' : List PluginCall)
    (resp : CreateSnapshotResponse) (h : CreateSnapshot c req calls = .ok ((some resp, none), calls')) :
    ∃ b p, resp.snapshot.snapshotId = b ++ "." ++ p ++ "." ++ req.name ∧
      resp.snapshot.sourceVolumeId = req.sourceVolumeId ∧
      calls' = calls ++ [.createSnapshot b (c.splitVolumeId req.sourceVolumeId).2 req.name] ∧
      (∃ snapshot : GoMap, c.plugin (.createSnapshot b (c.splitVolumeId req.sourceVolumeId).2 req.name) =
        .ok snapshot ∧ GoMap.get snapshot "ParentID" = .str p) ∧
      (c'.splitSnapshotId resp.snapshot.snapshotId = (b, p, req.name) →
        ∀ calls₀ err calls₁, DeleteSnapshot c' ⟨resp.snapshot.snapshotId⟩ calls₀ = .ok (err, calls₁) →
          calls₁ = calls₀ ∨ calls₁ = calls₀ ++ [.deleteSnapshot b p req.name]) := by
  obtain ⟨snapshot, rfl, hpl, p, hp, hid, hsrc⟩ := CreateSnapshot_ok c h
  refine ⟨_, p, hid, hsrc, rfl, ⟨snapshot, hpl, hp⟩, fun hs calls₀ err calls₁ hd => ?_⟩
  rcases DeleteSnapshot_callsOnce c' _ _ _ _ hd with h | ⟨pc, rfl, h, -⟩
  · exact .inl h
  · exact .inr (by simpa [hs] using h)

/-- A snapshot of `b1.pvc-1` on the sample cluster: its ID is `b1.17.snap-1`. -/
theorem snapshot_ids_route_back_demo :
    ∃ resp calls', CreateSnapshot demoCluster ⟨"b1.pvc-1", "snap-1"⟩ [] = .ok ((some resp, none), calls') ∧
      resp.snapshot.snapshotId = "b1.17.snap-1" ∧ ∃ b p, resp.snapshot.snapshotId = b ++ "." ++ p ++ "." ++ "snap-1" :=
  ⟨_, _, rfl, rfl, (snapshot_ids_route_back demoCluster demoCluster ⟨"b1.pvc-1", "snap-1"⟩ [] _ _ rfl).imp
    fun _ ⟨p, h, _⟩ => ⟨p, h⟩⟩

/-- **Unpublishing detaches what publishing attached.** For one volume ID and node ID, the call
`ControllerUnpublishVolume` makes detaches, on the same backend, the same volume for the same
node parameters that the call `ControllerPublishVolume` made attached, whatever else changed in
the cluster in between. -/
theorem publish_unpublish_pair (c' : Cluster) (hsplit : c'.splitVolumeId = c.splitVolumeId)
    (hjson : c'.unmarshal = c.unmarshal) (volumeId nodeId : String) (calls₁ calls₂ : List PluginCall)
    (pc₁ pc₂ : PluginCall) (r₁ : Option ControllerPublishVolumeResponse × Option Err)
    (r₂ : Option Unit × Option Err)
    (h₁ : ControllerPublishVolume c ⟨volumeId, nodeId⟩ calls₁ = .ok (r₁, calls₁ ++ [pc₁]))
    (h₂ : ControllerUnpublishVolume c' ⟨volumeId, nodeId⟩ calls₂ = .ok (r₂, calls₂ ++ [pc₂])) :
    ∃ b n ps, c.splitVolumeId volumeId = (b, n) ∧ c.unmarshal nodeId = .ok ps ∧
      pc₁ = .attachVolume b n ps ∧ pc₂ = .detachVolume b n ps := by
  rcases ControllerPublishVolume_callsOnce c _ _ _ _ h₁ with h | ⟨pc, ⟨ps, hu, rfl⟩, h, -⟩
  · simp at h
  rcases ControllerUnpublishVolume_callsOnce c' _ _ _ _ h₂ with h' | ⟨pc', ⟨ps', hu', rfl⟩, h', -⟩
  · simp at h'
  obtain rfl : ps' = ps := by
    rw [hjson] at hu'
    exact Except.ok.inj (hu'.symm.trans hu)
  simp only [List.append_cancel_left_eq, List.cons.injEq, and_true] at h h'
  exact ⟨_, _, _, rfl, hu, h, by rw [h', hsplit]⟩

/-- Publishing and unpublishing `b1.pvc-1` for `node-1` on the sample cluster: attach and detach
of `pvc-1` on `b1`, both failing. -/
theorem publish_unpublish_pair_demo :
    ∃ b n ps, demoCluster.splitVolumeId "b1.pvc-1" = (b, n) ∧ demoCluster.unmarshal "node-1" = .ok ps ∧
      PluginCall.attachVolume "b1" "pvc-1" [] = .attachVolume b n ps ∧
      PluginCall.detachVolume "b1" "pvc-1" [] = .detachVolume b n ps :=
  publish_unpublish_pair demoCluster demoCluster rfl rfl "b1.pvc-1" "node-1" [] [] _ _ _ _ rfl rfl

end Ids

end CsiPlugin
