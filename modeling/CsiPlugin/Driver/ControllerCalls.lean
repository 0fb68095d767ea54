import CsiPlugin.Driver.Controller
set_option warningAsError true

/-!
# CsiPlugin.Driver.ControllerCalls

**Every request makes at most one plugin call.** The controller's methods share one shape: checks
and lookups that call no plugin, then at most one plugin call, after which a failure is reported
as an `Internal` status. This module states that shape as three predicates on `ControllerM`
computations, each closed under the monad's operations:

* `NoCall`: no plugin call;
* `Reports`: no plugin call, and no error but an `Internal` one;
* `CallsOnce P`: at most one plugin call, one that satisfies `P`, and after it only what
  `Reports` allows.

Each method gets its `CallsOnce` lemma from its own structure, with `P` saying which volume the
call acts on (`PluginCall.volume`) or, for publishing, unpublishing and deleting a snapshot,
exactly which call it is. `controller_calls_once` assembles them over every request of the
service: a request rejected as the caller's fault or as unimplemented reached no plugin.
-/

namespace CsiPlugin

/-! ### Plugin calls -/

/-- The backend a call goes to and the volume it acts on, by the volume's name on the array. -/
def PluginCall.volume : PluginCall → Option (String × String)
  | .queryVolume b n _ | .deleteVolume b n | .expandVolume b n _ | .attachVolume b n _
  | .detachVolume b n _ | .createSnapshot b n _ => some (b, n)
  | .deleteDTreeVolume b ps | .expandDTreeVolume b ps => (ps.get "name").asString.map (b, ·)
  | .createVolume .. | .deleteSnapshot .. => none

/-- An error that is no error, or an `Internal` status. -/
def InternalOrNone (err : Option Err) : Prop := err = none ∨ ∃ m, err = some (statusError "Internal" m)

/-- A computation that calls no plugin. -/
def NoCall {α : Type} (m : ControllerM α) : Prop :=
  ∀ calls a calls', m calls = .ok (a, calls') → calls' = calls

/-- A computation that calls no plugin and reports no error but an `Internal` one. -/
def Reports {β : Type} (m : ControllerM (β × Option Err)) : Prop :=
  NoCall m ∧ ∀ calls r calls', m calls = .ok (r, calls') → InternalOrNone r.2

/-- A computation that makes at most one plugin call, one that satisfies `P`, and after it
reports no error but an `Internal` one. -/
def CallsOnce {β : Type} (P : PluginCall → Prop) (m : ControllerM (β × Option Err)) : Prop :=
  ∀ calls r calls', m calls = .ok (r, calls') →
    calls' = calls ∨ ∃ pc, P pc ∧ calls' = calls ++ [pc] ∧ InternalOrNone r.2

namespace NoCall

variable {α β : Type}

theorem pure (a : α) : NoCall (pure a : ControllerM α) := fun _ _ _ h => by
  simp only [ControllerM.pure_apply, Except.ok.injEq, Prod.mk.injEq] at h
  exact h.2.symm

theorem throw (e : GoPanic) : NoCall (throw e : ControllerM α) := fun _ _ _ h => by
  simp at h

theorem bind {m : ControllerM α} {f : α → ControllerM β} (hm : NoCall m) (hf : ∀ a, NoCall (f a)) :
    NoCall (m >>= f) := fun calls b calls' h => by
  simp only [ControllerM.bind_apply] at h
  rcases hx : m calls with e | ⟨a, calls₁⟩ <;> simp only [hx, reduceCtorEq] at h
  exact (hf a _ _ _ h).trans (hm _ _ _ hx)

theorem liftNilDeref (x : Except NilDeref α) : NoCall (liftNilDeref x) := by
  cases x
  · exact throw _
  · exact pure _

theorem deref (p : Option α) (field : String) : NoCall (deref p field) := by
  cases p
  · exact throw _
  · exact pure _

theorem index (s : List α) (i : Nat) : NoCall (index s i) := by
  unfold CsiPlugin.index
  split
  · exact pure _
  · exact throw _

theorem assertInt64 (m : GoMap) (key : String) : NoCall (assertInt64 m key) := by
  unfold CsiPlugin.assertInt64
  split
  · exact pure _
  · exact throw _

theorem assertStr (m : GoMap) (key : String) : NoCall (assertStr m key) := by
  unfold CsiPlugin.assertStr
  split
  · exact pure _
  · exact throw _

theorem nonNilMap (m : Option GoMap) (key : String) : NoCall (nonNilMap m key) := by
  cases m
  · exact throw _
  · exact pure _

theorem validateCapacity (req : CreateVolumeRequest) (vol : Volume) :
    NoCall (validateCapacity req vol) := by
  unfold CsiPlugin.validateCapacity
  split
  · exact pure _
  · exact bind (deref _ _) fun _ => by split <;> exact pure _

end NoCall

namespace Reports

variable {α β : Type}

theorem ok (r : β) : Reports (pure (r, none) : ControllerM (β × Option Err)) :=
  ⟨NoCall.pure _, fun _ _ _ h => by simp at h; simp [← h.1, InternalOrNone]⟩

theorem internal (r : β) (m : String) :
    Reports (pure (r, some (statusError "Internal" m)) : ControllerM (β × Option Err)) :=
  ⟨NoCall.pure _, fun _ _ _ h => by simp at h; simp [← h.1, InternalOrNone]⟩

theorem throw (e : GoPanic) : Reports (throw e : ControllerM (β × Option Err)) :=
  ⟨NoCall.throw _, fun _ _ _ h => by simp at h⟩

theorem bind {m : ControllerM α} {f : α → ControllerM (β × Option Err)} (hm : NoCall m)
    (hf : ∀ a, Reports (f a)) : Reports (m >>= f) := by
  refine ⟨NoCall.bind hm fun a => (hf a).1, fun calls r calls' h => ?_⟩
  simp only [ControllerM.bind_apply] at h
  rcases hx : m calls with e | ⟨a, calls₁⟩ <;> simp only [hx, reduceCtorEq] at h
  exact (hf a).2 _ _ _ h

end Reports

namespace CallsOnce

variable {α β : Type} {P : PluginCall → Prop}

theorem of_noCall {m : ControllerM (β × Option Err)} (h : NoCall m) : CallsOnce P m :=
  fun _ _ _ hm => .inl (h _ _ _ hm)

theorem pure (r : β × Option Err) : CallsOnce P (pure r : ControllerM (β × Option Err)) :=
  of_noCall (NoCall.pure r)

theorem throw (e : GoPanic) : CallsOnce P (throw e : ControllerM (β × Option Err)) :=
  of_noCall (NoCall.throw e)

theorem bind {m : ControllerM α} {f : α → ControllerM (β × Option Err)} (hm : NoCall m)
    (hf : ∀ a, CallsOnce P (f a)) : CallsOnce P (m >>= f) := fun calls r calls' h => by
  simp only [ControllerM.bind_apply] at h
  rcases hx : m calls with e | ⟨a, calls₁⟩ <;> simp only [hx, reduceCtorEq] at h
  rw [← hm _ _ _ hx]
  exact hf a _ _ _ h

/-- The one plugin call: what follows it calls none and reports only `Internal` errors. -/
theorem call (c : Cluster) {pc : PluginCall} {f : Except Err pc.Answer → ControllerM (β × Option Err)}
    (hp : P pc) (hf : ∀ a, Reports (f a)) : CallsOnce P (c.call pc >>= f) := fun calls r calls' h => by
  simp only [ControllerM.bind_apply, Cluster.call_apply] at h
  exact .inr ⟨pc, hp, ((hf _).1 _ _ _ h).symm ▸ rfl, (hf _).2 _ _ _ h⟩

theorem mono {Q : PluginCall → Prop} {m : ControllerM (β × Option Err)} (h : CallsOnce P m)
    (hPQ : ∀ pc, P pc → Q pc) : CallsOnce Q m := fun calls r calls' hm => by
  rcases h calls r calls' hm with h | ⟨pc, hp, h⟩
  · exact .inl h
  · exact .inr ⟨pc, hPQ pc hp, h⟩

end CallsOnce

/-! ### Every method calls a plugin at most once -/

section Methods

variable (c : Cluster)

theorem DeleteVolume_callsOnce (req : DeleteVolumeRequest) :
    CallsOnce (·.volume = some (c.splitVolumeId req.volumeId)) (DeleteVolume c req) := by
  unfold DeleteVolume
  generalize c.splitVolumeId req.volumeId = ids
  obtain ⟨b, v⟩ := ids
  dsimp only
  split
  · exact .pure _
  · split
    · refine .call c (by simp [PluginCall.volume, GoMap.get, List.lookup_cons]) fun a => ?_
      cases a
      exacts [.internal _ _, .ok _]
    · refine .call c rfl fun a => ?_
      cases a
      exacts [.internal _ _, .ok _]

theorem ControllerExpandVolume_callsOnce (req : ControllerExpandVolumeRequest) :
    CallsOnce (·.volume = some (c.splitVolumeId req.volumeId)) (ControllerExpandVolume c req) := by
  unfold ControllerExpandVolume
  simp only []
  split
  · exact .pure _
  split
  · exact .pure _
  split
  · exact .pure _
  split
  · exact .pure _
  split
  · exact .throw _
  · exact .pure _
  · split
    · refine .call c (by simp [PluginCall.volume, GoMap.get, List.lookup_cons]) fun a => ?_
      cases a
      exacts [.internal _ _, .ok _]
    · refine .call c rfl fun a => ?_
      cases a
      exacts [.internal _ _, .ok _]

theorem ControllerPublishVolume_callsOnce (req : ControllerPublishVolumeRequest) :
    CallsOnce (fun pc => ∃ ps, c.unmarshal req.nodeId = .ok ps ∧
      pc = .attachVolume (c.splitVolumeId req.volumeId).1 (c.splitVolumeId req.volumeId).2 ps)
      (ControllerPublishVolume c req) := by
  unfold ControllerPublishVolume
  generalize c.splitVolumeId req.volumeId = ids
  obtain ⟨b, v⟩ := ids
  dsimp only
  split
  · exact .pure _
  split
  · exact .pure _
  rename_i ps hu
  refine .call c ⟨ps, hu, rfl⟩ fun a => ?_
  cases a
  · exact .internal _ _
  · dsimp only
    split
    exacts [.internal _ _, .ok _]

theorem ControllerUnpublishVolume_callsOnce (req : ControllerUnpublishVolumeRequest) :
    CallsOnce (fun pc => ∃ ps, c.unmarshal req.nodeId = .ok ps ∧
      pc = .detachVolume (c.splitVolumeId req.volumeId).1 (c.splitVolumeId req.volumeId).2 ps)
      (ControllerUnpublishVolume c req) := by
  unfold ControllerUnpublishVolume
  generalize c.splitVolumeId req.volumeId = ids
  obtain ⟨b, v⟩ := ids
  dsimp only
  split
  · exact .pure _
  split
  · exact .pure _
  rename_i ps hu
  refine .call c ⟨ps, hu, rfl⟩ fun a => ?_
  cases a
  exacts [.internal _ _, .ok _]

theorem CreateSnapshot_callsOnce (req : CreateSnapshotRequest) :
    CallsOnce (·.volume = some (c.splitVolumeId req.sourceVolumeId)) (CreateSnapshot c req) := by
  unfold CreateSnapshot
  simp only []
  split
  · exact .pure _
  split
  · exact .pure _
  split
  · exact .pure _
  refine .call c rfl fun a => ?_
  cases a
  · exact .internal _ _
  · exact .bind (.assertInt64 _ _) fun _ => .bind (.assertStr _ _) fun _ =>
      .bind (.assertInt64 _ _) fun _ => .ok _

theorem DeleteSnapshot_callsOnce (req : DeleteSnapshotRequest) :
    CallsOnce (· = .deleteSnapshot (c.splitSnapshotId req.snapshotId).1 (c.splitSnapshotId req.snapshotId).2.1
      (c.splitSnapshotId req.snapshotId).2.2) (DeleteSnapshot c req) := by
  unfold DeleteSnapshot
  simp only []
  split
  · exact .pure _
  split
  · exact .pure _
  refine .call c rfl fun a => ?_
  cases a
  exacts [.internal _ _, .ok _]

theorem createVolume_callsOnce (req : CreateVolumeRequest) :
    CallsOnce (fun pc => ∃ pool ps, pc = .createVolume pool req.name ps) (createVolume c req) := by
  unfold createVolume
  refine .bind (.liftNilDeref _) fun ⟨parameters, err⟩ => ?_
  simp only []
  split
  · exact .pure _
  refine .bind (.deref _ _) fun requiredBytes => ?_
  split
  · exact .pure _
  refine .bind (.nonNilMap _ _) fun ps => .call c ⟨_, _, rfl⟩ fun a => ?_
  cases a
  exacts [.internal _ _, .ok _]

theorem manageVolume_callsOnce (req : CreateVolumeRequest) (volumeName backendName : String) :
    CallsOnce (fun pc => ∃ ps, pc = .queryVolume backendName volumeName ps)
      (manageVolume c req volumeName backendName) := by
  unfold manageVolume
  split
  · exact .pure _
  split
  · exact .pure _
  refine .bind (.liftNilDeref _) fun ⟨parameters, err⟩ => ?_
  simp only []
  split
  · exact .pure _
  split
  · exact .pure _
  refine .call c ⟨_, rfl⟩ fun a => ?_
  cases a
  · exact .internal _ _
  · refine .bind (.validateCapacity _ _) fun r => ?_
    split
    · exact .internal _ _
    · exact .bind (.index _ _) fun _ => .ok _

theorem CreateVolume_callsOnce (req : CreateVolumeRequest) :
    CallsOnce (fun pc => (∃ pool ps, pc = .createVolume pool req.name ps) ∨
      ∃ b n ps, pc = .queryVolume b n ps) (CreateVolume c req) := by
  unfold CreateVolume
  split
  · exact .pure _
  split
  · split
    · exact .pure _
    · exact (createVolume_callsOnce c req).mono fun _ => .inl
  · simp only []
    split
    · exact .pure _
    · split
      · exact (manageVolume_callsOnce c req _ _).mono fun _ ⟨ps, h⟩ => .inr ⟨_, _, ps, h⟩
      · exact (createVolume_callsOnce c req).mono fun _ => .inl

/-- What `ControllerRequest.serve` keeps of a method that calls a plugin at most once. -/
theorem CallsOnce.serve {β : Type} {P : PluginCall → Prop} {m : ControllerM (β × Option Err)}
    (h : CallsOnce P m) {calls : List PluginCall} {err : Option Err} {calls' : List PluginCall}
    (hm : ((·.2) <$> m) calls = .ok (err, calls')) :
    calls' = calls ∨ ∃ pc, P pc ∧ calls' = calls ++ [pc] ∧ InternalOrNone err := by
  simp only [ControllerM.map_apply] at hm
  rcases hx : m calls with e | ⟨⟨a, err'⟩, calls₁⟩ <;> simp only [hx, reduceCtorEq, Except.ok.injEq,
    Prod.mk.injEq] at hm
  obtain ⟨rfl, rfl⟩ := hm
  exact h _ _ _ hx

end Methods

/-! ### The service -/

theorem statusError_data (code msg : String) :
    (statusError code msg).data = "rpc error: code = ".data ++ code.data ++ " desc = ".data ++ msg.data :=
  rfl

/-- An `Internal` status is none of the statuses the controller rejects a request with. -/
theorem statusError_internal_ne {code : String}
    (hc : code ∈ ["InvalidArgument", "FailedPrecondition", "Unimplemented"]) (m m' : String) :
    statusError "Internal" m ≠ statusError code m' := by
  intro h
  have := congrArg String.data h
  simp only [List.mem_cons, List.not_mem_nil, or_false] at hc
  rcases hc with rfl | rfl | rfl <;> simp [statusError_data] at this

/-- A cluster with one backend, `b1`, that has no pools; `backend.SelectStoragePool` picks its
pool `pool-a`. The plugin creates and finds every volume at 1 GiB, takes every snapshot with
parent ID `17`, and fails every other call.
IDs split at their dots, and no PVC carries annotations. -/
def demoCluster : Cluster where
  copyMap ps := ps.map fun (k, v) => (k, .str v)
  getBackendName b := b
  splitVolumeId id := match split id '.' with
    | [b, v] => (b, v)
    | _ => ("", id)
  splitSnapshotId id := match split id '.' with
    | [b, p, n] => (b, p, n)
    | _ => ("", "", id)
  topology := "topology"
  driverName := "csi.huawei.com"
  getVolumeConfiguration _ := .error "PVCNotFound"
  getBackendWithFresh b := if b = "b1" then some ⟨"oceanstor-san", [], []⟩ else none
  selectStoragePool _ _ := .ok (⟨"pool-a", "b1", []⟩, none)
  getMetroDomain _ := ""
  getMetrovStorePairID _ := ""
  getAccountName _ := ""
  validateBackend _ _ := none
  unmarshal _ := .ok []
  marshal _ := .ok "null"
  plugin pc := match pc with
    | .createVolume _ name _ | .queryVolume _ name _ => .ok ⟨name, "", none, .ok 1073741824⟩
    | .createSnapshot .. => .ok [("SizeBytes", .int 1073741824), ("ParentID", .str "17"),
        ("CreationTime", .int 0)]
    | _ => .error "array offline"

/-- A 1 GiB single-writer mount volume `pvc-1`. -/
def demoRequest : CreateVolumeRequest :=
  ⟨"pvc-1", some 1073741824, [], [⟨.mount [], .singleNodeWriter⟩], none, none⟩

/-- **Every request makes at most one plugin call, and a failure after it is `Internal`.** Whatever
the method, the request ends with no plugin call, or with exactly one, after which it reports no
error or an `Internal` status. So a request rejected as the caller's fault (`InvalidArgument`,
`FailedPrecondition`) or as an unimplemented method reached no plugin. -/
theorem controller_calls_once (c : Cluster) (r : ControllerRequest) (calls : List PluginCall)
    (err : Option Err) (calls' : List PluginCall) (h : r.serve c calls = .ok (err, calls')) :
    (calls' = calls ∨ ∃ pc, calls' = calls ++ [pc] ∧ InternalOrNone err) ∧
    ∀ code m, code ∈ ["InvalidArgument", "FailedPrecondition", "Unimplemented"] →
      err = some (statusError code m) → calls' = calls := by
  have once : calls' = calls ∨ ∃ pc, calls' = calls ++ [pc] ∧ InternalOrNone err := by
    have drop {P : PluginCall → Prop} (h : calls' = calls ∨ ∃ pc, P pc ∧ calls' = calls ++ [pc] ∧
        InternalOrNone err) : calls' = calls ∨ ∃ pc, calls' = calls ++ [pc] ∧ InternalOrNone err :=
      h.imp_right fun ⟨pc, _, h⟩ => ⟨pc, h⟩
    cases r with
    | createVolume req => exact drop ((CreateVolume_callsOnce c req).serve h)
    | deleteVolume req => exact drop ((DeleteVolume_callsOnce c req).serve h)
    | controllerExpandVolume req => exact drop ((ControllerExpandVolume_callsOnce c req).serve h)
    | controllerPublishVolume req => exact drop ((ControllerPublishVolume_callsOnce c req).serve h)
    | controllerUnpublishVolume req => exact drop ((ControllerUnpublishVolume_callsOnce c req).serve h)
    | createSnapshot req => exact drop ((CreateSnapshot_callsOnce c req).serve h)
    | deleteSnapshot req => exact drop ((DeleteSnapshot_callsOnce c req).serve h)
    | _ => simp only [ControllerRequest.serve, ControllerM.pure_apply, Except.ok.injEq,
        Prod.mk.injEq] at h
           exact .inl h.2.symm
  refine ⟨once, fun code m hc he => ?_⟩
  rcases once with h | ⟨pc, -, (rfl | ⟨m', rfl⟩)⟩
  · exact h
  · simp at he
  · exact absurd (Option.some.inj he) (statusError_internal_ne hc m' m)

/-- Deleting a volume of `b1`: one call, whose failure comes back as `Internal`. -/
theorem controller_calls_once_delete :
    (ControllerRequest.deleteVolume ⟨"b1.pvc-1"⟩).serve demoCluster [] =
      .ok (some (statusError "Internal" "array offline"), [PluginCall.deleteVolume "b1" "pvc-1"]) ∧
    ([PluginCall.deleteVolume "b1" "pvc-1"] = [] ∨
      ∃ pc, [PluginCall.deleteVolume "b1" "pvc-1"] = [] ++ [pc] ∧
        InternalOrNone (some (statusError "Internal" "array offline"))) :=
  ⟨rfl, (controller_calls_once demoCluster (.deleteVolume ⟨"b1.pvc-1"⟩) [] _ _ rfl).1⟩

end CsiPlugin
