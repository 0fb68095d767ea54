import CsiPlugin.Driver.ControllerCalls
set_option warningAsError true

/-!
# CsiPlugin.Driver.ControllerErrors

**Which errors the controller service returns with a gRPC status.** gRPC sends an error that
`status.Error` built with its code, and any other error with the code `Unknown`. Every method but
`CreateVolume` builds its errors with `status.Error`, with the codes `InvalidArgument`,
`Internal` and `Unimplemented`. `CreateVolume` also returns errors of two other kinds:

* errors it passes on from `GetVolumeConfiguration` (other than `PVCNotFound`) and from
  `backend.ValidateBackend`;
* five texts built with `errors.New`, `fmt.Errorf` or `utils.Errorf` (`PlainError`): an
  unsupported or a second `nfsvers` in the mount flags and a description over
  `maxDescriptionLength` bytes, none of which `checkCreateVolumeRequest` checks, and, on import,
  a missing backend or a content source. None of them is a status text
  (`PlainError.not_isStatus`), so the caller gets `Unknown` for mistakes of its own.

The proof has the shape of `ControllerCalls`: a predicate on computations (`ErrorsIn`) closed
under `pure`, `throw` and `bind`, one lemma per method, and the service by cases.
-/

namespace CsiPlugin

/-! ### Status texts -/

/-- `status.FromError(err)` finds a status: the text is one `status.Error(code, msg)` gives. -/
def IsStatus (err : Err) : Prop := ∃ code msg, err = statusError code msg

/-- A status error with one of `codes`. -/
def StatusIn (codes : List String) (err : Err) : Prop :=
  ∃ code ∈ codes, ∃ msg, err = statusError code msg

/-- The codes of the statuses the controller builds. -/
def serviceCodes : List String := ["InvalidArgument", "FailedPrecondition", "Internal", "Unimplemented"]

/-- The errors `CreateVolume` builds without `status.Error`. -/
inductive PlainError : Err → Prop
  /-- `addNFSProtocol`: an `nfsvers=` flag that `nfsProtocolMap` does not list. -/
  | unsupportedNfs (singleFlag : String) :
      PlainError ("unsupported nfs protocol version [" ++ singleFlag ++ "].")
  /-- `addNFSProtocol`: a second `nfsvers=` flag. -/
  | duplicateNfs (mountFlag : String) : PlainError ("Duplicate nfs protocol [" ++ mountFlag ++ "].")
  /-- `processDescription`: a description over `maxDescriptionLength` bytes. -/
  | description (description : String) :
      PlainError ("StorageClass parameter \"description\": [" ++ description ++
        "] invalid, the length exceeds " ++ toString maxDescriptionLength ++ ".")
  /-- `manageVolume`: the backend to import from does not exist. -/
  | manageBackend (backendName volumeName : String) :
      PlainError ("backend " ++ backendName ++ " doesn't exist. Manage Volume " ++ volumeName ++ " failed")
  /-- `manageVolume`: the request carries a content source. -/
  | manageSource (volumeName : String) :
      PlainError ("Manage volume " ++ volumeName ++ " can not set the source content.")

/-- A text keeps the first character of its first part. -/
theorem head_append {s : String} {c : Char} (t : String) (h : s.data.head? = some c) :
    (s ++ t).data.head? = some c := by
  rw [String.data_append]
  cases hs : s.data with
  | nil => simp [hs] at h
  | cons a l => simpa [hs] using h

/-- A status text starts with `r`. -/
theorem IsStatus.head {err : Err} (h : IsStatus err) : err.data.head? = some 'r' := by
  obtain ⟨code, msg, rfl⟩ := h
  exact head_append _ (head_append _ (head_append _ rfl))

/-- None of the plain texts is a status text: each starts with another letter. -/
theorem PlainError.not_isStatus {err : Err} (h : PlainError err) : ¬IsStatus err := fun hs => by
  have hc : ∃ c, c ≠ 'r' ∧ err.data.head? = some c := by
    cases h
    · exact ⟨'u', by decide, head_append _ (head_append _ rfl)⟩
    · exact ⟨'D', by decide, head_append _ (head_append _ rfl)⟩
    · exact ⟨'S', by decide, head_append _ (head_append _ (head_append _ (head_append _ rfl)))⟩
    · exact ⟨'b', by decide, head_append _ (head_append _ (head_append _ (head_append _ rfl)))⟩
    · exact ⟨'M', by decide, head_append _ (head_append _ rfl)⟩
  obtain ⟨c, hne, he⟩ := hc
  exact hne (Option.some.inj (he.symm.trans hs.head))

/-! ### Where `CreateVolume`'s errors come from -/

/-- `checkCreateVolumeRequest` rejects with `InvalidArgument` only. -/
theorem checkCreateVolumeRequest_error {h : Helpers} {req : CreateVolumeRequest} {err : Err}
    (he : checkCreateVolumeRequest h req = some err) : ∃ msg, err = statusError "InvalidArgument" msg := by
  unfold checkCreateVolumeRequest at he
  split at he
  · cases he; exact ⟨_, rfl⟩
  dsimp only at he
  split at he
  · cases he; exact ⟨_, rfl⟩
  split at he
  · cases he; exact ⟨_, rfl⟩
  · cases he

/-- The loop of `addNFSProtocol` fails with an unsupported or a second version. -/
theorem addNFSProtocolLoop_error (mountFlag : String) :
    ∀ (tokens : List String) (ps : GoMap) {err : Err},
      (addNFSProtocolLoop mountFlag tokens ps).2 = some err → PlainError err
  | [], _, _, h => by simp [addNFSProtocolLoop] at h
  | t :: ts, ps, _, h => by
    unfold addNFSProtocolLoop at h
    split at h
    · split at h
      · cases h; exact .unsupportedNfs t
      · split at h
        · cases h; exact .duplicateNfs mountFlag
        · exact addNFSProtocolLoop_error mountFlag ts _ h
    · exact addNFSProtocolLoop_error mountFlag ts _ h

theorem addMountFlags_error :
    ∀ (flags : List String) (ps : GoMap) {err : Err}, (addMountFlags flags ps).2 = some err → PlainError err
  | [], _, _, h => by simp [addMountFlags] at h
  | flag :: flags, ps, _, h => by
    unfold addMountFlags at h
    split at h
    · rename_i hf
      exact addNFSProtocolLoop_error flag _ ps (congrArg Prod.snd hf ▸ h)
    · exact addMountFlags_error flags _ h

/-- `processNFSProtocol` fails with an unsupported or a second version. -/
theorem processNFSProtocol_error :
    ∀ (caps : List VolumeCapability) (ps : GoMap) {err : Err},
      (processNFSProtocol caps ps).2 = some err → PlainError err
  | [], _, _, h => by simp [processNFSProtocol] at h
  | v :: caps, ps, _, h => by
    unfold processNFSProtocol at h
    split at h
    · rename_i hf
      exact addMountFlags_error v.mountFlags ps (congrArg Prod.snd hf ▸ h)
    · split at h
      · cases h
      · exact processNFSProtocol_error caps _ h

/-- `processDescription` fails with the length error. -/
theorem processDescription_error {ps : GoMap} {err : Err} (h : (processDescription ps).2 = some err) :
    PlainError err := by
  unfold processDescription at h
  split at h
  · cases h
  · split at h
    · cases h; exact .description _
    · cases h

/-- `processVolumeContentSource` fails only for a source that is neither a snapshot nor a volume. -/
theorem processVolumeContentSource_error {h : Helpers} {src : Option ContentSource} {ps : GoMap} {err : Err}
    (he : (processVolumeContentSource h src ps).2 = some err) :
    err = statusError "InvalidArgument" "the source ID provided by user is invalid" := by
  rcases src with _ | (_ | _ | _) <;> simp [processVolumeContentSource] at he
  exact he.symm

/-- `processCreateVolumeParameters` fails with `InvalidArgument` for a content source that is
neither a snapshot nor a volume, and otherwise with a plain error. -/
theorem processCreateVolumeParameters_error {h : Helpers} {req : CreateVolumeRequest} {ps : Option GoMap}
    {err : Err} (he : processCreateVolumeParameters h req = .ok (ps, some err)) :
    err = statusError "InvalidArgument" "the source ID provided by user is invalid" ∨ PlainError err := by
  unfold processCreateVolumeParameters at he
  split at he
  · cases he
  dsimp only at he
  split at he
  · rename_i hs
    cases he
    exact .inl (processVolumeContentSource_error (congrArg Prod.snd hs))
  split at he
  · rename_i hn
    cases he
    exact .inr (processNFSProtocol_error _ _ (congrArg Prod.snd hn))
  split at he
  · rename_i hd
    cases he
    exact .inr (processDescription_error (congrArg Prod.snd hd))
  · cases he

/-! ### Errors of computations -/

/-- A computation whose every error satisfies `P`. -/
def ErrorsIn {β : Type} (P : Err → Prop) (m : ControllerM (β × Option Err)) : Prop :=
  ∀ calls r calls' err, m calls = .ok (r, calls') → r.2 = some err → P err

namespace ErrorsIn

variable {α β : Type} {P : Err → Prop}

theorem ok (b : β) : ErrorsIn P (pure (b, none) : ControllerM (β × Option Err)) :=
  fun _ _ _ _ h he => by
    simp only [ControllerM.pure_apply, Except.ok.injEq, Prod.mk.injEq] at h
    simp [← h.1] at he

theorem error (b : β) {err : Err} (h : P err) :
    ErrorsIn P (pure (b, some err) : ControllerM (β × Option Err)) := fun _ _ _ _ hm he => by
  simp only [ControllerM.pure_apply, Except.ok.injEq, Prod.mk.injEq] at hm
  rw [← hm.1] at he
  exact Option.some.inj he ▸ h

/-- A status the service builds. -/
theorem status (b : β) {code : String} (hc : code ∈ serviceCodes) (msg : String) :
    ErrorsIn (StatusIn serviceCodes) (pure (b, some (statusError code msg)) : ControllerM (β × Option Err)) :=
  error b ⟨code, hc, msg, rfl⟩

theorem throw (e : GoPanic) : ErrorsIn P (throw e : ControllerM (β × Option Err)) :=
  fun _ _ _ _ h => by simp at h

theorem bind {m : ControllerM α} {f : α → ControllerM (β × Option Err)} (hf : ∀ a, ErrorsIn P (f a)) :
    ErrorsIn P (m >>= f) := fun calls r calls' err h => by
  simp only [ControllerM.bind_apply] at h
  rcases hx : m calls with e | ⟨a, calls₁⟩ <;> simp only [hx, reduceCtorEq] at h
  exact hf a _ _ _ _ h

/-- After `liftNilDeref x`, the rest runs on what `x` returned. -/
theorem bind_liftNilDeref {x : Except NilDeref α} {f : α → ControllerM (β × Option Err)}
    (hf : ∀ a, x = .ok a → ErrorsIn P (f a)) : ErrorsIn P (liftNilDeref x >>= f) := by
  cases x with
  | error e => exact fun _ _ _ _ h => by simp [liftNilDeref] at h
  | ok a => simpa [liftNilDeref] using hf a rfl

/-- What `ControllerRequest.serve` keeps of a method's errors. -/
theorem serve {m : ControllerM (β × Option Err)} (h : ErrorsIn P m) {calls calls' : List PluginCall}
    {err : Err} (hm : ((·.2) <$> m) calls = .ok (some err, calls')) : P err := by
  simp only [ControllerM.map_apply] at hm
  rcases hx : m calls with e | ⟨⟨a, err'⟩, calls₁⟩ <;>
    simp only [hx, reduceCtorEq, Except.ok.injEq, Prod.mk.injEq] at hm
  exact h _ _ _ _ hx hm.1

end ErrorsIn

/-! ### One lemma per method -/

section Methods

variable (c : Cluster)

theorem DeleteVolume_errors (req : DeleteVolumeRequest) :
    ErrorsIn (StatusIn serviceCodes) (DeleteVolume c req) := by
  unfold DeleteVolume
  generalize c.splitVolumeId req.volumeId = ids
  obtain ⟨b, v⟩ := ids
  dsimp only
  split
  · exact .ok _
  · split <;>
    · refine .bind fun a => ?_
      cases a
      exacts [.status _ (by decide) _, .ok _]

theorem ControllerExpandVolume_errors (req : ControllerExpandVolumeRequest) :
    ErrorsIn (StatusIn serviceCodes) (ControllerExpandVolume c req) := by
  unfold ControllerExpandVolume
  simp only []
  split
  · exact .status _ (by decide) _
  split
  · exact .status _ (by decide) _
  split
  · exact .status _ (by decide) _
  split
  · exact .status _ (by decide) _
  split
  · exact .throw _
  · exact .status _ (by decide) _
  · split <;>
    · refine .bind fun a => ?_
      cases a
      exacts [.status _ (by decide) _, .ok _]

theorem ControllerPublishVolume_errors (req : ControllerPublishVolumeRequest) :
    ErrorsIn (StatusIn serviceCodes) (ControllerPublishVolume c req) := by
  unfold ControllerPublishVolume
  generalize c.splitVolumeId req.volumeId = ids
  obtain ⟨b, v⟩ := ids
  dsimp only
  split
  · exact .status _ (by decide) _
  split
  · exact .status _ (by decide) _
  refine .bind fun a => ?_
  cases a
  · exact .status _ (by decide) _
  · dsimp only
    split
    exacts [.status _ (by decide) _, .ok _]

theorem ControllerUnpublishVolume_errors (req : ControllerUnpublishVolumeRequest) :
    ErrorsIn (StatusIn serviceCodes) (ControllerUnpublishVolume c req) := by
  unfold ControllerUnpublishVolume
  generalize c.splitVolumeId req.volumeId = ids
  obtain ⟨b, v⟩ := ids
  dsimp only
  split
  · exact .ok _
  split
  · exact .status _ (by decide) _
  refine .bind fun a => ?_
  cases a
  exacts [.status _ (by decide) _, .ok _]

theorem CreateSnapshot_errors (req : CreateSnapshotRequest) :
    ErrorsIn (StatusIn serviceCodes) (CreateSnapshot c req) := by
  unfold CreateSnapshot
  simp only []
  split
  · exact .status _ (by decide) _
  split
  · exact .status _ (by decide) _
  split
  · exact .status _ (by decide) _
  refine .bind fun a => ?_
  cases a
  · exact .status _ (by decide) _
  · exact .bind fun _ => .bind fun _ => .bind fun _ => .ok _

theorem DeleteSnapshot_errors (req : DeleteSnapshotRequest) :
    ErrorsIn (StatusIn serviceCodes) (DeleteSnapshot c req) := by
  unfold DeleteSnapshot
  simp only []
  split
  · exact .status _ (by decide) _
  split
  · exact .ok _
  refine .bind fun a => ?_
  cases a
  exacts [.status _ (by decide) _, .ok _]

/-- What an error of `CreateVolume` can be: a status, a plain error, or an error passed on from
`GetVolumeConfiguration` or `backend.ValidateBackend`. -/
def CreateVolumeError (req : CreateVolumeRequest) (err : Err) : Prop :=
  StatusIn serviceCodes err ∨ PlainError err ∨ c.getVolumeConfiguration req.name = .error err ∨
    ∃ bk ps, c.validateBackend bk ps = some err

variable {c}

/-- An error of `processCreateVolumeParameters` is one of `CreateVolume`'s. -/
theorem CreateVolumeError.of_parameters {req : CreateVolumeRequest} {ps : Option GoMap} {err : Err}
    (he : processCreateVolumeParameters c.toHelpers req = .ok (ps, some err)) :
    CreateVolumeError c req err := by
  rcases processCreateVolumeParameters_error he with rfl | hp
  · exact .inl ⟨_, by decide, _, rfl⟩
  · exact .inr (.inl hp)

variable (c)

theorem createVolume_errors (req : CreateVolumeRequest) :
    ErrorsIn (CreateVolumeError c req) (createVolume c req) := by
  unfold createVolume
  refine .bind_liftNilDeref fun ⟨parameters, err⟩ hp => ?_
  simp only []
  split
  · exact .error _ (.of_parameters hp)
  refine .bind fun _ => ?_
  split
  · exact .error _ (.inl ⟨_, by decide, _, rfl⟩)
  refine .bind fun _ => .bind fun a => ?_
  cases a
  exacts [.error _ (.inl ⟨_, by decide, _, rfl⟩), .ok _]

theorem manageVolume_errors (req : CreateVolumeRequest) (volumeName backendName : String) :
    ErrorsIn (CreateVolumeError c req) (manageVolume c req volumeName backendName) := by
  unfold manageVolume
  split
  · exact .error _ (.inr (.inl (.manageBackend _ _)))
  split
  · exact .error _ (.inr (.inl (.manageSource _)))
  refine .bind_liftNilDeref fun ⟨parameters, err⟩ hp => ?_
  simp only []
  split
  · exact .error _ (.of_parameters hp)
  split
  · rename_i err hv
    exact .error _ (.inr (.inr (.inr ⟨_, _, hv⟩)))
  refine .bind fun a => ?_
  cases a
  · exact .error _ (.inl ⟨_, by decide, _, rfl⟩)
  · refine .bind fun r => ?_
    split
    · exact .error _ (.inl ⟨_, by decide, _, rfl⟩)
    · exact .bind fun _ => .ok _

theorem CreateVolume_errors (req : CreateVolumeRequest) :
    ErrorsIn (CreateVolumeError c req) (CreateVolume c req) := by
  unfold CreateVolume
  split
  · rename_i err he
    obtain ⟨msg, rfl⟩ := checkCreateVolumeRequest_error he
    exact .error _ (.inl ⟨_, by decide, msg, rfl⟩)
  split
  · rename_i err hg
    split
    · exact .error _ (.inr (.inr (.inl hg)))
    · exact createVolume_errors c req
  · simp only []
    split
    · exact .error _ (.inl ⟨_, by decide, _, rfl⟩)
    · split
      · exact manageVolume_errors c req _ _
      · exact createVolume_errors c req

end Methods

/-- **Which errors come back with a gRPC status.** Every error the controller service returns is
a status with the code `InvalidArgument`, `FailedPrecondition`, `Internal` or `Unimplemented`,
except errors of `CreateVolume` of two kinds: errors it passes on from `GetVolumeConfiguration`
or `backend.ValidateBackend`, and the five plain texts of `PlainError` (an unsupported or a
second `nfsvers` mount flag, a description over 255 bytes, and on import a missing backend or a
content source). The plain texts are no status, so gRPC sends them with the code `Unknown`,
although each reports a mistake in the request. -/
theorem service_errors (c : Cluster) (r : ControllerRequest) (calls calls' : List PluginCall) (err : Err)
    (h : r.serve c calls = .ok (some err, calls')) :
    StatusIn ["InvalidArgument", "FailedPrecondition", "Internal", "Unimplemented"] err ∨
      ∃ req, r = .createVolume req ∧
        (PlainError err ∧ ¬IsStatus err ∨ c.getVolumeConfiguration req.name = .error err ∨
          ∃ bk ps, c.validateBackend bk ps = some err) := by
  cases r with
  | createVolume req =>
    rcases (CreateVolume_errors c req).serve h with hs | hp | hg | hv
    · exact .inl hs
    · exact .inr ⟨req, rfl, .inl ⟨hp, hp.not_isStatus⟩⟩
    · exact .inr ⟨req, rfl, .inr (.inl hg)⟩
    · exact .inr ⟨req, rfl, .inr (.inr hv)⟩
  | deleteVolume req => exact .inl ((DeleteVolume_errors c req).serve h)
  | controllerExpandVolume req => exact .inl ((ControllerExpandVolume_errors c req).serve h)
  | controllerPublishVolume req => exact .inl ((ControllerPublishVolume_errors c req).serve h)
  | controllerUnpublishVolume req => exact .inl ((ControllerUnpublishVolume_errors c req).serve h)
  | createSnapshot req => exact .inl ((CreateSnapshot_errors c req).serve h)
  | deleteSnapshot req => exact .inl ((DeleteSnapshot_errors c req).serve h)
  | controllerGetCapabilities => simp [ControllerRequest.serve] at h
  | validateVolumeCapabilities | listVolumes | getCapacity =>
    simp only [ControllerRequest.serve, ControllerM.pure_apply, Except.ok.injEq, Prod.mk.injEq,
      Option.some.injEq] at h
    exact .inl ⟨_, by decide, _, h.1.symm⟩
  | listSnapshots | controllerGetVolume =>
    simp only [ControllerRequest.serve, ControllerM.pure_apply, Except.ok.injEq, Prod.mk.injEq,
      Option.some.injEq] at h
    exact .inl ⟨_, by decide, _, h.1.symm⟩

/-- `demoRequest` with the mount flag `nfsvers=3.0`, which `nfsProtocolMap` does not list. -/
def nfs30Request : CreateVolumeRequest :=
  { demoRequest with volumeCapabilities := [⟨.mount ["nfsvers=3.0"], .singleNodeWriter⟩] }

/-- Asking for NFS 3.0 on the sample cluster passes `checkCreateVolumeRequest` and fails with a
plain error, which reaches the caller as `Unknown`. -/
theorem service_errors_nfs30 :
    (ControllerRequest.createVolume nfs30Request).serve demoCluster [] =
        .ok (some "unsupported nfs protocol version [nfsvers=3.0].", []) ∧
      ¬IsStatus "unsupported nfs protocol version [nfsvers=3.0]." ∧
      (StatusIn ["InvalidArgument", "FailedPrecondition", "Internal", "Unimplemented"]
          "unsupported nfs protocol version [nfsvers=3.0]." ∨
        ∃ req, ControllerRequest.createVolume nfs30Request = .createVolume req ∧
          (PlainError "unsupported nfs protocol version [nfsvers=3.0]." ∧
              ¬IsStatus "unsupported nfs protocol version [nfsvers=3.0]." ∨
            demoCluster.getVolumeConfiguration req.name = .error "unsupported nfs protocol version [nfsvers=3.0]." ∨
            ∃ bk ps, demoCluster.validateBackend bk ps = some "unsupported nfs protocol version [nfsvers=3.0].")) :=
  ⟨rfl, (PlainError.unsupportedNfs "nfsvers=3.0").not_isStatus,
    service_errors demoCluster (.createVolume nfs30Request) [] [] _ rfl⟩

end CsiPlugin
