import CsiPlugin.Driver.CreateVolume
import CsiPlugin.Driver.NfsProtocol
set_option warningAsError true

/-!
# CsiPlugin.Driver.CreateVolumeContract

**What the parameter map holds after the CreateVolume checks.**

`create_volume_parameters` is the contract of `processCreateVolumeParameters` on a request
`checkCreateVolumeRequest` accepted: the call does not panic, and a map it returns without error
holds the capacity under `size`, the backend `resolvedBackend` names, a `description` of at most
`maxDescriptionLength` bytes and the accessibility requirements, with every other key as the
storage class had it. Each step of the call has a frame lemma (the keys it leaves alone) and a
lemma for what it writes; the contract chains them.
-/

namespace CsiPlugin

/-! ### The steps of `processCreateVolumeParameters` -/

/-- The backend the storage class names: a non-empty `cloneFrom`'s, else `GetBackendName` of a
string `backend`, else `backend` as it is. -/
def classBackend (h : Helpers) (ps : GoMap) : Value :=
  match ((ps.get "cloneFrom").asString).filter (· ≠ "") with
  | some c => .str (h.splitVolumeId c).1
  | none =>
    match (ps.get "backend").asString with
    | some b => .str (h.getBackendName b)
    | none => ps.get "backend"

/-- The backend a content source names. -/
def ContentSource.backend (h : Helpers) : ContentSource → Option String
  | .snapshot id => some (h.splitSnapshotId id).1
  | .volume id => some (h.splitVolumeId id).1
  | .neither => none

section Steps

variable (h : Helpers) {ps : GoMap} {k : String}

theorem processBackendName_get_ne (hk : k ≠ "backend") : (processBackendName h ps).get k = ps.get k := by
  unfold processBackendName
  split <;> simp [hk]

theorem processCloneFrom_get_ne (hb : k ≠ "backend") (hc : k ≠ "cloneFrom") :
    (processCloneFrom h ps).get k = ps.get k := by
  unfold processCloneFrom
  split
  · split <;> simp [hb, hc]
  · rfl

/-- The content source writes only the source names and `backend`. -/
theorem processVolumeContentSource_get_ne (src : Option ContentSource)
    (hk : k ∉ ["backend", "sourceSnapshotName", "snapshotParentId", "sourceVolumeName"]) :
    (processVolumeContentSource h src ps).1.get k = ps.get k := by
  simp only [List.mem_cons, List.not_mem_nil, or_false, not_or] at hk
  rcases src with _ | ⟨_ | _⟩ | _ <;> simp [processVolumeContentSource, hk]

theorem processAccessibilityRequirements_get_ne (t : Option TopologyRequirement)
    (hk : k ≠ h.topology) : (processAccessibilityRequirements h t ps).get k = ps.get k := by
  cases t <;> simp [processAccessibilityRequirements, hk]

theorem processNFSProtocol_get_ne (caps : List VolumeCapability) (hk : k ≠ "nfsProtocol") :
    (processNFSProtocol caps ps).1.get k = ps.get k := by
  rw [(processNFSProtocol_agrees caps ps).1, tokenLoop_get_ne _ _ hk]

theorem processDescription_get_ne (hk : k ≠ "description") :
    (processDescription ps).1.get k = ps.get k := by
  unfold processDescription
  split
  · simp [hk]
  · split <;> rfl

/-- After a successful `processDescription`, `description` is the storage class's, or the
default when it had none, and fits in `maxDescriptionLength` bytes. -/
theorem processDescription_ok {ps' : GoMap} (hd : processDescription ps = (ps', none)) :
    ps'.get "description" = .str (((ps.get "description").asString).getD defaultDescription) ∧
      (((ps.get "description").asString).getD defaultDescription).utf8ByteSize ≤
        maxDescriptionLength := by
  unfold processDescription at hd
  rcases hs : (ps.get "description").asString with _ | d <;> simp only [hs] at hd
  · cases hd
    exact ⟨by simp, by decide⟩
  · split at hd
    · cases hd
    · rename_i hl
      cases hd
      exact ⟨Value.asString_eq_some.mp hs, Nat.not_lt.mp hl⟩

/-- The backend the storage class names, as the first three steps leave it. -/
theorem processCloneFrom_backend :
    (processCloneFrom h (processBackendName h ps)).get "backend" = classBackend h ps := by
  have hc : (processBackendName h ps).get "cloneFrom" = ps.get "cloneFrom" :=
    processBackendName_get_ne h (by decide)
  have hb : (processBackendName h ps).get "backend" =
      match (ps.get "backend").asString with
      | some b => .str (h.getBackendName b)
      | none => ps.get "backend" := by
    unfold processBackendName
    cases (ps.get "backend").asString <;> simp
  unfold processCloneFrom
  rw [hc]
  cases hcl : (ps.get "cloneFrom").asString with
  | none => simpa [classBackend, hcl] using hb
  | some c => by_cases he : c = "" <;> simp [classBackend, he, hb, hcl, Option.filter]

/-- The content source names the backend, when it is a snapshot or a volume. -/
theorem processVolumeContentSource_backend {src : Option ContentSource} {ps' : GoMap}
    (hs : processVolumeContentSource h src ps = (ps', none)) :
    ps'.get "backend" = ((src.bind (·.backend h)).map .str).getD (ps.get "backend") := by
  rcases src with _ | ⟨_ | _⟩ | _ <;> simp [processVolumeContentSource] at hs <;>
    simp [ContentSource.backend, ← hs]

/-- The first three steps write only `size`, `backend` and `cloneFrom`. -/
theorem classParams_get_ne (m : GoMap) (v : Value) (hk : k ∉ ["size", "backend", "cloneFrom"]) :
    (processCloneFrom h (processBackendName h (m.set "size" v))).get k = m.get k := by
  simp only [List.mem_cons, List.not_mem_nil, or_false, not_or] at hk
  rw [processCloneFrom_get_ne h hk.2.1 hk.2.2, processBackendName_get_ne h hk.2.1,
    GoMap.get_set_ne _ _ hk.1]

end Steps

/-! ### The contract -/

/-- The keys `processCreateVolumeParameters` writes, besides `backend.Topology`. -/
def createVolumeKeys : List String :=
  ["size", "backend", "cloneFrom", "sourceSnapshotName", "snapshotParentId", "sourceVolumeName",
    "nfsProtocol", "description"]

/-- The backend the parameters name for a new volume, by precedence: the content source's, else
the one the storage class names (`classBackend`). -/
def resolvedBackend (h : Helpers) (req : CreateVolumeRequest) : Value :=
  match req.volumeContentSource.bind (·.backend h) with
  | some b => .str b
  | none => classBackend h (h.copyMap req.parameters)

section Run

variable (h : Helpers) {req : CreateVolumeRequest}

/-- An accepted request has a positive capacity range, so `processCreateVolumeParameters` does
not dereference a nil pointer. -/
theorem capacityRange_of_check (ha : checkCreateVolumeRequest h req = none) :
    ∃ b, req.capacityRange = some b ∧ 0 < b := by
  unfold checkCreateVolumeRequest at ha
  cases hc : req.capacityRange with
  | none => simp [hc] at ha
  | some b =>
    refine ⟨b, rfl, ?_⟩
    by_contra hb
    have hle : b ≤ 0 := by omega
    simp [hc, hle] at ha

/-- A successful `processCreateVolumeParameters`, step by step. -/
theorem processCreateVolumeParameters_ok {ps : GoMap}
    (hr : processCreateVolumeParameters h req = .ok (some ps, none)) :
    ∃ b ps₁ ps₂, req.capacityRange = some b ∧
      processVolumeContentSource h req.volumeContentSource
        (processCloneFrom h (processBackendName h ((h.copyMap req.parameters).set "size" (.int b)))) =
          (ps₁, none) ∧
      processNFSProtocol req.volumeCapabilities
        (processAccessibilityRequirements h req.accessibilityRequirements ps₁) = (ps₂, none) ∧
      processDescription ps₂ = (ps, none) := by
  unfold processCreateVolumeParameters at hr
  rcases hc : req.capacityRange with _ | b <;> simp only [hc, reduceCtorEq] at hr
  split at hr
  · simp at hr
  rename_i ps₁ hs
  split at hr
  · simp at hr
  rename_i ps₂ hn
  split at hr
  · simp at hr
  rename_i ps₃ hd
  simp only [Except.ok.injEq, Prod.mk.injEq, Option.some.injEq, and_true] at hr
  exact ⟨b, ps₁, ps₂, rfl, hs, hn, hr ▸ hd⟩

/-- Only a content source with neither field set makes the content-source step fail. -/
theorem processVolumeContentSource_snd (src : Option ContentSource) (ps : GoMap) :
    (processVolumeContentSource h src ps).2.isSome = (src == some .neither) := by
  rcases src with _ | ⟨_ | _⟩ | _ <;> rfl

/-- The results `processCreateVolumeParameters` can return once the capacity is there: a map
with no error, a map with the content-source error, or no map with an error. -/
theorem processCreateVolumeParameters_shape {b : Int} (hb : req.capacityRange = some b) :
    ∃ r, processCreateVolumeParameters h req = .ok r ∧ (r.2 = none → r.1.isSome) ∧
      (∀ err, r.2 = some err → (r.1.isSome ↔ req.volumeContentSource = some .neither)) := by
  have hsrc := processVolumeContentSource_snd h req.volumeContentSource
    (processCloneFrom h (processBackendName h ((h.copyMap req.parameters).set "size" (.int b))))
  unfold processCreateVolumeParameters
  simp only [hb]
  split <;> rename_i hs <;> simp only [hs, Option.isSome_some, Option.isSome_none] at hsrc
  · simp [beq_iff_eq.mp hsrc.symm]
  · simp only [Bool.false_eq, beq_eq_false_iff_ne, ne_eq] at hsrc
    split
    · simp [hsrc]
    · split <;> simp [hsrc]

/-- The entries of a map `processCreateVolumeParameters` returned without error: the capacity
under `size`, the backend `resolvedBackend` names, the storage class's `description` (or the
default) within `maxDescriptionLength` bytes, the accessibility requirements under
`backend.Topology`, and every other key as the storage class has it. -/
theorem processCreateVolumeParameters_entries (hk : h.topology ∉ createVolumeKeys) {ps : GoMap}
    (hr : processCreateVolumeParameters h req = .ok (some ps, none)) :
    (∃ b, req.capacityRange = some b ∧ ps.get "size" = .int b) ∧
    ps.get "backend" = resolvedBackend h req ∧
    ps.get "description" =
      .str (((h.copyMap req.parameters).get "description").asString.getD defaultDescription) ∧
    (((h.copyMap req.parameters).get "description").asString.getD defaultDescription).utf8ByteSize ≤
      maxDescriptionLength ∧
    (∀ t, req.accessibilityRequirements = some t →
      ps.get h.topology = .topology t.requisite t.preferred) ∧
    ∀ k, k ∉ createVolumeKeys → k ≠ h.topology → ps.get k = (h.copyMap req.parameters).get k := by
  obtain ⟨b, ps₁, ps₂, hb, hs, hn, hd⟩ := processCreateVolumeParameters_ok h hr
  simp only [createVolumeKeys, List.mem_cons, List.not_mem_nil, or_false, not_or] at hk
  obtain ⟨hsz, hbk, -, -, -, -, hnf, hde⟩ := hk
  have e₁ := congrArg Prod.fst hs
  have e₂ := congrArg Prod.fst hn
  have e₃ := congrArg Prod.fst hd
  dsimp only at e₁ e₂ e₃
  -- the last two steps leave `ps₁` alone outside `nfsProtocol`, `description` and the topology
  have last : ∀ k, k ≠ "nfsProtocol" → k ≠ h.topology → ps₂.get k = ps₁.get k := fun k h1 h2 => by
    rw [← e₂, processNFSProtocol_get_ne _ h1, processAccessibilityRequirements_get_ne h _ h2]
  have desc : ∀ k, k ≠ "description" → ps.get k = ps₂.get k := fun k h1 => by
    rw [← e₃, processDescription_get_ne h1]
  -- the steps before leave the storage class alone outside their own keys
  have first : ∀ k, k ∉ ["backend", "sourceSnapshotName", "snapshotParentId", "sourceVolumeName"] →
      k ∉ ["size", "backend", "cloneFrom"] → ps₁.get k = (h.copyMap req.parameters).get k :=
    fun k h1 h2 => by
      rw [← e₁, processVolumeContentSource_get_ne h _ h1, classParams_get_ne h _ _ h2]
  obtain ⟨hdesc, hlen⟩ := processDescription_ok hd
  refine ⟨⟨b, hb, ?_⟩, ?_, ?_, ?_, fun t ht => ?_, fun k hk hkt => ?_⟩
  · -- size
    rw [desc _ (by decide), last _ (by decide) (Ne.symm hsz), ← e₁,
      processVolumeContentSource_get_ne h _ (by decide), processCloneFrom_get_ne h (by decide) (by decide),
      processBackendName_get_ne h (by decide), GoMap.get_set_self]
  · -- backend
    rw [desc _ (by decide), last _ (by decide) (Ne.symm hbk), processVolumeContentSource_backend h hs,
      processCloneFrom_backend]
    unfold resolvedBackend
    cases req.volumeContentSource.bind (·.backend h) <;> rfl
  · -- description
    rw [hdesc, last _ (by decide) (Ne.symm hde), first _ (by decide) (by decide)]
  · rw [← first _ (by decide) (by decide), ← last _ (by decide) (Ne.symm hde)]
    exact hlen
  · -- accessibility requirements
    rw [desc _ hde, ← e₂, processNFSProtocol_get_ne _ hnf]
    simp [processAccessibilityRequirements, ht]
  · -- every other key
    simp only [createVolumeKeys, List.mem_cons, List.not_mem_nil, or_false, not_or] at hk
    obtain ⟨h1, h2, h3, h4, h5, h6, h7, h8⟩ := hk
    rw [desc _ h8, last _ h7 hkt, first _ (by simp [h2, h4, h5, h6]) (by simp [h1, h2, h3])]

end Run

/-- Helpers that copy the storage class as strings, keep backend names, and store the topology
under `topology`. -/
def demoHelpers : Helpers where
  copyMap ps := ps.map fun (k, v) => (k, .str v)
  getBackendName b := b
  splitVolumeId id := ("", id)
  splitSnapshotId id := ("", "", id)
  topology := "topology"

end CsiPlugin
