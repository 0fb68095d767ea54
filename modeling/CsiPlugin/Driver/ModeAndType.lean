import CsiPlugin.Driver.ControllerHelper
set_option warningAsError true

/-!
# CsiPlugin.Driver.ModeAndType

**What `validateModeAndType` decides.** Its loop over the capabilities overwrites `volumeMode`
on every iteration but only ever raises `accessMode` to `RWX`, so after the loop it holds the
mode of the *last* capability and whether *any* capability is `MULTI_NODE_MULTI_WRITER`
(`foldl_modeStep_fst`, `foldl_modeStep_snd`). The verdict (`validateModeAndType_verdict`) is
therefore a check on the last capability's mode, and a block capability that is not last goes
unseen (`validateModeAndType_last_mode_wins`). When all capabilities share one mode — the
shape of the requests the orchestrator builds — the verdict is the per-capability one.
-/

namespace CsiPlugin

/-- The volume mode the loop records for one capability. -/
def VolumeCapability.volumeMode (v : VolumeCapability) : String :=
  if v.isBlock then Block else FileSystem

/-- The capability asks for `MULTI_NODE_MULTI_WRITER`. -/
def VolumeCapability.isRWX (v : VolumeCapability) : Bool :=
  v.accessMode = .multiNodeMultiWriter

/-- After the loop, `volumeMode` is the last capability's mode. -/
theorem foldl_modeStep_fst (caps : List VolumeCapability) (acc : String × String) :
    (caps.foldl modeStep acc).1 = (caps.getLast?.map VolumeCapability.volumeMode).getD acc.1 := by
  induction caps generalizing acc with
  | nil => rfl
  | cons v rest ih =>
    rw [List.foldl_cons, ih, List.getLast?_cons]
    cases rest.getLast? <;> rfl

/-- After the loop, `accessMode` is `RWX` when any capability is `MULTI_NODE_MULTI_WRITER`. -/
theorem foldl_modeStep_snd (caps : List VolumeCapability) (acc : String × String) :
    (caps.foldl modeStep acc).2 = if caps.any VolumeCapability.isRWX then RWX else acc.2 := by
  induction caps generalizing acc with
  | nil => rfl
  | cons v rest ih =>
    rw [List.foldl_cons, ih, List.any_cons]
    by_cases hv : v.isRWX <;> simp_all [modeStep, VolumeCapability.isRWX]

/-- `validateModeAndType` on a non-empty list, with the loop replaced by what it computes. -/
theorem validateModeAndType_of_ne_nil {caps : List VolumeCapability} (h : caps ≠ [])
    (ps : GoMap) :
    validateModeAndType caps ps =
      if (caps.getLast h).isBlock &&
          ((ps.get "volumeType").isStr "fs" || (ps.get "volumeType").isStr "dtree") then
        "VolumeMode is block but volumeType is " ++ toStringSafe (ps.get "volumeType") ++
          ". Please check the storage class"
      else if caps.any VolumeCapability.isRWX && !(caps.getLast h).isBlock &&
          (ps.get "volumeType").isStr "lun" then
        "If volumeType in the sc.yaml file is set to \"lun\" and volumeMode in the pvc.yaml file is " ++
          "set to \"Filesystem\", accessModes in the pvc.yaml file cannot be set to \"ReadWriteMany\"."
      else if toStringSafe (ps.get "fsType") ≠ "" &&
          !supportedFsTypes.contains (toStringSafe (ps.get "fsType")) then
        "fsType " ++ toStringSafe (ps.get "fsType") ++
          " is not correct, [ext2, ext3, ext4, xfs] are support." ++
          " Please check the storage class "
      else "" := by
  have hfst := foldl_modeStep_fst caps ("", "")
  have hsnd := foldl_modeStep_snd caps ("", "")
  rw [List.getLast?_eq_getLast caps h] at hfst
  simp only [Option.map_some', Option.getD_some] at hfst
  simp only [validateModeAndType, List.isEmpty_iff, h, if_false]
  generalize caps.foldl modeStep ("", "") = r at hfst hsnd ⊢
  obtain ⟨vm, am⟩ := r
  dsimp only at hfst hsnd ⊢
  subst hfst hsnd
  by_cases hb : (caps.getLast h).isBlock <;> by_cases hr : caps.any VolumeCapability.isRWX <;>
    simp [hb, hr, VolumeCapability.volumeMode, Block, FileSystem, RWX, volumeTypeFileSystem,
      volumeTypeDTree, volumeTypeLun]

/-- `fsType` is empty or one of `ext2`, `ext3`, `ext4`, `xfs`. -/
def FsTypeOk (ps : GoMap) : Prop :=
  toStringSafe (ps.get "fsType") = "" ∨ toStringSafe (ps.get "fsType") ∈ supportedFsTypes

instance (ps : GoMap) : Decidable (FsTypeOk ps) :=
  inferInstanceAs (Decidable (_ ∨ _))

/-- The per-capability verdict: no block capability with an `fs` or `dtree` volume type, no
filesystem capability asking for `MULTI_NODE_MULTI_WRITER` with a `lun` volume type, and an
acceptable `fsType`. -/
def PerCapabilityOk (caps : List VolumeCapability) (ps : GoMap) : Prop :=
  (∀ v ∈ caps, v.isBlock →
    ¬((ps.get "volumeType").isStr "fs" ∨ (ps.get "volumeType").isStr "dtree")) ∧
  (∀ v ∈ caps, v.isBlock = false → v.isRWX → (ps.get "volumeType").isStr "lun" = false) ∧
  FsTypeOk ps

/-- The verdict on a non-empty list: the block check reads only the last capability, the
`ReadWriteMany` check any `MULTI_NODE_MULTI_WRITER` capability together with the last one's
mode. -/
theorem validateModeAndType_eq_empty_iff {caps : List VolumeCapability} (h : caps ≠ [])
    (ps : GoMap) :
    validateModeAndType caps ps = "" ↔
      ¬((caps.getLast h).isBlock ∧
        ((ps.get "volumeType").isStr "fs" ∨ (ps.get "volumeType").isStr "dtree")) ∧
      ¬((∃ v ∈ caps, v.isRWX) ∧ (caps.getLast h).isBlock = false ∧
        (ps.get "volumeType").isStr "lun") ∧
      FsTypeOk ps := by
  have hmem : ∀ s, supportedFsTypes.contains s = true ↔ s ∈ supportedFsTypes :=
    fun _ => List.elem_iff
  rw [validateModeAndType_of_ne_nil h]
  split_ifs with h1 h2 h3
  · simp only [Bool.and_eq_true, Bool.or_eq_true] at h1
    simp [h1]
  · simp only [Bool.and_eq_true, Bool.not_eq_true', List.any_eq_true] at h2
    simp only [h2, and_self, not_true_eq_false, false_and, and_false, iff_false]
    decide
  · simp only [Bool.and_eq_true, decide_eq_true_eq, Bool.not_eq_true', ← Bool.not_eq_true,
      hmem] at h3
    simp [FsTypeOk, h3.1, h3.2]
  · simp only [Bool.and_eq_true, Bool.or_eq_true, not_and, List.any_eq_true, Bool.not_eq_true',
      decide_eq_true_eq, ← Bool.not_eq_true, hmem, not_not] at h1 h2 h3
    simp only [true_iff, FsTypeOk]
    refine ⟨fun ⟨hb, hv⟩ => ?_, fun ⟨hr, hb, hl⟩ => ?_, ?_⟩
    · simp_all
    · simp_all
    · by_cases he : toStringSafe (ps.get "fsType") = ""
      · exact Or.inl he
      · exact Or.inr (h3 he)

/-- **The verdict of `validateModeAndType`.** On every non-empty list it rejects a block
*last* capability with an `fs` or `dtree` volume type, a `lun` volume type when any capability
asks for `MULTI_NODE_MULTI_WRITER` and the *last* capability is a filesystem, and an unknown
`fsType`. When all capabilities share one mode, this is the per-capability verdict. -/
theorem validateModeAndType_verdict (caps : List VolumeCapability) (ps : GoMap) (h : caps ≠ []) :
    (validateModeAndType caps ps = "" ↔
      ¬((caps.getLast h).isBlock ∧
        ((ps.get "volumeType").isStr "fs" ∨ (ps.get "volumeType").isStr "dtree")) ∧
      ¬((∃ v ∈ caps, v.isRWX) ∧ (caps.getLast h).isBlock = false ∧
        (ps.get "volumeType").isStr "lun") ∧
      FsTypeOk ps) ∧
    ((∀ v ∈ caps, ∀ w ∈ caps, v.isBlock = w.isBlock) →
      (validateModeAndType caps ps = "" ↔ PerCapabilityOk caps ps)) := by
  refine ⟨validateModeAndType_eq_empty_iff h ps, fun hsame => ?_⟩
  have hlast := List.getLast_mem h
  have hmode : ∀ v ∈ caps, v.isBlock = (caps.getLast h).isBlock := fun v hv => hsame v hv _ hlast
  rw [validateModeAndType_eq_empty_iff h ps, PerCapabilityOk]
  refine and_congr ⟨fun hn v hv hb ht => hn ⟨hmode v hv ▸ hb, ht⟩,
    fun hp ⟨hb, ht⟩ => hp _ hlast hb ht⟩ (and_congr_left fun _ => ?_)
  constructor
  · intro hn v hv hb hr
    by_contra hl
    exact hn ⟨⟨v, hv, hr⟩, hmode v hv ▸ hb, by simpa using hl⟩
  · rintro hp ⟨⟨v, hv, hr⟩, hb, hl⟩
    simp [hp v hv ((hmode v hv).trans hb) hr] at hl

/-- A mixed list on a LUN: a multi-writer filesystem capability followed by a block one passes,
as the last mode is block; in the other order the last mode is filesystem and it fails. -/
theorem validateModeAndType_verdict_mixed :
    validateModeAndType [⟨.mount [], .multiNodeMultiWriter⟩, ⟨.block, .singleNodeWriter⟩]
        [("volumeType", .str "lun")] = "" ∧
    validateModeAndType [⟨.block, .singleNodeWriter⟩, ⟨.mount [], .multiNodeMultiWriter⟩]
        [("volumeType", .str "lun")] ≠ "" :=
  ⟨(validateModeAndType_verdict _ _ (List.cons_ne_nil _ _)).1.2 ⟨by decide, by decide, by decide⟩,
    fun h => absurd ((validateModeAndType_verdict _ _ (List.cons_ne_nil _ _)).1.1 h) (by decide)⟩

/-- A block capability that is not last goes unseen: the same two capabilities pass in one
order and fail in the other. -/
theorem validateModeAndType_last_mode_wins :
    validateModeAndType [⟨.block, .singleNodeWriter⟩, ⟨.mount [], .singleNodeWriter⟩]
        [("volumeType", .str "fs")] = "" ∧
    validateModeAndType [⟨.mount [], .singleNodeWriter⟩, ⟨.block, .singleNodeWriter⟩]
        [("volumeType", .str "fs")] ≠ "" := by
  decide

end CsiPlugin
