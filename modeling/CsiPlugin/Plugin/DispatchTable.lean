import CsiPlugin.Plugin.Dispatch
set_option warningAsError true

/-!
# CsiPlugin.Plugin.DispatchTable

**The HyperMetro dispatch table, when no flag changes during the call.** With no concurrent
step scheduled (a state `⟨w, [], t⟩`), every read of a `storageOnline` flag sees `w`, and the
client handles `pickClients` chooses agree with the reads that follow. The call then does what
the design notes' table says (`dispatchTable`): the LUN is looked up on the side
`lookupSide` names; a LUN that is not HyperMetro runs the local strategy on `p`; a HyperMetro
LUN runs the dual-array strategy when both sides are online, once the pair lookup on the local
array found the pair, and the strategy of the one online side, with a warning, otherwise.

The table is written in the design's own terms: the HyperMetro test on the relationship blob
(`hyperMetroActive`), each side's attacher built from that side's product, protocol, portals and
path-priority policy (`sideAttacher`), and the pair statuses each operation takes as healthy
(`pairWarnings`). `isHyperMetro_eq`, `newAttacher_side` and `pairStatusWarning_eq` tie the code's
test, attacher construction and warnings to them, and `dispatch_table` states the table for
descriptors with string `NAME` and `ID`. `dispatch_table_bonded` runs it on two arrays of
different products, whose strategies report the attachers they were given.
`attach_contract_breaks` shows two descriptors outside that set: the call panics on a failed
type assertion, and a strategy's nil mapping with a nil error comes back as neither.
-/

namespace CsiPlugin

/-- The side `getLunInfo` looks the LUN up on: `p` when it is online, else the metro remote when
it is configured and online. -/
def lookupSide (w : SanPair) : Option Side :=
  if w.p.storageOnline then some .p else if w.metro && w.r.storageOnline then some .r else none

/-! ### The table, in the design's terms -/

/-- The two operations the table dispatches. -/
inductive VolumeOp where
  | attach
  | detach
  deriving Repr, DecidableEq

/-- The strategy method an operation runs. -/
def VolumeOp.method : VolumeOp → String
  | .attach => "ControllerAttach"
  | .detach => "ControllerDetach"

/-- The design's HyperMetro test: the relationship blob `HASRSSOBJECT` is a string that decodes to
an object whose `HyperMetro` entry is `TRUE`. A missing or malformed blob is not HyperMetro. -/
def hyperMetroActive (ext : Arrays) (lun : GoMap) : Bool :=
  match lun.get "HASRSSOBJECT" with
  | .str blob => ((ext.unmarshal blob).bind fun rss => rss "HyperMetro") == some "TRUE"
  | _ => false

/-- The attacher of one side, built fresh from that plugin's own product, protocol, portals and
path-priority policy, over the side's own client, for the invoker `csi`. -/
def sideAttacher (w : SanPair) (x : Side) : AttacherCfg :=
  ⟨(w.get x).product, some x, (w.get x).protocol, "csi", (w.get x).portals, (w.get x).alua⟩

/-- The pair running statuses an operation takes as healthy: normal (`1`), and for a detach also
paused (`41`). -/
def healthyStatuses : VolumeOp → List String
  | .attach => ["1"]
  | .detach => ["1", "41"]

/-- The warning on a pair whose running status is not healthy for the operation. -/
def pairWarnings (op : VolumeOp) (i : String) (status : Value) : List Event :=
  if (healthyStatuses op).any fun s => status.isStr s then []
  else [.warning ("hypermetro pair status of LUN " ++ i ++
    match op with
    | .attach => " is not normal"
    | .detach => " is not normal or pause")]

/-- The design notes' dispatch table for a LUN `lun` named `n` with identifier `i`: the events of
the handler and its output. A LUN that is not HyperMetro runs the local strategy; a HyperMetro
LUN runs the dual-array strategy over both sides' attachers when both sides are online, once the
local array found its pair, and otherwise the strategy of the one online side, with a warning. -/
def dispatchTable (ext : Arrays) (w : SanPair) (lun : GoMap) (n i : String) (op : VolumeOp)
    (params : GoMap) : List Event × HandlerOut :=
  let run (a : Attacher) (before : List Event) : List Event × HandlerOut :=
    (before ++ [.strategy a op.method n], (some (ext.call a op.method n params), none))
  if !hyperMetroActive ext lun then run (.single (sideAttacher w .p)) []
  else if w.p.storageOnline && w.metro && w.r.storageOnline then
    let getPair := Event.arrayOp .p "GetHyperMetroPairByLocalObjID" i
    match ext.getHyperMetroPairByLocalObjID .p i with
    | (_, some err) => ([getPair], (none, some err))
    | (none, none) => ([getPair], (none, some ("hypermetro pair of LUN " ++ i ++ " doesn't exist")))
    | (some pair, none) =>
      run (.metro (sideAttacher w .p) (sideAttacher w .r) w.p.protocol)
        (getPair :: pairWarnings op i (pair.get "RUNNINGSTATUS"))
  else if w.p.storageOnline then
    run (.single (sideAttacher w .p))
      [.warning ("the lun " ++ n ++ " is hyperMetro, but just the local storage is online")]
  else if w.metro && w.r.storageOnline then
    run (.single (sideAttacher w .r))
      [.warning ("the lun " ++ n ++ " is hyperMetro, but just the remote storage is online")]
  else ([], (none, none))

/-! ### The code against the table -/

/-- `isHyperMetro` is the design's test. -/
theorem isHyperMetro_eq (ext : Arrays) (lun : GoMap) : isHyperMetro ext lun = hyperMetroActive ext lun := by
  unfold isHyperMetro hyperMetroActive
  cases lun.get "HASRSSOBJECT" <;> simp only [Value.asString]
  cases ext.unmarshal _ <;> rfl

/-- `newAttacher` on a side's own client builds the side's attacher. -/
theorem newAttacher_side (w : SanPair) (x : Side) : (w.get x).newAttacher (some x) = sideAttacher w x := rfl

/-- `metroHandler`'s warnings are the table's. -/
theorem pairStatusWarning_eq (op : VolumeOp) (i : String) (status : Value) :
    (pairStatusWarning op.method i status).toList.map .warning = pairWarnings op i status := by
  cases op <;> cases h1 : status.isStr "1" <;> cases h41 : status.isStr "41" <;>
    simp [pairStatusWarning, pairWarnings, healthyStatuses, VolumeOp.method, h1, h41]

/-- `getLunInfo` asks the array `lookupSide` names, through the handle `pickClients` chose. -/
theorem getLunInfo_fixed (ext : Arrays) (w : SanPair) (t : List Event) (lunName : String) :
    getLunInfo ext (fixedClients w).1 (fixedClients w).2 lunName ⟨w, [], t⟩ =
      match lookupSide w with
      | none => .ok ((none, some "both the local and remote storage are not online"), ⟨w, [], t⟩)
      | some x => .ok (ext.getLunByName x lunName, ⟨w, [], t ++ [.arrayOp x "GetLunByName" lunName]⟩) := by
  unfold lookupSide fixedClients
  cases hp : w.p.storageOnline <;> cases hm : w.metro <;> cases hr : w.r.storageOnline <;>
    simp [getLunInfo, hp, hm, hr]

/-- `handler`, on the request `AttachVolume` or `DetachVolume` builds, follows the table. -/
theorem handler_fixed (ext : Arrays) (w : SanPair) (t : List Event) (lun params : GoMap)
    (n i : String) (op : VolumeOp) (hn : lun.get "NAME" = .str n) (hi : lun.get "ID" = .str i) :
    handler ext ⟨(fixedClients w).1, (fixedClients w).2, lun, params, op.method⟩ ⟨w, [], t⟩ =
      .ok ((dispatchTable ext w lun n i op params).2,
        ⟨w, [], t ++ (dispatchTable ext w lun n i op params).1⟩) := by
  unfold dispatchTable fixedClients
  rw [← isHyperMetro_eq]
  cases hh : isHyperMetro ext lun
  · simp [handler, commonHandler, hh, hn, ← newAttacher_side]
  cases hp : w.p.storageOnline <;> cases hq : (w.metro && w.r.storageOnline) <;>
    simp [handler, commonHandler, metroHandler, assertString, hh, hp, hq, hn, hi, ← newAttacher_side]
  rcases ext.getHyperMetroPairByLocalObjID .p i with ⟨_ | pair, _ | err⟩ <;>
    simp [← pairStatusWarning_eq, ← newAttacher_side]

/-- A bonded pair whose two arrays are different products. -/
def bondedAB : SanPair :=
  ⟨{ OceanstorSanPlugin.initialized with product := "DoradoV6" },
    { OceanstorSanPlugin.initialized with product := "OceanStorV6" }, true⟩

/-- The relationship blob of a HyperMetro LUN. -/
def metroBlob : String := "\x7b\"HyperMetro\":\"TRUE\"\x7d"

/-- Arrays that return `lun` for every name and a normal pair for every identifier, decode
`metroBlob`, and whose strategies all return `result`. -/
def demoArrays (lun : GoMap) (result : StrategyResult) : Arrays where
  makeLunName name := name
  getLunByName _ _ := (some lun, none)
  getHyperMetroPairByLocalObjID _ _ := (some [("RUNNINGSTATUS", .str "1")], none)
  unmarshal s := if s = metroBlob then some fun k => if k = "HyperMetro" then some "TRUE" else none
    else none
  errorf msg := msg
  call _ _ _ _ := result

/-- Arrays like `demoArrays`, whose strategies map the volume on the products of the attachers
they hold. -/
def tableArrays (lun : GoMap) : Arrays :=
  { demoArrays lun (none, none) with
    call := fun a _ _ _ => match a with
      | .single cfg => (some [("array", .str cfg.product)], none)
      | .metro l r _ => (some [("array", .str (l.product ++ "+" ++ r.product))], none) }

/-- `AttachVolume` on descriptors without a string `ID` or `NAME`, and on a strategy that
returns a nil mapping with a nil error. A HyperMetro LUN without a string `ID` panics in
`metroHandler`'s assertion when both sides are online; one without a string `NAME` panics in
`handler`'s degraded-pair warning when only `p` is; and the nil mapping comes back as a nil
mapping with a nil error. -/
theorem attach_contract_breaks (ext : Arrays) (w : SanPair) (t : List Event) (name : String)
    (params lun : GoMap) (hp : w.p.storageOnline = true)
    (hl : ext.getLunByName .p (ext.makeLunName name) = (some lun, none)) :
    (isHyperMetro ext lun = true → (w.metro && w.r.storageOnline) = true →
      (lun.get "ID").asString = none →
      AttachVolume ext name params ⟨w, [], t⟩ = .error (.typeAssertion "ID") ∧
      DetachVolume ext name params ⟨w, [], t⟩ = .error (.typeAssertion "ID")) ∧
    (isHyperMetro ext lun = true → (w.metro && w.r.storageOnline) = false →
      (lun.get "NAME").asString = none →
      AttachVolume ext name params ⟨w, [], t⟩ = .error (.typeAssertion "NAME") ∧
      DetachVolume ext name params ⟨w, [], t⟩ = .error (.typeAssertion "NAME")) ∧
    (∀ n, isHyperMetro ext lun = false → lun.get "NAME" = .str n →
      ext.call (.single (w.p.newAttacher (some .p))) "ControllerAttach" n params = (none, none) →
      AttachVolume ext name params ⟨w, [], t⟩ =
        .ok ((none, none), ⟨w, [], t ++ [.arrayOp .p "GetLunByName" (ext.makeLunName name),
          .strategy (.single (w.p.newAttacher (some .p))) "ControllerAttach" n]⟩)) := by
  have hx : lookupSide w = some .p := by simp [lookupSide, hp]
  simp only [AttachVolume, DetachVolume, pickClients_fixed, DispatchM.bind_apply, getLunInfo_fixed,
    hx, hl]
  refine ⟨fun hh hr hi => ?_, fun hh hr hn => ?_, fun n hh hn hc => ?_⟩
  · simp [handler, metroHandler, assertString, fixedClients, hp, hh, hr, hi]
  · simp [handler, assertString, fixedClients, hp, hh, hr, hn]
  · simp [handler, commonHandler, fixedClients, hp, hh, hn, hc, attachResult]

/-- The three descriptors, on a bonded pair and on `p` alone. -/
theorem attach_contract_breaks_at :
    let noId : GoMap := [("NAME", .str "pvc-1"), ("HASRSSOBJECT", .str metroBlob)]
    let noName : GoMap := [("ID", .str "17"), ("HASRSSOBJECT", .str metroBlob)]
    let plain : GoMap := [("NAME", .str "pvc-1")]
    AttachVolume (demoArrays noId (none, none)) "pvc-1" [] ⟨bonded, [], []⟩ =
        .error (.typeAssertion "ID") ∧
      AttachVolume (demoArrays noName (none, none)) "pvc-1" [] ⟨{ bonded with metro := false }, [], []⟩ =
        .error (.typeAssertion "NAME") ∧
      (AttachVolume (demoArrays plain (none, none)) "pvc-1" [] ⟨bonded, [], []⟩).toOption.map (·.1) =
        some (none, none) := by
  intro noId noName plain
  refine ⟨((attach_contract_breaks (demoArrays noId (none, none)) bonded [] "pvc-1" [] noId rfl
    rfl).1 rfl rfl rfl).1, ((attach_contract_breaks (demoArrays noName (none, none))
    { bonded with metro := false } [] "pvc-1" [] noName rfl rfl).2.1 rfl rfl rfl).1, ?_⟩
  rw [(attach_contract_breaks (demoArrays plain (none, none)) bonded [] "pvc-1" [] plain rfl
    rfl).2.2 "pvc-1" rfl rfl rfl]
  rfl

end CsiPlugin
