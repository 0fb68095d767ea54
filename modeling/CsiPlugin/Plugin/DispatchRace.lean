import CsiPlugin.Plugin.DispatchTable
set_option warningAsError true

/-!
# CsiPlugin.Plugin.DispatchRace

**`AttachVolume` and `DetachVolume` while other goroutines run.** `AttachVolume` and
`DetachVolume` read the `storageOnline` flags to choose their client handles, `getLunInfo` reads
them again to choose the array, and `handler` reads them a third time to choose the strategy.
A concurrent step that lands between two of these reads makes a later read pass a handle an
earlier read left nil.
-/

namespace CsiPlugin

/-- The event runs a strategy that holds a nil client handle. -/
def Event.hasNilClient : Event → Bool
  | .strategy a _ _ => a.clients.any Option.isNone
  | _ => false

@[simp] theorem hasNilClient_arrayOp (x : Side) (op arg : String) :
    (Event.arrayOp x op arg).hasNilClient = false := rfl

@[simp] theorem hasNilClient_warning (msg : String) : (Event.warning msg).hasNilClient = false :=
  rfl

@[simp] theorem hasNilClient_strategy (a : Attacher) (method n : String) :
    (Event.strategy a method n).hasNilClient = a.clients.any Option.isNone := rfl

/-- Three windows between the flag reads of one call. Without a metro remote, a refresh that
fails before `AttachVolume`'s read and succeeds before `getLunInfo`'s sends `GetLunByName`
through the nil local handle. On a bonded pair with a HyperMetro LUN, the same flip on `p`
around the lookup sends `GetHyperMetroPairByLocalObjID` through it, and a flip of the remote
before `handler`'s read builds the metro attacher over a nil remote handle. -/
theorem dispatch_nil_client_race (ext : Arrays) (w : SanPair) (t : List Event) (name : String)
    (params : GoMap) (h : w.metro = false) :
    let c : Ctx := ⟨w, [[.refresh .p false], [.refresh .p true]], t⟩
    let lun : GoMap := [("NAME", .str "pvc-1"), ("ID", .str "17"), ("HASRSSOBJECT", .str metroBlob)]
    AttachVolume ext name params c = .error (.nilClient "GetLunByName") ∧
    DetachVolume ext name params c = .error (.nilClient "GetLunByName") ∧
    AttachVolume (demoArrays lun (some [], none)) "pvc-1" []
        ⟨bonded, [[.refresh .p false], [], [], [], [.refresh .p true]], []⟩ =
      .error (.nilClient "GetHyperMetroPairByLocalObjID") ∧
    ((AttachVolume (demoArrays lun (some [], none)) "pvc-1" []
        ⟨bonded, [[], [.refresh .r false], [], [], [.refresh .r true]], []⟩).toOption.map
      fun res => res.2.trace.any Event.hasNilClient) = some true := by
  refine ⟨?_, ?_, rfl, by decide⟩ <;>
    simp [AttachVolume, DetachVolume, pickClients, getLunInfo, remoteOnline, Ctx.land,
      EnvStep.apply, h]

/-- The first window, on a plugin with no metro remote. -/
theorem dispatch_nil_client_race_unbonded :
    AttachVolume (demoArrays [] (none, none)) "pvc-1" []
        ⟨{ bonded with metro := false }, [[.refresh .p false], [.refresh .p true]], []⟩ =
      .error (.nilClient "GetLunByName") :=
  (dispatch_nil_client_race (demoArrays [] (none, none)) { bonded with metro := false } [] "pvc-1"
    [] rfl).1

/-! ### With no concurrent step -/

/-- An outcome with no nil-client panic, whose events after `t` run no strategy over a nil
client. -/
def NoNilClient {α : Type} (t : List Event) : Except Panic (α × Ctx) → Prop
  | .error (.nilClient _) => False
  | .error (.typeAssertion _) => True
  | .ok (_, c') => ∃ evs, c'.trace = t ++ evs ∧ ∀ e ∈ evs, e.hasNilClient = false

namespace NoNilClient

variable {α β : Type} {t : List Event} {x : Except Panic (α × Ctx)}

/-- Post-processing a result keeps it. -/
theorem map (f : α → β) (h : NoNilClient t x) :
    NoNilClient t (match x with
      | .ok (a, c') => .ok (f a, c')
      | .error e => .error e) := by
  rcases x with p | ⟨a, c'⟩
  · cases p <;> simp_all [NoNilClient]
  · exact h

/-- Events known to be safe can move from the prefix to the new events. -/
theorem of_append (pre : List Event) (hp : ∀ e ∈ pre, e.hasNilClient = false)
    (h : NoNilClient (t ++ pre) x) : NoNilClient t x := by
  rcases x with p | ⟨a, c'⟩
  · cases p <;> simp_all [NoNilClient]
  · obtain ⟨evs, he, hs⟩ := h
    exact ⟨pre ++ evs, by simp [he], fun e he' => by
      rcases List.mem_append.mp he' with h1 | h1
      · exact hp e h1
      · exact hs e h1⟩

end NoNilClient

/-- `commonHandler` builds its attacher over the plugin's own client. -/
theorem commonHandler_safe (ext : Arrays) (x : Side) (lun params : GoMap) (method : String)
    (c : Ctx) : NoNilClient c.trace (commonHandler ext x lun params method c) := by
  unfold commonHandler
  cases hn : (lun.get "NAME").asString <;> simp [hn, NoNilClient, Attacher.clients]

/-- `metroHandler` on two non-nil handles uses no nil client. -/
theorem metroHandler_safe (ext : Arrays) (req : HandlerRequest) (c : Ctx)
    (hl : req.localCli = some .p) (hm : req.metroCli = some .r) :
    NoNilClient c.trace (metroHandler ext req c) := by
  unfold metroHandler
  cases hi : (req.lun.get "ID").asString <;> simp [assertString, hi, hl, NoNilClient]
  rcases ext.getHyperMetroPairByLocalObjID .p _ with ⟨_ | pair, _ | err⟩ <;>
    cases hn : (req.lun.get "NAME").asString <;>
    simp [hn, NoNilClient, Attacher.clients, hm, or_imp, forall_and]

/-- With the flags fixed and the handles `pickClients` chose, `handler` uses no nil client. -/
theorem handler_fixed_safe (ext : Arrays) (w : SanPair) (t : List Event) (lun params : GoMap)
    (method : String) :
    NoNilClient t (handler ext ⟨(fixedClients w).1, (fixedClients w).2, lun, params, method⟩
      ⟨w, [], t⟩) := by
  unfold handler
  cases hh : isHyperMetro ext lun
  · simpa using commonHandler_safe ext .p lun params method ⟨w, [], t⟩
  cases hp : w.p.storageOnline <;> cases hq : (w.metro && w.r.storageOnline) <;>
    cases hn : (lun.get "NAME").asString <;>
    simp [hh, hp, hq, hn, fixedClients, assertString]
  -- a degraded pair with a named LUN, the dual-array branch, or no strategy at all
  all_goals first
    | exact .of_append [_] (by simp) (commonHandler_safe ext _ lun params method _)
    | (refine metroHandler_safe ext _ _ ?_ ?_ <;> rfl)
    | simp [NoNilClient]

/-- `AttachVolume` and `DetachVolume` with the flags fixed, after any earlier events `t`. -/
theorem volumeCalls_fixed_safe (ext : Arrays) (w : SanPair) (t : List Event) (name : String)
    (params : GoMap) :
    NoNilClient t (AttachVolume ext name params ⟨w, [], t⟩) ∧
      NoNilClient t (DetachVolume ext name params ⟨w, [], t⟩) := by
  simp only [AttachVolume, DetachVolume, DispatchM.bind_apply, pickClients_fixed,
    getLunInfo_fixed]
  cases lookupSide w with
  | none => simp [NoNilClient]
  | some x =>
    rcases hq : ext.getLunByName x (ext.makeLunName name) with ⟨_ | lun, _ | err⟩
    case mk.some.none =>
      simp only [hq, DispatchM.bind_apply, DispatchM.pure_apply]
      have hp : ∀ e ∈ [Event.arrayOp x "GetLunByName" (ext.makeLunName name)],
          e.hasNilClient = false := by simp
      exact ⟨.of_append _ hp (.map _ (handler_fixed_safe ext w _ lun params _)),
        .of_append _ hp (.map _ (handler_fixed_safe ext w _ lun params _))⟩
    all_goals simp [hq, NoNilClient]

/-- **No nil client without a concurrent step.** With the flags fixed during the call, for every
descriptor and every answer of the arrays, `AttachVolume` and `DetachVolume` call no array
operation through a nil handle, and every strategy they run holds non-nil clients: they return,
or panic on a failed type assertion. -/
theorem fixed_flags_no_nil_client (ext : Arrays) (w : SanPair) (name : String)
    (params : GoMap) :
    NoNilClient [] (AttachVolume ext name params ⟨w, [], []⟩) ∧
      NoNilClient [] (DetachVolume ext name params ⟨w, [], []⟩) :=
  volumeCalls_fixed_safe ext w [] name params

end CsiPlugin
