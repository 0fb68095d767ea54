import CsiPlugin.Plugin.DispatchTable
set_option warningAsError true

/-!
# CsiPlugin.Plugin.DispatchContract

**What `AttachVolume` and `DetachVolume` return, under every interleaving.**
-/

namespace CsiPlugin

/-- The strategy run an event records: the strategy, the method and the LUN name. -/
def Event.strategyRun : Event → Option (Attacher × String × String)
  | .strategy a method n => some (a, method, n)
  | _ => none

/-- The strategy runs among some events. -/
def strategyRuns (evs : List Event) : List (Attacher × String × String) :=
  evs.filterMap Event.strategyRun

@[simp] theorem strategyRuns_nil : strategyRuns [] = [] := rfl

@[simp] theorem strategyRuns_cons (e : Event) (evs : List Event) :
    strategyRuns (e :: evs) = (e.strategyRun.toList ++ strategyRuns evs) := by
  cases h : e.strategyRun <;> simp [strategyRuns, List.filterMap_cons, h]

@[simp] theorem strategyRuns_append (evs evs' : List Event) :
    strategyRuns (evs ++ evs') = strategyRuns evs ++ strategyRuns evs' :=
  List.filterMap_append _ _ _

@[simp] theorem strategyRun_arrayOp (x : Side) (op arg : String) :
    (Event.arrayOp x op arg).strategyRun = none := rfl

@[simp] theorem strategyRun_warning (msg : String) : (Event.warning msg).strategyRun = none := rfl

@[simp] theorem strategyRuns_warnings (msgs : List String) :
    strategyRuns (msgs.map .warning) = [] := by
  induction msgs <;> simp [*]

@[simp] theorem strategyRun_strategy (a : Attacher) (method n : String) :
    (Event.strategy a method n).strategyRun = some (a, method, n) := rfl

/-- A handler's output against the events it recorded: no strategy ran and there is no result,
or exactly one ran, and its result comes back with no error. -/
def HandlerOut.Ran (ext : Arrays) (method : String) (params : GoMap) (out : HandlerOut)
    (evs : List Event) : Prop :=
  match out.1 with
  | none => strategyRuns evs = []
  | some r => out.2 = none ∧
    ∃ a n, strategyRuns evs = [(a, method, n)] ∧ ext.call a method n params = r

/-- A computation that always returns and records nothing: the flag reads. -/
def Reads {α : Type} (m : DispatchM α) : Prop := ∀ c, ∃ a c', m c = .ok (a, c') ∧ c'.trace = c.trace

namespace Reads

variable {α β : Type}

theorem pure (a : α) : Reads (pure a : DispatchM α) := fun c => ⟨a, c, rfl, rfl⟩

theorem get : Reads (get : DispatchM Ctx) := fun c => ⟨c, c, rfl, rfl⟩

theorem bind {m : DispatchM α} {f : α → DispatchM β} (hm : Reads m) (hf : ∀ a, Reads (f a)) :
    Reads (m >>= f) := fun c => by
  obtain ⟨a, c1, h1, t1⟩ := hm c
  obtain ⟨b, c2, h2, t2⟩ := hf a c1
  exact ⟨b, c2, by simp [h1, h2], t2.trans t1⟩

theorem ite {m₁ m₂ : DispatchM α} (p : Prop) [Decidable p] (h₁ : Reads m₁) (h₂ : Reads m₂) :
    Reads (if p then m₁ else m₂) := by
  split <;> assumption

end Reads

theorem readOnline_reads (x : Side) : Reads (readOnline x) := fun _ => ⟨_, _, rfl, rfl⟩

theorem remoteOnline_reads : Reads remoteOnline :=
  .bind .get fun _ => .ite _ (readOnline_reads .r) (.pure false)

theorem bothOnline_reads : Reads bothOnline :=
  .bind (readOnline_reads .p) fun _ => .ite _ remoteOnline_reads (.pure false)

theorem pickClients_reads : Reads pickClients :=
  .bind (readOnline_reads .p) fun _ => .bind remoteOnline_reads fun _ => .pure _

namespace HandlerOut

variable {ext : Arrays} {method : String} {params : GoMap} {evs : List Event}

theorem Ran.of_none {out : HandlerOut} (h : out.1 = none) (hr : strategyRuns evs = []) :
    out.Ran ext method params evs := by
  simp [Ran, h, hr]

theorem Ran.append_left {out : HandlerOut} (pre : List Event) (hp : strategyRuns pre = [])
    (h : out.Ran ext method params evs) : out.Ran ext method params (pre ++ evs) := by
  simpa [Ran, hp] using h

theorem Ran.of_strategy {a : Attacher} {n : String} (pre : List Event)
    (hp : strategyRuns pre = []) :
    HandlerOut.Ran ext method params (some (ext.call a method n params), none)
      (pre ++ [.strategy a method n]) := by
  refine ⟨rfl, a, n, ?_, rfl⟩
  simp [hp]

/-- A handler runs at most one strategy. -/
theorem Ran.length_runs_le {out : HandlerOut} (h : out.Ran ext method params evs) :
    (strategyRuns evs).length ≤ 1 := by
  unfold Ran at h
  split at h
  · simp [h]
  · obtain ⟨-, a, n, hr, -⟩ := h
    simp [hr]

end HandlerOut

theorem commonHandler_ran {ext : Arrays} {x : Side} {lun params : GoMap} {method : String}
    {c c' : Ctx} {out : HandlerOut} (h : commonHandler ext x lun params method c = .ok (out, c')) :
    ∃ evs, c'.trace = c.trace ++ evs ∧ out.Ran ext method params evs := by
  unfold commonHandler at h
  cases hn : (lun.get "NAME").asString <;> simp [hn] at h <;> obtain ⟨rfl, rfl⟩ := h
  · exact ⟨[], by simp, HandlerOut.Ran.of_none rfl rfl⟩
  · exact ⟨[] ++ [_], rfl, HandlerOut.Ran.of_strategy [] rfl⟩

theorem metroHandler_ran {ext : Arrays} {req : HandlerRequest} {c c' : Ctx} {out : HandlerOut}
    (h : metroHandler ext req c = .ok (out, c')) :
    ∃ evs, c'.trace = c.trace ++ evs ∧ out.Ran ext req.method req.parameters evs := by
  unfold metroHandler at h
  cases hi : (req.lun.get "ID").asString <;> cases hl : req.localCli <;>
    simp [assertString, hi, hl] at h
  rename_i i x
  rcases hq : ext.getHyperMetroPairByLocalObjID x i with ⟨_ | pair, _ | err⟩ <;> simp [hq] at h
  case mk.some.none =>
    cases hn : (req.lun.get "NAME").asString <;> simp [hn] at h
    obtain ⟨rfl, rfl⟩ := h
    exact ⟨_ :: (_ ++ [_]), rfl, by
      simpa using HandlerOut.Ran.of_strategy (_ :: List.map Event.warning _) (by simp)⟩
  all_goals obtain ⟨rfl, rfl⟩ := h; exact ⟨_, rfl, HandlerOut.Ran.of_none rfl rfl⟩

theorem handler_ran {ext : Arrays} {req : HandlerRequest} {c c' : Ctx} {out : HandlerOut}
    (h : handler ext req c = .ok (out, c')) :
    ∃ evs, c'.trace = c.trace ++ evs ∧ out.Ran ext req.method req.parameters evs := by
  unfold handler at h
  cases hh : isHyperMetro ext req.lun
  · exact commonHandler_ran (by simpa [hh] using h)
  obtain ⟨both, c1, hb, hb'⟩ := bothOnline_reads c
  simp only [hh, hb, DispatchM.bind_apply, Bool.not_true, Bool.false_eq_true, ite_false] at h
  cases both
  · obtain ⟨l, c2, hl, hl'⟩ := readOnline_reads .p c1
    simp only [hl, DispatchM.bind_apply, ite_false, Bool.false_eq_true] at h
    cases l
    · obtain ⟨r, c3, hr, hr'⟩ := remoteOnline_reads c2
      simp only [hr, DispatchM.bind_apply, ite_false, Bool.false_eq_true] at h
      cases r
      · obtain ⟨rfl, rfl⟩ : _ ∧ _ := by simpa using h
        exact ⟨[], by simp [hr', hl', hb'], HandlerOut.Ran.of_none rfl rfl⟩
      · cases hn : (req.lun.get "NAME").asString <;> simp [assertString, hn] at h
        obtain ⟨evs, he, hrun⟩ := commonHandler_ran h
        exact ⟨_, by simpa [hr', hl', hb'] using he, hrun.append_left [.warning _] rfl⟩
    · cases hn : (req.lun.get "NAME").asString <;> simp [assertString, hn] at h
      obtain ⟨evs, he, hrun⟩ := commonHandler_ran h
      exact ⟨_, by simpa [hl', hb'] using he, hrun.append_left [.warning _] rfl⟩
  · obtain ⟨evs, he, hr⟩ := metroHandler_ran (by simpa using h)
    exact ⟨evs, by rw [he, hb'], hr⟩

/-- `getLunInfo` either reports that no side is reachable, recording nothing, or returns one
array's answer to `GetLunByName`. -/
theorem getLunInfo_post {ext : Arrays} {lc rc : Option Side} {lunName : String} {c c' : Ctx}
    {res : Option GoMap × Option Err} (h : getLunInfo ext lc rc lunName c = .ok (res, c')) :
    (c'.trace = c.trace ∧ res = (none, some "both the local and remote storage are not online")) ∨
    ∃ x, c'.trace = c.trace ++ [.arrayOp x "GetLunByName" lunName] ∧
      res = ext.getLunByName x lunName := by
  unfold getLunInfo at h
  obtain ⟨l, c1, hl, hl'⟩ := readOnline_reads .p c
  simp only [hl, DispatchM.bind_apply] at h
  cases l
  · obtain ⟨r, c2, hr, hr'⟩ := remoteOnline_reads c1
    simp only [hr, DispatchM.bind_apply, ite_false, Bool.false_eq_true] at h
    cases r
    · obtain ⟨rfl, rfl⟩ : _ ∧ _ := by simpa using h
      exact .inl ⟨by rw [hr', hl'], rfl⟩
    · cases rc <;> simp at h
      obtain ⟨rfl, rfl⟩ := h
      exact .inr ⟨_, by simp [hr', hl'], rfl⟩
  · cases lc <;> simp at h
    obtain ⟨rfl, rfl⟩ := h
    exact .inr ⟨_, by simp [hl'], rfl⟩

/-! ### The error contract -/

/-- What `AttachVolume` may return against the events of the call: at most one strategy ran;
never both a mapping and an error; no error only with the result of the one strategy that ran;
and that strategy's error unchanged when it reported one. -/
def AttachContract (ext : Arrays) (params : GoMap) (r : Option GoMap × Option Err)
    (evs : List Event) : Prop :=
  (strategyRuns evs).length ≤ 1 ∧
  (r.1 = none ∨ r.2 = none) ∧
  (r.2 = none → ∃ a n, strategyRuns evs = [(a, "ControllerAttach", n)] ∧
    ext.call a "ControllerAttach" n params = r) ∧
  ∀ a n e, strategyRuns evs = [(a, "ControllerAttach", n)] →
    (ext.call a "ControllerAttach" n params).2 = some e → r = (none, some e)

/-- What `DetachVolume` may return against the events of the call: no error only when the LUN
was absent and no strategy ran, or when the one strategy that ran reported none; and that
strategy's error unchanged when it reported one. -/
def DetachContract (ext : Arrays) (lunName : String) (params : GoMap) (r : Option Err)
    (evs : List Event) : Prop :=
  (r = none →
    (strategyRuns evs = [] ∧ ∃ x, Event.arrayOp x "GetLunByName" lunName ∈ evs ∧
      ext.getLunByName x lunName = (none, none)) ∨
    ∃ a n, strategyRuns evs = [(a, "ControllerDetach", n)] ∧
      (ext.call a "ControllerDetach" n params).2 = none) ∧
  ∀ a n e, strategyRuns evs = [(a, "ControllerDetach", n)] →
    (ext.call a "ControllerDetach" n params).2 = some e → r = some e

theorem AttachContract.of_error {ext : Arrays} {params : GoMap} {e : Err} {evs : List Event}
    (h : strategyRuns evs = []) : AttachContract ext params (none, some e) evs := by
  simp [AttachContract, h]

theorem attachResult_contract {ext : Arrays} {lunName : String} {params : GoMap}
    {out : HandlerOut} {evs : List Event} (h : out.Ran ext "ControllerAttach" params evs) :
    AttachContract ext params (attachResult ext lunName out) evs := by
  refine ⟨h.length_runs_le, ?_⟩
  obtain ⟨_ | ⟨m, _ | e⟩, _ | err⟩ := out
  · exact (AttachContract.of_error h).2
  · exact (AttachContract.of_error h).2
  all_goals obtain ⟨hn, a, n, hr, hc⟩ := h
  · refine ⟨by simp [attachResult], fun _ => ⟨a, n, hr, hc⟩, fun a' n' e hr' he => ?_⟩
    simp_all
  · cases hn
  · refine ⟨by simp [attachResult], by simp [attachResult], fun a' n' e' hr' he => ?_⟩
    simp_all [attachResult]
  · cases hn

theorem AttachContract.append_left {ext : Arrays} {params : GoMap}
    {r : Option GoMap × Option Err} {pre evs : List Event} (hp : strategyRuns pre = [])
    (h : AttachContract ext params r evs) : AttachContract ext params r (pre ++ evs) := by
  simpa [AttachContract, hp] using h

theorem DetachContract.append_left {ext : Arrays} {lunName : String} {params : GoMap}
    {r : Option Err} {pre evs : List Event} (hp : strategyRuns pre = [])
    (h : DetachContract ext lunName params r evs) :
    DetachContract ext lunName params r (pre ++ evs) := by
  refine ⟨fun hn => ?_, by simpa [hp] using h.2⟩
  rcases h.1 hn with ⟨h0, x, hx, hl⟩ | h1
  · exact .inl ⟨by simp [hp, h0], x, List.mem_append_right _ hx, hl⟩
  · exact .inr (by simpa [hp] using h1)

theorem DetachContract.of_error {ext : Arrays} {lunName : String} {params : GoMap} {e : Err}
    {evs : List Event} (h : strategyRuns evs = []) :
    DetachContract ext lunName params (some e) evs := by
  simp [DetachContract, h]

theorem detachResult_contract {ext : Arrays} {lunName : String} {params : GoMap}
    {out : HandlerOut} {evs : List Event} (h : out.Ran ext "ControllerDetach" params evs) :
    DetachContract ext lunName params (detachResult lunName out) evs := by
  obtain ⟨_ | ⟨m, result⟩, _ | err⟩ := out
  · simp [DetachContract, detachResult, show strategyRuns evs = [] from h]
  · simp [DetachContract, detachResult, show strategyRuns evs = [] from h]
  · obtain ⟨-, a, n, hr, hc⟩ := h
    refine ⟨fun hn => .inr ⟨a, n, hr, by simp_all [detachResult]⟩, fun a' n' e hr' he => ?_⟩
    simp_all [detachResult]
  · cases h.1

/-- The events of the lookup, which run no strategy. -/
theorem getLunInfo_events {ext : Arrays} {lc rc : Option Side} {lunName : String} {c c' : Ctx}
    {res : Option GoMap × Option Err} (h : getLunInfo ext lc rc lunName c = .ok (res, c')) :
    ∃ evs, c'.trace = c.trace ++ evs ∧ strategyRuns evs = [] := by
  rcases getLunInfo_post h with ⟨ht, -⟩ | ⟨x, ht, -⟩
  · exact ⟨[], by simp [ht], rfl⟩
  · exact ⟨_, ht, rfl⟩

/-- **The attach contract, under every interleaving.** Whatever the concurrent steps, an
`AttachVolume` that returns normally ran at most one strategy, never reports both a mapping and
an error, reports no
error only with the result of the one strategy it ran, and returns that strategy's error
unchanged when it reported one. -/
theorem attach_contract (ext : Arrays) (name : String) (params : GoMap) (c c' : Ctx)
    (r : Option GoMap × Option Err) (h : AttachVolume ext name params c = .ok (r, c')) :
    ∃ evs, c'.trace = c.trace ++ evs ∧ AttachContract ext params r evs := by
  unfold AttachVolume at h
  obtain ⟨clis, c1, hp, hp'⟩ := pickClients_reads c
  simp only [hp, DispatchM.bind_apply] at h
  cases hg : getLunInfo ext clis.1 clis.2 (ext.makeLunName name) c1 with
  | error e => simp [hg] at h
  | ok q =>
    obtain ⟨res, c2⟩ := q
    obtain ⟨evs0, he0, hr0⟩ := getLunInfo_events hg
    simp only [hg] at h
    obtain ⟨_ | lun, _ | err⟩ := res
    · obtain ⟨rfl, rfl⟩ : _ ∧ _ := by simpa using h
      exact ⟨evs0, by rw [he0, hp'], .of_error hr0⟩
    · obtain ⟨rfl, rfl⟩ : _ ∧ _ := by simpa using h
      exact ⟨evs0, by rw [he0, hp'], .of_error hr0⟩
    · cases hh : handler ext ⟨clis.1, clis.2, lun, params, "ControllerAttach"⟩ c2 with
      | error e => simp [hh] at h
      | ok q' =>
        obtain ⟨out, c3⟩ := q'
        obtain ⟨rfl, rfl⟩ : _ ∧ _ := by simpa [hh] using h
        obtain ⟨evs, he, hran⟩ := handler_ran hh
        exact ⟨evs0 ++ evs, by simp [he, he0, hp'], (attachResult_contract hran).append_left hr0⟩
    · obtain ⟨rfl, rfl⟩ : _ ∧ _ := by simpa using h
      exact ⟨evs0, by rw [he0, hp'], .of_error hr0⟩

/-- The dual-array attach of a HyperMetro LUN on a bonded pair. -/
theorem attach_contract_bonded :
    let lun : GoMap := [("NAME", .str "pvc-1"), ("ID", .str "17"), ("HASRSSOBJECT", .str metroBlob)]
    let dual := Attacher.metro (bonded.p.newAttacher (some .p)) (bonded.r.newAttacher (some .r))
      bonded.p.protocol
    let c' : Ctx := ⟨bonded, [], [.arrayOp .p "GetLunByName" "pvc-1",
      .arrayOp .p "GetHyperMetroPairByLocalObjID" "17", .strategy dual "ControllerAttach" "pvc-1"]⟩
    ∃ evs, c'.trace = [] ++ evs ∧ AttachContract (demoArrays lun (some [], none)) [] (some [], none) evs :=
  attach_contract _ "pvc-1" [] ⟨bonded, [], []⟩ _ _ rfl

/-- **The detach contract, under every interleaving.** Whatever the concurrent steps, a
`DetachVolume` that returns normally returns no error only when `GetLunByName` found no LUN and
no strategy ran, or when the one strategy it ran reported none; and it returns that strategy's
error unchanged when it reported one. -/
theorem detach_contract (ext : Arrays) (name : String) (params : GoMap) (c c' : Ctx)
    (r : Option Err) (h : DetachVolume ext name params c = .ok (r, c')) :
    ∃ evs, c'.trace = c.trace ++ evs ∧ DetachContract ext (ext.makeLunName name) params r evs := by
  unfold DetachVolume at h
  obtain ⟨clis, c1, hp, hp'⟩ := pickClients_reads c
  simp only [hp, DispatchM.bind_apply] at h
  cases hg : getLunInfo ext clis.1 clis.2 (ext.makeLunName name) c1 with
  | error e => simp [hg] at h
  | ok q =>
    obtain ⟨res, c2⟩ := q
    obtain ⟨evs0, he0, hr0⟩ := getLunInfo_events hg
    simp only [hg] at h
    obtain ⟨_ | lun, _ | err⟩ := res
    · obtain ⟨rfl, rfl⟩ : _ ∧ _ := by simpa using h
      rcases getLunInfo_post hg with ⟨-, hres⟩ | ⟨x, ht, hres⟩
      · simp at hres
      · refine ⟨[.arrayOp x "GetLunByName" (ext.makeLunName name),
          .warning ("LUN " ++ ext.makeLunName name ++ " to detach doesn't exist")],
          by simp [ht, hp'], fun _ => .inl ⟨by simp, x, by simp, hres.symm⟩,
          fun a n e hr => by simp at hr⟩
    · obtain ⟨rfl, rfl⟩ : _ ∧ _ := by simpa using h
      exact ⟨evs0, by rw [he0, hp'], .of_error hr0⟩
    · cases hh : handler ext ⟨clis.1, clis.2, lun, params, "ControllerDetach"⟩ c2 with
      | error e => simp [hh] at h
      | ok q' =>
        obtain ⟨out, c3⟩ := q'
        obtain ⟨rfl, rfl⟩ : _ ∧ _ := by simpa [hh] using h
        obtain ⟨evs, he, hran⟩ := handler_ran hh
        exact ⟨evs0 ++ evs, by simp [he, he0, hp'], (detachResult_contract hran).append_left hr0⟩
    · obtain ⟨rfl, rfl⟩ : _ ∧ _ := by simpa using h
      exact ⟨evs0, by rw [he0, hp'], .of_error hr0⟩

/-- A detach of a LUN the array does not have. -/
theorem detach_contract_absent :
    let ext : Arrays := { demoArrays [] (none, none) with getLunByName := fun _ _ => (none, none) }
    let c' : Ctx := ⟨bonded, [], [.arrayOp .p "GetLunByName" "pvc-1",
      .warning "LUN pvc-1 to detach doesn't exist"]⟩
    ∃ evs, c'.trace = [] ++ evs ∧ DetachContract ext "pvc-1" [] none evs :=
  detach_contract _ "pvc-1" [] ⟨bonded, [], []⟩ _ _ rfl

end CsiPlugin
