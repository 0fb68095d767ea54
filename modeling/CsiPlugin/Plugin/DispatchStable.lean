import CsiPlugin.Plugin.DispatchRace
set_option warningAsError true

/-!
# CsiPlugin.Plugin.DispatchStable

**Concurrent steps that keep the flags are harmless.** `dispatch_nil_client_race` shows that a
`storageOnline` flag that changes between two reads of one call can send an array operation
through a nil handle. This module shows that the flags changing is the only way: when every
batch of concurrent steps leaves both flags as the reads of the call first found them
(`flagsStable`; the steps may still move the holder counts, and may flip a flag and flip it
back within a batch), `AttachVolume` and `DetachVolume` panic as they would with no concurrent
step, or return the same value with the same events (`stable_flags_refine_fixed`); so they call
no array operation through a nil handle.

The proof is a simulation. `Sim w c` relates a state of the concurrent run to the pair `w` of
the run with no concurrent step: the pairs agree on everything the call reads
(`SanPair.SameButCounts`), and the schedule left keeps them so. `RunsAsFixed w m` says that a
computation run from such a state does what it does from `⟨w, [], _⟩`; it holds of every
primitive and is closed under `bind`, so each function of the call gets it from its own
structure.
-/

namespace CsiPlugin

/-! ### What the concurrent steps change -/

namespace OceanstorSanPlugin

/-- What an attacher is built from: every field of a plugin but its flag and holder count. -/
def conf (x : OceanstorSanPlugin) : String × String × List String × GoMap :=
  (x.product, x.protocol, x.portals, x.alua)

theorem newAttacher_eq {x y : OceanstorSanPlugin} (h : x.conf = y.conf) (cli : Option Side) :
    x.newAttacher cli = y.newAttacher cli := by
  simp only [conf, Prod.mk.injEq] at h
  simp [newAttacher, h]

@[simp] theorem updateOnline_conf (x : OceanstorSanPlugin) (ok : Bool) :
    (x.updateOnline ok).conf = x.conf := rfl

@[simp] theorem mutexGetClient_conf (x : OceanstorSanPlugin) (loginOk : Bool) :
    (x.mutexGetClient loginOk).1.conf = x.conf := by
  unfold mutexGetClient
  split_ifs <;> rfl

@[simp] theorem mutexReleaseClient_conf (x : OceanstorSanPlugin) :
    x.mutexReleaseClient.conf = x.conf := by
  unfold mutexReleaseClient
  split_ifs <;> rfl

end OceanstorSanPlugin

/-- A concurrent step changes only flags and holder counts. -/
theorem EnvStep.apply_conf (e : EnvStep) (v : SanPair) (y : Side) :
    ((e.apply v).get y).conf = (v.get y).conf := by
  cases y <;> cases e with
  | refresh x ok => cases x <;> simp [EnvStep.apply]
  | acquire x loginOk => cases x <;> simp [EnvStep.apply]
  | release x => cases x <;> simp [EnvStep.apply]

theorem foldl_apply_conf (b : List EnvStep) (v : SanPair) (y : Side) :
    ((b.foldl EnvStep.apply v).get y).conf = (v.get y).conf := by
  induction b generalizing v with
  | nil => rfl
  | cons e rest ih => rw [List.foldl_cons, ih, EnvStep.apply_conf]

theorem foldl_apply_metro (b : List EnvStep) (v : SanPair) :
    (b.foldl EnvStep.apply v).metro = v.metro := by
  induction b generalizing v with
  | nil => rfl
  | cons e rest ih => rw [List.foldl_cons, ih]; cases e <;> simp [EnvStep.apply]

/-- `v` agrees with `w` on everything the call reads: the metro link, and each plugin but for
its holder count. -/
structure SanPair.SameButCounts (v w : SanPair) : Prop where
  metro : v.metro = w.metro
  conf : ∀ x, (v.get x).conf = (w.get x).conf
  online : ∀ x, (v.get x).storageOnline = (w.get x).storageOnline

/-- Every batch of the schedule, landed in turn on `v`, leaves both flags as in `w`. -/
def flagsStable (w : SanPair) : SanPair → List (List EnvStep) → Bool
  | _, [] => true
  | v, b :: rest =>
    (b.foldl EnvStep.apply v).p.storageOnline == w.p.storageOnline &&
      (b.foldl EnvStep.apply v).r.storageOnline == w.r.storageOnline &&
      flagsStable w (b.foldl EnvStep.apply v) rest

/-! ### The simulation -/

/-- A state of the concurrent run that simulates the pair `w` of the run with none. -/
structure Sim (w : SanPair) (c : Ctx) : Prop where
  same : c.pair.SameButCounts w
  stable : flagsStable w c.pair c.sched = true

namespace Sim

variable {w : SanPair} {c : Ctx}

/-- Landing the next batch keeps the simulation. -/
theorem land (h : Sim w c) : Sim w c.land := by
  obtain ⟨⟨hm, hc, ho⟩, hs⟩ := h
  obtain ⟨pair, _ | ⟨b, rest⟩, trace⟩ := c
  · exact ⟨⟨hm, hc, ho⟩, hs⟩
  · simp only [flagsStable, Bool.and_eq_true, beq_iff_eq] at hs
    obtain ⟨⟨hp, hr⟩, hs⟩ := hs
    refine ⟨⟨?_, fun x => ?_, fun x => ?_⟩, hs⟩
    · simpa [Ctx.land, foldl_apply_metro] using hm
    · simpa [Ctx.land, foldl_apply_conf] using hc x
    · cases x <;> simpa [Ctx.land]

theorem metro_eq (h : Sim w c) : c.pair.metro = w.metro := h.same.metro

theorem newAttacher_eq (h : Sim w c) (x : Side) (cli : Option Side) :
    (c.pair.get x).newAttacher cli = (w.get x).newAttacher cli :=
  OceanstorSanPlugin.newAttacher_eq (h.same.conf x) cli

theorem newAttacher_p (h : Sim w c) (cli : Option Side) :
    c.pair.p.newAttacher cli = w.p.newAttacher cli :=
  h.newAttacher_eq .p cli

theorem newAttacher_r (h : Sim w c) (cli : Option Side) :
    c.pair.r.newAttacher cli = w.r.newAttacher cli :=
  h.newAttacher_eq .r cli

theorem protocol_eq (h : Sim w c) : c.pair.p.protocol = w.p.protocol :=
  congrArg (·.2.1) (h.same.conf .p)

end Sim

/-- `m`, run from a state that simulates `w`, does what it does from `w` with no concurrent
step: the same panic, or the same value and events, ending in a state that simulates `w`. -/
def RunsAsFixed {α : Type} (w : SanPair) (m : DispatchM α) : Prop :=
  ∀ c, Sim w c →
    match m ⟨w, [], c.trace⟩ with
    | .error e => m c = .error e
    | .ok (a, c₀) =>
      c₀.pair = w ∧ c₀.sched = [] ∧ ∃ c', m c = .ok (a, c') ∧ c'.trace = c₀.trace ∧ Sim w c'

namespace RunsAsFixed

variable {α β : Type} {w : SanPair}

theorem pure (a : α) : RunsAsFixed w (pure a : DispatchM α) :=
  fun c hc => ⟨rfl, rfl, c, rfl, rfl, hc⟩

theorem throw (e : Panic) : RunsAsFixed w (throw e : DispatchM α) := fun _ _ => rfl

theorem emit (e : Event) : RunsAsFixed w (emit e) :=
  fun _ hc => ⟨rfl, rfl, _, rfl, rfl, hc.1, hc.2⟩

theorem readOnline (x : Side) : RunsAsFixed w (readOnline x) :=
  fun c hc => ⟨rfl, rfl, c.land, by simp [hc.land.same.online x], rfl, hc.land⟩

theorem bind {m : DispatchM α} {f : α → DispatchM β} (hm : RunsAsFixed w m)
    (hf : ∀ a, RunsAsFixed w (f a)) : RunsAsFixed w (m >>= f) := by
  intro c hc
  have h := hm c hc
  simp only [DispatchM.bind_apply]
  rcases hfix : m ⟨w, [], c.trace⟩ with e | ⟨a, ⟨pair, sched, t₀⟩⟩ <;> simp only [hfix] at h ⊢
  · simp [h]
  · obtain ⟨rfl, rfl, c', hc', rfl, hsim⟩ := h
    simpa [hc'] using hf a c' hsim

theorem ite {m₁ m₂ : DispatchM α} (p : Prop) [Decidable p] (h₁ : RunsAsFixed w m₁)
    (h₂ : RunsAsFixed w m₂) : RunsAsFixed w (if p then m₁ else m₂) := by
  split <;> assumption

/-- Reading the state: the rest of the computation may read the pair only where the states it
simulates agree with `w`. -/
theorem get_bind {f : Ctx → DispatchM β} (hf : ∀ c, Sim w c → f c = f ⟨w, [], c.trace⟩)
    (h : ∀ t, RunsAsFixed w (f ⟨w, [], t⟩)) : RunsAsFixed w (get >>= f) := by
  intro c hc
  simpa [hf c hc] using h c.trace c hc

theorem arrayCall {γ : Type} (cli : Option Side) (op arg : String) (answer : Side → String → γ) :
    RunsAsFixed w (arrayCall cli op arg answer) := by
  cases cli with
  | none => exact throw _
  | some x => exact (emit _).bind fun _ => pure _

theorem warn (m : Option String) : RunsAsFixed w (warn m) := by
  cases m with
  | none => exact pure ()
  | some msg => exact emit _

theorem assertString (lun : GoMap) (key : String) : RunsAsFixed w (assertString lun key) := by
  unfold CsiPlugin.assertString
  split
  · exact throw _
  · exact pure _

theorem runStrategy (ext : Arrays) (a : Attacher) (method lunName : String) (params : GoMap) :
    RunsAsFixed w (runStrategy ext a method lunName params) :=
  (emit _).bind fun _ => pure _

end RunsAsFixed

/-! ### The call, function by function -/

section Call

variable {w : SanPair} (ext : Arrays)

theorem remoteOnline_runsAsFixed : RunsAsFixed w remoteOnline :=
  .get_bind (fun c hc => by simp only [hc.metro_eq]) fun _ =>
    .ite _ (.readOnline .r) (.pure false)

theorem bothOnline_runsAsFixed : RunsAsFixed w bothOnline :=
  .bind (.readOnline .p) fun _ => .ite _ remoteOnline_runsAsFixed (.pure false)

theorem pickClients_runsAsFixed : RunsAsFixed w pickClients :=
  .bind (.readOnline .p) fun _ => .bind remoteOnline_runsAsFixed fun _ => .pure _

theorem getLunInfo_runsAsFixed (localCli remoteCli : Option Side) (lunName : String) :
    RunsAsFixed w (getLunInfo ext localCli remoteCli lunName) :=
  .bind (.readOnline .p) fun _ => .ite _ (.arrayCall _ _ _ _)
    (.bind remoteOnline_runsAsFixed fun _ => .ite _ (.arrayCall _ _ _ _) (.pure _))

theorem commonHandler_runsAsFixed (x : Side) (lun params : GoMap) (method : String) :
    RunsAsFixed w (commonHandler ext x lun params method) := by
  unfold commonHandler
  refine .get_bind (fun c hc => by simp only [hc.newAttacher_eq]) fun _ => ?_
  split
  · exact .pure _
  · exact .bind (.runStrategy _ _ _ _ _) fun _ => .pure _

theorem metroHandler_runsAsFixed (req : HandlerRequest) : RunsAsFixed w (metroHandler ext req) := by
  unfold metroHandler
  refine .bind (.assertString _ _) fun _ => .bind (.arrayCall _ _ _ _) fun res => ?_
  split
  · exact .pure _
  · exact .pure _
  · refine .bind (.warn _) fun _ => .get_bind
      (fun c hc => by simp only [hc.newAttacher_p, hc.newAttacher_r, hc.protocol_eq])
      fun _ => .bind (.assertString _ _) fun _ => .bind (.runStrategy _ _ _ _ _) fun _ => .pure _

theorem handler_runsAsFixed (req : HandlerRequest) : RunsAsFixed w (handler ext req) := by
  unfold handler
  refine .ite _ (commonHandler_runsAsFixed ext _ _ _ _)
    (.bind bothOnline_runsAsFixed fun _ => .ite _ (metroHandler_runsAsFixed ext _)
      (.bind (.readOnline .p) fun _ => .ite _ ?_ (.bind remoteOnline_runsAsFixed fun _ => .ite _ ?_
        (.pure _))))
  all_goals exact .bind (.assertString _ _) fun _ => .bind (.emit _) fun _ =>
    commonHandler_runsAsFixed ext _ _ _ _

theorem AttachVolume_runsAsFixed (name : String) (params : GoMap) :
    RunsAsFixed w (AttachVolume ext name params) := by
  unfold AttachVolume
  refine .bind pickClients_runsAsFixed fun _ => .bind (getLunInfo_runsAsFixed ext _ _ _) fun _ => ?_
  split
  · exact .pure _
  · exact .pure _
  · exact .bind (handler_runsAsFixed ext _) fun _ => .pure _

theorem DetachVolume_runsAsFixed (name : String) (params : GoMap) :
    RunsAsFixed w (DetachVolume ext name params) := by
  unfold DetachVolume
  refine .bind pickClients_runsAsFixed fun _ => .bind (getLunInfo_runsAsFixed ext _ _ _) fun _ => ?_
  split
  · exact .pure _
  · exact .bind (.emit _) fun _ => .pure _
  · exact .bind (handler_runsAsFixed ext _) fun _ => .pure _

end Call

/-! ### The result -/

section Outcome

variable {α : Type} {w : SanPair} {m : DispatchM α} {c : Ctx}

/-- What `RunsAsFixed` says of one state. -/
theorem RunsAsFixed.outcome (h : RunsAsFixed w m) (hc : Sim w c) :
    (∀ e, m ⟨w, [], c.trace⟩ = .error e → m c = .error e) ∧
    ∀ a c₀, m ⟨w, [], c.trace⟩ = .ok (a, c₀) → ∃ c', m c = .ok (a, c') ∧ c'.trace = c₀.trace := by
  have h := h c hc
  refine ⟨fun e he => by simpa [he] using h, fun a c₀ he => ?_⟩
  simp only [he] at h
  obtain ⟨-, -, c', h1, h2, -⟩ := h
  exact ⟨c', h1, h2⟩

/-- A run that does what the fixed run does is as safe. -/
theorem NoNilClient.of_runsAsFixed (h : RunsAsFixed w m) (hc : Sim w c)
    (hf : NoNilClient c.trace (m ⟨w, [], c.trace⟩)) : NoNilClient c.trace (m c) := by
  obtain ⟨herr, hok⟩ := h.outcome hc
  rcases hfix : m ⟨w, [], c.trace⟩ with e | ⟨a, c₀⟩ <;> rw [hfix] at hf
  · rwa [herr e hfix]
  · obtain ⟨c', hc', ht⟩ := hok a c₀ hfix
    rw [hc']
    obtain ⟨evs, he, hs⟩ := hf
    exact ⟨evs, ht.trans he, hs⟩

end Outcome

/-- **Concurrent steps that keep the flags are harmless.** When no batch of concurrent steps
changes a `storageOnline` flag as the call's reads see it, `AttachVolume` and `DetachVolume`
panic exactly when they do with no concurrent step, and otherwise return the same value after
the same events; so they call no array operation through a nil handle. -/
theorem stable_flags_refine_fixed (ext : Arrays) (w : SanPair) (t : List Event) (name : String)
    (params : GoMap) (sched : List (List EnvStep)) (hs : flagsStable w w sched = true) :
    (∀ e, AttachVolume ext name params ⟨w, [], t⟩ = .error e →
      AttachVolume ext name params ⟨w, sched, t⟩ = .error e) ∧
    (∀ r c₀, AttachVolume ext name params ⟨w, [], t⟩ = .ok (r, c₀) →
      ∃ c, AttachVolume ext name params ⟨w, sched, t⟩ = .ok (r, c) ∧ c.trace = c₀.trace) ∧
    (∀ e, DetachVolume ext name params ⟨w, [], t⟩ = .error e →
      DetachVolume ext name params ⟨w, sched, t⟩ = .error e) ∧
    (∀ r c₀, DetachVolume ext name params ⟨w, [], t⟩ = .ok (r, c₀) →
      ∃ c, DetachVolume ext name params ⟨w, sched, t⟩ = .ok (r, c) ∧ c.trace = c₀.trace) ∧
    NoNilClient t (AttachVolume ext name params ⟨w, sched, t⟩) ∧
    NoNilClient t (DetachVolume ext name params ⟨w, sched, t⟩) := by
  have hc : Sim w ⟨w, sched, t⟩ := ⟨⟨rfl, fun _ => rfl, fun _ => rfl⟩, hs⟩
  have ha : RunsAsFixed w (AttachVolume ext name params) := AttachVolume_runsAsFixed ext name params
  have hd : RunsAsFixed w (DetachVolume ext name params) := DetachVolume_runsAsFixed ext name params
  obtain ⟨hsa, hsd⟩ := volumeCalls_fixed_safe ext w t name params
  exact ⟨(ha.outcome hc).1, (ha.outcome hc).2, (hd.outcome hc).1, (hd.outcome hc).2,
    .of_runsAsFixed ha hc hsa, .of_runsAsFixed hd hc hsd⟩

/-- Another caller logs in on each side while the call runs: the flags stay, and the call on a
HyperMetro LUN is safe. -/
theorem stable_flags_refine_fixed_logins :
    let lun : GoMap := [("NAME", .str "pvc-1"), ("ID", .str "17"), ("HASRSSOBJECT", .str metroBlob)]
    let sched : List (List EnvStep) := [[.acquire .p true], [.refresh .r true, .acquire .r true]]
    flagsStable bonded bonded sched = true ∧
      NoNilClient [] (AttachVolume (demoArrays lun (some [], none)) "pvc-1" [] ⟨bonded, sched, []⟩) :=
  ⟨by decide, (stable_flags_refine_fixed _ bonded [] "pvc-1" [] _ (by decide)).2.2.2.2.1⟩

end CsiPlugin
