import CsiPlugin.Plugin.Session
set_option warningAsError true

/-!
# CsiPlugin.Plugin.Dispatch

**`AttachVolume` and `DetachVolume` on an `OceanstorSanPlugin`, with concurrent steps.** The
call and its helpers (`getLunInfo`, `isHyperMetro`, `handler`, `metroHandler`,
`commonHandler`) run in `DispatchM`, a state monad over `Ctx` that can panic:

* every unlocked read of a `storageOnline` flag (`readOnline`) is one atomic step, and the
  concurrent steps of other goroutines scheduled before it (`EnvStep`: a capability refresh,
  another caller's `mutexGetClient` or `mutexReleaseClient`) change the pair first;
* a client handle is `some x` (side `x`'s `cli`) or `none` (a nil `BaseClientInterface`); a
  method call through `none` panics (`Panic.nilClient`), and so does a failed single-result
  type assertion `lun[key].(string)` (`Panic.typeAssertion`);
* the array operations the call issues, the strategies it runs and the warnings it logs are
  recorded in `Ctx.trace`.

The array clients, the attachers, `json.Unmarshal`, `utils.ReflectCall` and `utils.Errorf` are
not part of the repository: their answers come from `Arrays`. An attacher is kept as the data
it is built from (`AttacherCfg`), and a strategy run as the `(mapping, error)` pair its method
returns; `utils.ReflectCall` of such a method gives the two as its two `reflect.Value`s.
-/

namespace CsiPlugin

/-- A step another goroutine takes concurrently with the call. -/
inductive EnvStep where
  /-- `x.UpdateBackendCapabilities()`, succeeding or failing. -/
  | refresh (x : Side) (ok : Bool)
  /-- Another caller's `x.mutexGetClient`, with its login's outcome. -/
  | acquire (x : Side) (loginOk : Bool)
  /-- Another caller's `mutexReleaseClient` on `x`. -/
  | release (x : Side)
  deriving Repr, DecidableEq

/-- The pair after a concurrent step. -/
def EnvStep.apply (w : SanPair) : EnvStep → SanPair
  | refresh x ok => w.set x ((w.get x).updateOnline ok)
  | acquire x loginOk => w.set x ((w.get x).mutexGetClient loginOk).1
  | release x => w.set x (w.get x).mutexReleaseClient

/-- The arguments of an `attacher.NewAttacher` call. -/
structure AttacherCfg where
  product : String
  /-- The client handle: `some x` is side `x`'s `cli`, `none` a nil interface. -/
  cli : Option Side
  protocol : String
  invoker : String
  portals : List String
  alua : GoMap

/-- A strategy object: one attacher, or `attacher.NewMetroAttacher(local, remote, protocol)`. -/
inductive Attacher where
  | single (a : AttacherCfg)
  | metro (localAttacher remoteAttacher : AttacherCfg) (protocol : String)

/-- The client handles a strategy holds. -/
def Attacher.clients : Attacher → List (Option Side)
  | single a => [a.cli]
  | metro l r _ => [l.cli, r.cli]

/-- `attacher.NewAttacher(x.product, cli, x.protocol, "csi", x.portals, x.alua)`. -/
def OceanstorSanPlugin.newAttacher (x : OceanstorSanPlugin) (cli : Option Side) : AttacherCfg :=
  ⟨x.product, cli, x.protocol, "csi", x.portals, x.alua⟩

@[simp] theorem OceanstorSanPlugin.newAttacher_cli (x : OceanstorSanPlugin) (cli : Option Side) :
    (x.newAttacher cli).cli = cli := rfl

/-- What a strategy method returns: the mapping (`none` for a nil map) and the error. -/
abbrev StrategyResult := Option GoMap × Option Err

/-- The answers of the code outside the repository. -/
structure Arrays where
  /-- `p.cli.MakeLunName(name)`. -/
  makeLunName : String → String
  /-- `GetLunByName` on side `x`'s array: the descriptor (`none` for a nil map) and the error. -/
  getLunByName : Side → String → Option GoMap × Option Err
  /-- `GetHyperMetroPairByLocalObjID` on side `x`'s array. -/
  getHyperMetroPairByLocalObjID : Side → String → Option GoMap × Option Err
  /-- `json.Unmarshal` into a `map[string]string`: the decoded map, `none` on an error. -/
  unmarshal : String → Option (String → Option String)
  /-- The error `utils.Errorf` returns for a formatted message. -/
  errorf : String → Err
  /-- The strategy's method (`ControllerAttach` or `ControllerDetach`) on a LUN name. -/
  call : Attacher → String → String → GoMap → StrategyResult

/-- How the call can panic. -/
inductive Panic where
  /-- A method call through a nil client interface. -/
  | nilClient (op : String)
  /-- A failed type assertion `lun[key].(string)` without comma-ok. -/
  | typeAssertion (key : String)
  deriving Repr, DecidableEq

/-- What the call does that others can observe. -/
inductive Event where
  /-- An array operation through side `x`'s client. -/
  | arrayOp (x : Side) (op arg : String)
  /-- A strategy's method run on a LUN name. -/
  | strategy (a : Attacher) (method lunName : String)
  /-- A warning in the log. -/
  | warning (msg : String)

/-- The pair, the concurrent steps still to land before each remaining flag read, and what the
call has done so far. -/
structure Ctx where
  pair : SanPair
  sched : List (List EnvStep)
  trace : List Event

/-- The call's monad. -/
abbrev DispatchM := StateT Ctx (Except Panic)

/-- The state once the concurrent steps scheduled before the next read have landed. -/
def Ctx.land (c : Ctx) : Ctx :=
  { c with pair := (c.sched.headD []).foldl EnvStep.apply c.pair, sched := c.sched.tail }

/-- An unlocked read of side `x`'s `storageOnline`, after the concurrent steps scheduled
before it. -/
def readOnline (x : Side) : DispatchM Bool := fun c =>
  .ok ((c.land.pair.get x).storageOnline, c.land)

/-- `p.metroRemotePlugin != nil && p.metroRemotePlugin.storageOnline`. -/
def remoteOnline : DispatchM Bool := do
  if (← get).pair.metro then readOnline .r else pure false

/-- `p.storageOnline && p.metroRemotePlugin != nil && p.metroRemotePlugin.storageOnline`. -/
def bothOnline : DispatchM Bool := do
  if ← readOnline .p then remoteOnline else pure false

/-- Record an event. -/
def emit (e : Event) : DispatchM Unit := modify fun c => { c with trace := c.trace ++ [e] }

/-- `cli.Op(ctx, arg)`: a nil handle panics; otherwise side `x`'s array answers. -/
def arrayCall {α : Type} (cli : Option Side) (op arg : String) (answer : Side → String → α) :
    DispatchM α :=
  match cli with
  | none => throw (.nilClient op)
  | some x => do
    emit (.arrayOp x op arg)
    pure (answer x arg)

/-- Log a warning, if there is one. -/
def warn : Option String → DispatchM Unit
  | none => pure ()
  | some msg => emit (.warning msg)

/-- `lun[key].(string)` without comma-ok. -/
def assertString (lun : GoMap) (key : String) : DispatchM String :=
  match (lun.get key).asString with
  | none => throw (.typeAssertion key)
  | some s => pure s

/-- `utils.ReflectCall(a, method, ctx, lunName, parameters)` on a strategy. -/
def runStrategy (ext : Arrays) (a : Attacher) (method lunName : String) (parameters : GoMap) :
    DispatchM StrategyResult := do
  emit (.strategy a method lunName)
  pure (ext.call a method lunName parameters)

/-! ### The dispatch -/

/-- `(*OceanstorSanPlugin).getLunInfo`. -/
def getLunInfo (ext : Arrays) (localCli remoteCli : Option Side) (lunName : String) :
    DispatchM (Option GoMap × Option Err) := do
  if ← readOnline .p then
    arrayCall localCli "GetLunByName" lunName ext.getLunByName
  else if ← remoteOnline then
    arrayCall remoteCli "GetLunByName" lunName ext.getLunByName
  else
    pure (none, some "both the local and remote storage are not online")

/-- `(*OceanstorSanPlugin).isHyperMetro`: `HASRSSOBJECT` is a string that decodes as a JSON
object of strings whose `HyperMetro` entry is `"TRUE"`. -/
def isHyperMetro (ext : Arrays) (lun : GoMap) : Bool :=
  match (lun.get "HASRSSOBJECT").asString with
  | none => false
  | some rssStr =>
    match ext.unmarshal rssStr with
    | none => false
    | some rss => rss "HyperMetro" == some "TRUE"

/-- `handlerRequest`. -/
structure HandlerRequest where
  localCli : Option Side
  metroCli : Option Side
  lun : GoMap
  parameters : GoMap
  method : String

/-- The `reflect.Value`s a handler returns: `some` the strategy's result, or `none` for a nil
slice. -/
abbrev HandlerOut := Option StrategyResult × Option Err

/-- The warning `metroHandler` logs for a pair's `RUNNINGSTATUS`: detach and unstage accept
normal (`"1"`) and paused (`"41"`) pairs, other methods only normal ones. -/
def pairStatusWarning (method localLunID : String) (status : Value) : Option String :=
  if method == "ControllerDetach" || method == "NodeUnstage" then
    if !status.isStr "1" && !status.isStr "41" then
      some ("hypermetro pair status of LUN " ++ localLunID ++ " is not normal or pause")
    else none
  else if !status.isStr "1" then
    some ("hypermetro pair status of LUN " ++ localLunID ++ " is not normal")
  else none

/-- `(*OceanstorSanPlugin).metroHandler`. -/
def metroHandler (ext : Arrays) (req : HandlerRequest) : DispatchM HandlerOut := do
  let localLunID ← assertString req.lun "ID"
  let res ← arrayCall req.localCli "GetHyperMetroPairByLocalObjID" localLunID
    ext.getHyperMetroPairByLocalObjID
  match res.2, res.1 with
  | some err, _ => pure (none, some err)
  | none, none => pure (none, some ("hypermetro pair of LUN " ++ localLunID ++ " doesn't exist"))
  | none, some pair =>
    warn (pairStatusWarning req.method localLunID (pair.get "RUNNINGSTATUS"))
    let w := (← get).pair
    let metroAttacher :=
      Attacher.metro (w.p.newAttacher req.localCli) (w.r.newAttacher req.metroCli) w.p.protocol
    let lunName ← assertString req.lun "NAME"
    let out ← runStrategy ext metroAttacher req.method lunName req.parameters
    pure (some out, none)

/-- `(*OceanstorSanPlugin).commonHandler` on `plugin` = side `x`: the attacher holds the
plugin's own `cli`. -/
def commonHandler (ext : Arrays) (x : Side) (lun parameters : GoMap) (method : String) :
    DispatchM HandlerOut := do
  let commonAttacher := Attacher.single (((← get).pair.get x).newAttacher (some x))
  match (lun.get "NAME").asString with
  | none => pure (none, some "there is no NAME in lun info")
  | some lunName =>
    let out ← runStrategy ext commonAttacher method lunName parameters
    pure (some out, none)

/-- `(*OceanstorSanPlugin).handler`. When the LUN is HyperMetro and neither side reads online,
it falls through with no result and no error. -/
def handler (ext : Arrays) (req : HandlerRequest) : DispatchM HandlerOut := do
  if !isHyperMetro ext req.lun then
    commonHandler ext .p req.lun req.parameters req.method
  else if ← bothOnline then
    metroHandler ext req
  else do
    let localOnline ← readOnline .p
    if localOnline then
      let name ← assertString req.lun "NAME"
      emit (.warning ("the lun " ++ name ++ " is hyperMetro, but just the local storage is online"))
      commonHandler ext .p req.lun req.parameters req.method
    else do
      let remote ← remoteOnline
      if remote then
        let name ← assertString req.lun "NAME"
        emit (.warning ("the lun " ++ name ++
          " is hyperMetro, but just the remote storage is online"))
        commonHandler ext .r req.lun req.parameters req.method
      else
        pure (none, none)

/-- The client handles `AttachVolume` and `DetachVolume` pick: `p.cli` when `p` reads online,
the remote's `cli` when it is configured and reads online. -/
def pickClients : DispatchM (Option Side × Option Side) := do
  let localOnline ← readOnline .p
  let remote ← remoteOnline
  pure (if localOnline then some .p else none, if remote then some .r else none)

/-- What `AttachVolume` returns once `handler` has returned. The check that `out[0]` holds a
`map[string]interface{}` always passes for a strategy's result, so its error is never
returned. -/
def attachResult (ext : Arrays) (lunName : String) : HandlerOut → Option GoMap × Option Err
  | (_, some err) =>
    (none, some (ext.errorf ("Storage connect for volume " ++ lunName ++ " error: " ++ err)))
  | (none, none) => (none, some (ext.errorf ("attach volume " ++ lunName ++ " error")))
  | (some (_, some result), none) => (none, some result)
  | (some (connectInfo, none), none) => (connectInfo, none)

/-- What `DetachVolume` returns once `handler` has returned. -/
def detachResult (lunName : String) : HandlerOut → Option Err
  | (_, some err) => some err
  | (none, none) => some ("detach volume " ++ lunName ++ " error")
  | (some (_, result), none) => result

/-- `(*OceanstorSanPlugin).AttachVolume`: the mapping info and the error. -/
def AttachVolume (ext : Arrays) (name : String) (parameters : GoMap) :
    DispatchM (Option GoMap × Option Err) := do
  let clis ← pickClients
  let lunName := ext.makeLunName name
  let res ← getLunInfo ext clis.1 clis.2 lunName
  match res.2, res.1 with
  | some err, _ => pure (none, some err)
  | none, none => pure (none, some (ext.errorf ("Get empty lun info, lunName: " ++ lunName)))
  | none, some lun =>
    let out ← handler ext ⟨clis.1, clis.2, lun, parameters, "ControllerAttach"⟩
    pure (attachResult ext lunName out)

/-- `(*OceanstorSanPlugin).DetachVolume`: the error. -/
def DetachVolume (ext : Arrays) (name : String) (parameters : GoMap) : DispatchM (Option Err) := do
  let clis ← pickClients
  let lunName := ext.makeLunName name
  let res ← getLunInfo ext clis.1 clis.2 lunName
  match res.2, res.1 with
  | some err, _ => pure (some err)
  | none, none =>
    emit (.warning ("LUN " ++ lunName ++ " to detach doesn't exist"))
    pure none
  | none, some lun =>
    let out ← handler ext ⟨clis.1, clis.2, lun, parameters, "ControllerDetach"⟩
    pure (detachResult lunName out)

/-! ### Running the monad

One lemma per primitive, so that the calls evaluate by `simp` on a given state. A state with
no concurrent step left is `⟨w, [], t⟩`: every read there sees `w`. -/

namespace DispatchM

@[simp] theorem bind_apply {α β : Type} (x : DispatchM α) (f : α → DispatchM β) (c : Ctx) :
    (x >>= f) c = match x c with
      | .ok (a, c') => f a c'
      | .error e => .error e := by
  change StateT.bind x f c = _
  unfold StateT.bind
  cases x c <;> rfl

@[simp] theorem map_apply {α β : Type} (g : α → β) (x : DispatchM α) (c : Ctx) :
    (g <$> x) c = match x c with
      | .ok (a, c') => .ok (g a, c')
      | .error e => .error e := by
  change StateT.map g x c = _
  unfold StateT.map
  cases x c <;> rfl

@[simp] theorem pure_apply {α : Type} (a : α) (c : Ctx) : (pure a : DispatchM α) c = .ok (a, c) :=
  rfl

@[simp] theorem get_apply (c : Ctx) : (get : DispatchM Ctx) c = .ok (c, c) := rfl

@[simp] theorem throw_apply {α : Type} (e : Panic) (c : Ctx) :
    (throw e : DispatchM α) c = .error e := rfl

end DispatchM

@[simp] theorem emit_apply (e : Event) (c : Ctx) :
    emit e c = .ok ((), { c with trace := c.trace ++ [e] }) := rfl

@[simp] theorem warn_apply (m : Option String) (c : Ctx) :
    warn m c = .ok ((), { c with trace := c.trace ++ m.toList.map .warning }) := by
  cases m <;> simp [warn]

@[simp] theorem arrayCall_none {α : Type} (op arg : String) (answer : Side → String → α) :
    arrayCall none op arg answer = throw (.nilClient op) := rfl

@[simp] theorem arrayCall_some {α : Type} (x : Side) (op arg : String)
    (answer : Side → String → α) (c : Ctx) :
    arrayCall (some x) op arg answer c =
      .ok (answer x arg, { c with trace := c.trace ++ [.arrayOp x op arg] }) := rfl

@[simp] theorem runStrategy_apply (ext : Arrays) (a : Attacher) (method lunName : String)
    (parameters : GoMap) (c : Ctx) :
    runStrategy ext a method lunName parameters c =
      .ok (ext.call a method lunName parameters,
        { c with trace := c.trace ++ [.strategy a method lunName] }) := rfl

@[simp] theorem readOnline_apply (x : Side) (c : Ctx) :
    readOnline x c = .ok ((c.land.pair.get x).storageOnline, c.land) := rfl

@[simp] theorem land_trace (c : Ctx) : c.land.trace = c.trace := rfl

@[simp] theorem land_fixed (w : SanPair) (t : List Event) : Ctx.land ⟨w, [], t⟩ = ⟨w, [], t⟩ := rfl

@[simp] theorem remoteOnline_fixed (w : SanPair) (t : List Event) :
    remoteOnline ⟨w, [], t⟩ = .ok (w.metro && w.r.storageOnline, ⟨w, [], t⟩) := by
  cases h : w.metro <;> simp [remoteOnline, h]

@[simp] theorem bothOnline_fixed (w : SanPair) (t : List Event) :
    bothOnline ⟨w, [], t⟩ = .ok (w.p.storageOnline && w.metro && w.r.storageOnline, ⟨w, [], t⟩) := by
  cases h : w.p.storageOnline <;> simp [bothOnline, h, Bool.and_assoc]

/-- The client handles `pickClients` returns when the flags are those of `w`. -/
def fixedClients (w : SanPair) : Option Side × Option Side :=
  (if w.p.storageOnline then some .p else none,
   if w.metro && w.r.storageOnline then some .r else none)

@[simp] theorem pickClients_fixed (w : SanPair) (t : List Event) :
    pickClients ⟨w, [], t⟩ = .ok (fixedClients w, ⟨w, [], t⟩) := by
  simp [pickClients, fixedClients]

end CsiPlugin
