import CsiPlugin.Plugin.Session
set_option warningAsError true

/-!
# CsiPlugin.Plugin.SessionRuns

**Callers of `getClient` and `releaseClient`, interleaved.** A run is a list of `Action`s on a
`Sys`: a plugin `p`, its metro remote `r`, and any number of callers. Each caller goes through

* `getClient` — `p.mutexGetClient`, then (when `p` has a metro remote) `r.mutexGetClient`; the
  call fails only when every attempted side failed;
* `releaseClient` (only after a successful `getClient`) — read `p.storageOnline` and, if it was
  true, `p.mutexReleaseClient`; then read `r.storageOnline` (when `r` is configured) and, if it
  was true, `r.mutexReleaseClient`.

Each locked operation and each unlocked read of a `storageOnline` flag is one atomic step, so
any other step can fall between a read and the release it guards. Capability refreshes
(`UpdateBackendCapabilities`, succeeding or failing) are steps of their own. Ghost data records
what each caller acquired (`gotP`, `gotR`) and whether each side's session is logged in, which
gives the number of holders of a side (`Sys.holders`) to compare with its `clientCount`.

`releaseClient` decides what to release from the flags it reads, not from what its caller
acquired: `release_unacquired_remote` is a run that drives `r.clientCount` to `-1`, and a run
where `r` is logged out while a caller still holds it.
-/

namespace CsiPlugin

/-- Where a caller is in `getClient` ... `releaseClient`. -/
inductive Pc where
  /-- Has not called `getClient`. -/
  | idle
  /-- `p.mutexGetClient` returned; `r.mutexGetClient` is next. -/
  | getRemote
  /-- `getClient` returned no error; `releaseClient` will read `p.storageOnline` first. -/
  | holding
  /-- `getClient` returned an error; the caller never releases. -/
  | failed
  /-- `releaseClient` read `p.storageOnline = true`; `p.mutexReleaseClient` is next. -/
  | releaseP
  /-- `releaseClient` will read `p.metroRemotePlugin != nil && r.storageOnline`. -/
  | checkR
  /-- ... and read true; `r.mutexReleaseClient` is next. -/
  | releaseR
  | done
  deriving Repr, DecidableEq

/-- One caller: its place, `getClient`'s local `locErr != nil`, and what it acquired. -/
structure Caller where
  pc : Pc
  locErr : Bool
  /-- Ghost: its `p.mutexGetClient` returned no error. -/
  gotP : Bool
  /-- Ghost: its `r.mutexGetClient` returned no error. -/
  gotR : Bool
  deriving Repr, DecidableEq

/-- A caller that has not started. -/
def Caller.fresh : Caller := ⟨.idle, false, false, false⟩

/-- The plugins, the ghost session state of their clients, and the callers. -/
structure Sys where
  pair : SanPair
  /-- Ghost: a successful `Login` on the side happened since its last `Logout`. -/
  loggedIn : Side → Bool
  callers : List Caller

/-- A step of a run: the next step of caller `i`, with what `Login` returns if it is called, or
a capability refresh of one side that succeeds or fails. -/
inductive Action where
  | caller (i : Nat) (loginOk : Bool)
  | refresh (x : Side) (ok : Bool)
  deriving Repr, DecidableEq

namespace Sys

/-- `x.mutexGetClient` in the system; the session is logged in after a successful login. -/
def acquire (s : Sys) (x : Side) (loginOk : Bool) : Sys × Bool :=
  let res := (s.pair.get x).mutexGetClient loginOk
  ({ s with pair := s.pair.set x res.1,
            loggedIn := fun y =>
              if y = x && (s.pair.get x).needsLogin && loginOk then true else s.loggedIn y },
   res.2)

/-- `x.mutexReleaseClient` in the system; `Logout` ends the session. -/
def release (s : Sys) (x : Side) : Sys :=
  { s with pair := s.pair.set x (s.pair.get x).mutexReleaseClient,
           loggedIn := fun y =>
             if y = x && (s.pair.get x).releaseLogsOut then false else s.loggedIn y }

/-- `x.UpdateBackendCapabilities()` succeeding (`ok`) or failing. -/
def refresh (s : Sys) (x : Side) (ok : Bool) : Sys :=
  { s with pair := s.pair.set x ((s.pair.get x).updateOnline ok) }

/-- The next atomic step of caller `c`. -/
def callerStep (s : Sys) (c : Caller) (loginOk : Bool) : Sys × Caller :=
  match c.pc with
  | .idle =>
    let res := s.acquire .p loginOk
    (res.1, { c with locErr := !res.2, gotP := res.2,
                     pc := if s.pair.metro then .getRemote else if res.2 then .holding else .failed })
  | .getRemote =>
    let res := s.acquire .r loginOk
    (res.1, { c with gotR := res.2, pc := if c.locErr && !res.2 then .failed else .holding })
  | .holding => (s, { c with pc := if s.pair.p.storageOnline then .releaseP else .checkR })
  | .releaseP => (s.release .p, { c with pc := .checkR })
  | .checkR =>
    (s, { c with pc := if s.pair.metro && s.pair.r.storageOnline then .releaseR else .done })
  | .releaseR => (s.release .r, { c with pc := .done })
  | .failed => (s, c)
  | .done => (s, c)

end Sys

/-- One step of a run. -/
def step (s : Sys) : Action → Sys
  | .caller i loginOk =>
    match s.callers[i]? with
    | none => s
    | some c =>
      let res := s.callerStep c loginOk
      { res.1 with callers := s.callers.set i res.2 }
  | .refresh x ok => s.refresh x ok

/-- A run of actions. -/
def run (s : Sys) (acts : List Action) : Sys := acts.foldl step s

/-- `n` callers that have not started, on plugins as `Init` left them and logged in. -/
def Sys.init (pair : SanPair) (n : Nat) : Sys :=
  ⟨pair, fun _ => true, List.replicate n Caller.fresh⟩

/-- The caller holds a count on side `x`: its `mutexGetClient` on `x` succeeded and its release
of `x` has not run. -/
def Caller.holds (c : Caller) : Side → Bool
  | .p => c.gotP && (c.pc == .getRemote || c.pc == .holding || c.pc == .releaseP)
  | .r => c.gotR && (c.pc == .holding || c.pc == .releaseP || c.pc == .checkR || c.pc == .releaseR)

/-- The number of callers holding a count on side `x`. -/
def Sys.holders (s : Sys) (x : Side) : Nat := s.callers.countP (·.holds x)

/-! ### Lost and misplaced releases -/

/-- One caller logs in on `p`, fails to log in on `r` (so `getClient` succeeds), a capability
refresh brings `r` back online, and the caller runs `releaseClient`. -/
def releaseUnacquiredRun : List Action :=
  [.caller 0 true, .caller 0 false, .refresh .r true,
   .caller 0 true, .caller 0 true, .caller 0 true, .caller 0 true]

/-- Caller 0 acquires only `p`, caller 1 acquires both, and caller 0's `releaseClient` releases
`r` in caller 1's stead. -/
def releaseOthersRun : List Action :=
  [.caller 0 true, .caller 0 false, .caller 1 true, .caller 1 true,
   .caller 0 true, .caller 0 true, .caller 0 true, .caller 0 true]

/-- `releaseClient` releases what the flags say, not what its caller acquired. In the first run
`r.clientCount` ends at `-1` with no holder of `r`; in the second, `r` is logged out and its
count is `0` while caller 1 still holds it. -/
theorem release_unacquired_remote :
    (run (Sys.init bonded 1) releaseUnacquiredRun).pair.r.clientCount = -1 ∧
      (run (Sys.init bonded 1) releaseUnacquiredRun).holders .r = 0 ∧
    (run (Sys.init bonded 2) releaseOthersRun).pair.r.clientCount = 0 ∧
      (run (Sys.init bonded 2) releaseOthersRun).holders .r = 1 ∧
      (run (Sys.init bonded 2) releaseOthersRun).loggedIn .r = false := by
  decide

end CsiPlugin
