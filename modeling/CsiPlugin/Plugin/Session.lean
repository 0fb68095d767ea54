import CsiPlugin.Plugin.Basic
set_option warningAsError true

/-!
# CsiPlugin.Plugin.Session

**The array session of an `OceanstorSanPlugin`.** Three operations change the pair
`storageOnline` / `clientCount`, each one atomic step (the first two run under `clientMutex`,
the third is a single assignment):

* `mutexGetClient` — when the plugin is offline or unused it calls `Login`; a successful login
  sets `storageOnline` and counts the caller, a failed one clears `storageOnline` and counts
  nobody; otherwise the caller is counted without a login;
* `mutexReleaseClient` — uncounts one caller; at zero it calls `Logout` and clears
  `storageOnline`;
* `UpdateBackendCapabilities` — sets `storageOnline` to whether the capability query succeeded.

`Login`'s outcome is an argument (`loginOk`). Whether an operation calls `Login` or `Logout` is
read off by `needsLogin` and `releaseLogsOut`, which the run model uses to track the session.
-/

namespace CsiPlugin

namespace OceanstorSanPlugin

/-- `mutexGetClient` calls `Login` when `!p.storageOnline || p.clientCount == 0`. -/
def needsLogin (x : OceanstorSanPlugin) : Bool := !x.storageOnline || x.clientCount == 0

/-- `(*OceanstorSanPlugin).mutexGetClient`, with `Login`'s outcome: the plugin after the call
and whether the call returned no error. -/
def mutexGetClient (x : OceanstorSanPlugin) (loginOk : Bool) : OceanstorSanPlugin × Bool :=
  if x.needsLogin then
    if loginOk then ({ x with storageOnline := true, clientCount := x.clientCount + 1 }, true)
    else ({ x with storageOnline := false }, false)
  else ({ x with clientCount := x.clientCount + 1 }, true)

/-- `mutexReleaseClient` calls `Logout` when the decremented count is zero. -/
def releaseLogsOut (x : OceanstorSanPlugin) : Bool := x.clientCount - 1 == 0

/-- `(*OceanstorSanPlugin).mutexReleaseClient(ctx, plugin, cli)` on `plugin = x`. -/
def mutexReleaseClient (x : OceanstorSanPlugin) : OceanstorSanPlugin :=
  if x.releaseLogsOut then { x with clientCount := x.clientCount - 1, storageOnline := false }
  else { x with clientCount := x.clientCount - 1 }

/-- The part of `(*OceanstorSanPlugin).UpdateBackendCapabilities` that touches the session:
`storageOnline` becomes whether the embedded plugin's query returned no error. -/
def updateOnline (x : OceanstorSanPlugin) (ok : Bool) : OceanstorSanPlugin :=
  { x with storageOnline := ok }

/-! ### One lemma per operation -/

theorem mutexGetClient_count (x : OceanstorSanPlugin) (loginOk : Bool) :
    (x.mutexGetClient loginOk).1.clientCount =
      if (x.mutexGetClient loginOk).2 then x.clientCount + 1 else x.clientCount := by
  unfold mutexGetClient
  split_ifs <;> simp_all

/-- Without a login the call only counts, and the plugin was online with a non-zero count. -/
theorem needsLogin_eq_false {x : OceanstorSanPlugin} (h : x.needsLogin = false) :
    x.storageOnline = true ∧ x.clientCount ≠ 0 := by
  simpa [needsLogin] using h

/-- A call that logs in leaves the plugin online exactly when the login succeeded; one that does
not log in finds it online. It returns an error only when the login fails. -/
theorem mutexGetClient_online (x : OceanstorSanPlugin) (loginOk : Bool) :
    (x.mutexGetClient loginOk).1.storageOnline = (if x.needsLogin then loginOk else true) ∧
      (x.mutexGetClient loginOk).2 = (!x.needsLogin || loginOk) := by
  unfold mutexGetClient
  split_ifs with hn hl
  · simp [hn, hl]
  · simp [hn, hl]
  · simp [hn, (needsLogin_eq_false (by simpa using hn)).1]

@[simp] theorem mutexReleaseClient_count (x : OceanstorSanPlugin) :
    x.mutexReleaseClient.clientCount = x.clientCount - 1 := by
  unfold mutexReleaseClient
  split_ifs <;> rfl

theorem mutexReleaseClient_online (x : OceanstorSanPlugin) :
    x.mutexReleaseClient.storageOnline = (x.storageOnline && !x.releaseLogsOut) := by
  unfold mutexReleaseClient
  split_ifs with h <;> simp [h]

@[simp] theorem updateOnline_count (x : OceanstorSanPlugin) (ok : Bool) :
    (x.updateOnline ok).clientCount = x.clientCount := rfl

@[simp] theorem updateOnline_online (x : OceanstorSanPlugin) (ok : Bool) :
    (x.updateOnline ok).storageOnline = ok := rfl

/-- The state `Init` leaves on a plugin: online, with no holder. -/
def initialized : OceanstorSanPlugin := { NewPlugin with storageOnline := true }

end OceanstorSanPlugin

/-- A plugin bonded to a metro remote, both as `Init` left them. -/
def bonded : SanPair := ⟨.initialized, .initialized, true⟩

end CsiPlugin
