import CsiPlugin.Plugin.SessionRuns
set_option warningAsError true

/-!
# CsiPlugin.Plugin.SessionAccounting

**When the session count is exact.** `release_unacquired_remote` needs a login that fails on one
side of a bonded pair, or a refresh that brings a side back online. Without a failing refresh,
and on a bonded pair without a failing login, the accounting holds over every run: from plugins
with no holder, for any number of callers and any interleaving, each side's `clientCount` is
the number of callers holding it, and while anyone holds a side, the side is online and its
session logged in. So `Logout` never runs under a holder, and every successful
`mutexGetClient` returns on a live session.

The proof has the usual layers:

* one side (`OceanstorSanPlugin.Accounts`): what `mutexGetClient`, `mutexReleaseClient` and a
  successful refresh do to a count that equals the number of holders;
* one caller (`callerStep_accounts`): its step moves each side's count with its own holding;
* one step of the system (`step_accounted`), by `List.countP_set` over the caller list;
* a run (`run_accounted`), by induction on the actions.
-/

namespace CsiPlugin

/-- The actions under which the accounting stays exact: refreshes that succeed and, on a bonded
pair, logins that succeed. -/
def Action.benign (metro : Bool) : Action → Bool
  | .caller _ loginOk => !metro || loginOk
  | .refresh _ ok => ok

/-- What a caller's place says it acquired: on a bonded pair, a caller past `p` acquired both
sides; without one, it never acquires `r`. -/
def Caller.Consistent (metro : Bool) (c : Caller) : Prop :=
  match c.pc with
  | .idle => c.gotP = false ∧ c.gotR = false
  | .getRemote => metro = true ∧ c.gotP = true ∧ c.gotR = false
  | .holding | .releaseP => c.gotP = true ∧ c.gotR = metro
  | .checkR => c.gotR = metro
  | .releaseR => metro = true ∧ c.gotR = true
  | .failed | .done => True

/-! ### One side -/

namespace OceanstorSanPlugin

/-- A side with `h` holders: its count is `h`, and while `h` is positive it is online and
logged in. -/
def Accounts (x : OceanstorSanPlugin) (logged : Bool) (h : Nat) : Prop :=
  x.clientCount = h ∧ (0 < h → x.storageOnline = true ∧ logged = true)

variable {x : OceanstorSanPlugin} {logged : Bool} {h : Nat}

/-- A held side needs no login. -/
theorem Accounts.needsLogin_eq_false (hx : x.Accounts logged h) (hpos : 0 < h) :
    x.needsLogin = false := by
  obtain ⟨hc, hl⟩ := hx
  simp [needsLogin, (hl hpos).1, hc]
  omega

/-- `mutexGetClient` counts its caller exactly when it returns no error, and leaves the side
live when it does. -/
theorem Accounts.acquire (hx : x.Accounts logged h) (loginOk : Bool) :
    (x.mutexGetClient loginOk).1.Accounts (x.needsLogin && loginOk || logged)
      (h + if (x.mutexGetClient loginOk).2 then 1 else 0) := by
  have hc := mutexGetClient_count x loginOk
  obtain ⟨hon, hok⟩ := mutexGetClient_online x loginOk
  refine ⟨by split_ifs at hc ⊢ <;> simp [hc, hx.1], fun hpos => ?_⟩
  cases hn : x.needsLogin
  · have := (hx.2 (Nat.pos_of_ne_zero fun h0 => by simp [needsLogin, hx.1, h0] at hn)).2
    simp [hon, hn, this]
  · cases loginOk
    · have : 0 < h := by simpa [hok, hn] using hpos
      simp [hx.needsLogin_eq_false this] at hn
    · simp [hon, hn]

/-- `mutexReleaseClient` by one of `h + 1` holders leaves `h`, and logs out only at zero. -/
theorem Accounts.release (hx : x.Accounts logged (h + 1)) :
    x.mutexReleaseClient.Accounts (!x.releaseLogsOut && logged) h := by
  obtain ⟨hc, hl⟩ := hx
  refine ⟨by simp [hc], fun hpos => ?_⟩
  have hne : x.releaseLogsOut = false := by simp [releaseLogsOut, hc]; omega
  simp [mutexReleaseClient_online, hne, hl (Nat.succ_pos h)]

/-- A successful refresh keeps the accounting. -/
theorem Accounts.refresh (hx : x.Accounts logged h) : (x.updateOnline true).Accounts logged h :=
  ⟨hx.1, fun hpos => ⟨rfl, (hx.2 hpos).2⟩⟩

end OceanstorSanPlugin

/-! ### One caller -/

namespace Sys

variable (s : Sys) (x y : Side) (ok : Bool)

@[simp] theorem acquire_callers : (s.acquire x ok).1.callers = s.callers := rfl
@[simp] theorem acquire_metro : (s.acquire x ok).1.pair.metro = s.pair.metro := by simp [acquire]
@[simp] theorem release_callers : (s.release x).callers = s.callers := rfl
@[simp] theorem release_metro : (s.release x).pair.metro = s.pair.metro := by simp [release]
@[simp] theorem refresh_callers : (s.refresh x ok).callers = s.callers := rfl
@[simp] theorem refresh_metro : (s.refresh x ok).pair.metro = s.pair.metro := by simp [refresh]

/-- A login that succeeds, or none at all: `mutexGetClient` returns no error. -/
@[simp] theorem acquire_true : (s.acquire x true).2 = true := by
  simp [acquire, (OceanstorSanPlugin.mutexGetClient_online _ true).2]

/-- The side `x`'s accounting after `x.mutexGetClient` in the system. -/
theorem acquire_accounts {h : Nat} (hx : (s.pair.get x).Accounts (s.loggedIn x) h) :
    ((s.acquire x ok).1.pair.get x).Accounts ((s.acquire x ok).1.loggedIn x)
      (h + if (s.acquire x ok).2 then 1 else 0) := by
  simpa [acquire, Bool.and_assoc] using hx.acquire ok

/-- The side `x`'s accounting after `x.mutexReleaseClient` in the system. -/
theorem release_accounts {h : Nat} (hx : (s.pair.get x).Accounts (s.loggedIn x) (h + 1)) :
    ((s.release x).pair.get x).Accounts ((s.release x).loggedIn x) h := by
  simpa [release] using hx.release

/-- The other side is untouched. -/
theorem acquire_other (hy : y ≠ x) :
    (s.acquire x ok).1.pair.get y = s.pair.get y ∧ (s.acquire x ok).1.loggedIn y = s.loggedIn y := by
  simp [acquire, hy]

theorem release_other (hy : y ≠ x) :
    (s.release x).pair.get y = s.pair.get y ∧ (s.release x).loggedIn y = s.loggedIn y := by
  simp [release, hy]

end Sys

/-- One caller's step moves each side's count with that caller's own holding; `others` is the
number of the side's other holders. -/
theorem callerStep_accounts {s : Sys} {c : Caller} {loginOk : Bool} (x : Side) (others : Nat)
    (hc : c.Consistent s.pair.metro) (hb : (!s.pair.metro || loginOk) = true)
    (h : (s.pair.get x).Accounts (s.loggedIn x) (others + if c.holds x then 1 else 0)) :
    ((s.callerStep c loginOk).1.pair.get x).Accounts ((s.callerStep c loginOk).1.loggedIn x)
      (others + if (s.callerStep c loginOk).2.holds x then 1 else 0) := by
  obtain ⟨pc, locErr, gotP, gotR⟩ := c
  cases pc <;> simp only [Caller.Consistent] at hc
  case idle =>
    obtain ⟨rfl, rfl⟩ := hc
    cases x
    · have := s.acquire_accounts .p loginOk (by simpa [Caller.holds] using h)
      cases hm : s.pair.metro <;> cases hok : (s.acquire .p loginOk).2 <;>
        simp_all [Sys.callerStep, Caller.holds]
    · obtain ⟨h1, h2⟩ := s.acquire_other .r .p loginOk (by decide)
      simpa [Sys.callerStep, Caller.holds, h1, h2] using h
  case getRemote =>
    obtain ⟨hm, rfl, rfl⟩ := hc
    obtain rfl : loginOk = true := by simpa [hm] using hb
    cases x
    · obtain ⟨h1, h2⟩ := s.acquire_other .p .r true (by decide)
      simpa [Sys.callerStep, Caller.holds, h1, h2] using h
    · simpa [Sys.callerStep, Caller.holds] using
        s.acquire_accounts .r true (by simpa [Caller.holds] using h)
  case holding =>
    obtain ⟨rfl, rfl⟩ := hc
    cases x
    · have hon : s.pair.p.storageOnline = true := by simpa using (h.2 (by simp [Caller.holds])).1
      simpa [Sys.callerStep, Caller.holds, hon] using h
    · by_cases hon : s.pair.p.storageOnline <;> simpa [Sys.callerStep, Caller.holds, hon] using h
  case releaseP =>
    obtain ⟨rfl, rfl⟩ := hc
    cases x
    · simpa [Sys.callerStep, Caller.holds] using
        s.release_accounts .p (by simpa [Caller.holds] using h)
    · obtain ⟨h1, h2⟩ := s.release_other .r .p (by decide)
      simpa [Sys.callerStep, Caller.holds, h1, h2] using h
  case checkR =>
    subst hc
    cases x
    · by_cases hon : s.pair.metro && s.pair.r.storageOnline <;>
        simpa [Sys.callerStep, Caller.holds, hon] using h
    · cases hm : s.pair.metro
      · simpa [Sys.callerStep, Caller.holds, hm] using h
      · have hon : s.pair.r.storageOnline = true := by
          simpa using (h.2 (by simp [Caller.holds, hm])).1
        simpa [Sys.callerStep, Caller.holds, hm, hon] using h
  case releaseR =>
    obtain ⟨-, rfl⟩ := hc
    cases x
    · obtain ⟨h1, h2⟩ := s.release_other .p .r (by decide)
      simpa [Sys.callerStep, Caller.holds, h1, h2] using h
    · simpa [Sys.callerStep, Caller.holds] using
        s.release_accounts .r (by simpa [Caller.holds] using h)
  all_goals simpa [Sys.callerStep] using h

/-- A caller's step keeps it consistent. -/
theorem callerStep_consistent {s : Sys} {c : Caller} {loginOk : Bool}
    (hc : c.Consistent s.pair.metro) (hb : (!s.pair.metro || loginOk) = true) :
    (s.callerStep c loginOk).2.Consistent s.pair.metro := by
  obtain ⟨pc, locErr, gotP, gotR⟩ := c
  cases pc <;> simp only [Caller.Consistent] at hc
  case idle =>
    cases hm : s.pair.metro
    · cases hok : (s.acquire .p loginOk).2 <;>
        simp [Sys.callerStep, Caller.Consistent, hm, hok, hc.2]
    · obtain rfl : loginOk = true := by simpa [hm] using hb
      simp [Sys.callerStep, Caller.Consistent, hm, hc.2]
  case getRemote =>
    obtain rfl : loginOk = true := by simpa [hc.1] using hb
    simp [Sys.callerStep, Caller.Consistent, hc.1, hc.2.1]
  case holding =>
    by_cases hon : s.pair.p.storageOnline <;> simp [Sys.callerStep, Caller.Consistent, hon, hc]
  case checkR =>
    cases hm : s.pair.metro <;> cases hon : s.pair.r.storageOnline <;>
      simp [Sys.callerStep, Caller.Consistent, hm, hon, hc]
  all_goals simp_all [Sys.callerStep, Caller.Consistent]

/-- A caller's step leaves the callers and the bonding alone. -/
theorem callerStep_frame (s : Sys) (c : Caller) (loginOk : Bool) :
    (s.callerStep c loginOk).1.callers = s.callers ∧
      (s.callerStep c loginOk).1.pair.metro = s.pair.metro := by
  obtain ⟨pc, locErr, gotP, gotR⟩ := c
  cases pc <;> simp [Sys.callerStep]

/-! ### Whole runs -/

/-- The accounting invariant: every side accounts for its holders, and every caller is
consistent. -/
structure Sys.Accounted (s : Sys) : Prop where
  sides : ∀ x, (s.pair.get x).Accounts (s.loggedIn x) (s.holders x)
  callers : ∀ c ∈ s.callers, c.Consistent s.pair.metro

theorem step_metro (s : Sys) (a : Action) : (step s a).pair.metro = s.pair.metro := by
  cases a with
  | caller i loginOk =>
    simp only [step]
    split
    · rfl
    · exact (callerStep_frame s _ loginOk).2
  | refresh x ok => simp [step]

/-- One benign step keeps the accounting. -/
theorem step_accounted {s : Sys} {a : Action} (hs : s.Accounted)
    (hb : a.benign s.pair.metro = true) : (step s a).Accounted := by
  cases a with
  | refresh x ok =>
    obtain rfl : ok = true := hb
    refine ⟨fun y => ?_, by simpa [step] using hs.callers⟩
    by_cases hy : y = x
    · subst hy
      simpa [step, Sys.refresh, Sys.holders] using (hs.sides y).refresh
    · simpa [step, Sys.refresh, Sys.holders, hy] using hs.sides y
  | caller i loginOk =>
    simp only [step]
    split
    · exact hs
    · rename_i c hi
      obtain ⟨hlen, rfl⟩ := List.getElem?_eq_some_iff.mp hi
      have hc := hs.callers _ (List.getElem_mem hlen)
      obtain ⟨hcl, hm⟩ := callerStep_frame s s.callers[i] loginOk
      refine ⟨fun x => ?_, fun c' hc' => ?_⟩
      · have hle := List.boole_getElem_le_countP (·.holds x) s.callers i hlen
        have h := hs.sides x
        rw [show s.holders x = s.holders x - (if s.callers[i].holds x then 1 else 0) +
          (if s.callers[i].holds x then 1 else 0) by unfold Sys.holders; omega] at h
        simpa [Sys.holders, List.countP_set _ _ _ _ hlen] using
          callerStep_accounts x _ hc hb h
      · rw [hm]
        rcases List.mem_or_eq_of_mem_set hc' with hc' | rfl
        · exact hs.callers c' hc'
        · exact callerStep_consistent hc hb

/-- Every benign run keeps the accounting. -/
theorem run_accounted {s : Sys} (hs : s.Accounted) {acts : List Action}
    (hb : acts.all (·.benign s.pair.metro) = true) : (run s acts).Accounted := by
  induction acts generalizing s with
  | nil => exact hs
  | cons a acts ih =>
    simp only [List.all_cons, Bool.and_eq_true] at hb
    exact ih (step_accounted hs hb.1) (by rw [step_metro]; exact hb.2)

/-- Plugins with no holder, and callers that have not started, are accounted for. -/
theorem init_accounted (w : SanPair) (n : Nat) (hp : w.p.clientCount = 0)
    (hr : w.r.clientCount = 0) : (Sys.init w n).Accounted := by
  refine ⟨fun x => ?_, fun c hc => ?_⟩
  · have h0 : (Sys.init w n).holders x = 0 := by
      cases x <;> simp [Sys.holders, Sys.init, Caller.fresh, Caller.holds]
    rw [h0]
    cases x <;> simp [OceanstorSanPlugin.Accounts, Sys.init, hp, hr]
  · obtain rfl := List.eq_of_mem_replicate hc
    simp [Caller.Consistent, Caller.fresh]

/-- **Exact accounting.** From plugins with no holder, over every run of any number of callers
in which no refresh fails and, on a bonded pair, no login fails, each side's `clientCount` is
the number of callers holding it, and a side that someone holds is online and logged in. -/
theorem session_accounting (w : SanPair) (n : Nat) (acts : List Action)
    (hp : w.p.clientCount = 0) (hr : w.r.clientCount = 0)
    (hb : acts.all (·.benign w.metro) = true) (x : Side) :
    (run (Sys.init w n) acts |>.pair.get x).clientCount = (run (Sys.init w n) acts).holders x ∧
      (0 < (run (Sys.init w n) acts).holders x →
        (run (Sys.init w n) acts |>.pair.get x).storageOnline = true ∧
          (run (Sys.init w n) acts).loggedIn x = true) :=
  (run_accounted (init_accounted w n hp hr) hb).sides x

/-- Two callers on a bonded pair, interleaved, each acquiring both sides and releasing them. -/
theorem session_accounting_bonded :
    let acts : List Action := [.caller 0 true, .caller 1 true, .caller 0 true, .caller 1 true,
      .caller 0 true, .caller 0 true, .caller 0 true]
    (run (Sys.init bonded 2) acts |>.pair.get .r).clientCount =
        (run (Sys.init bonded 2) acts).holders .r ∧
      (0 < (run (Sys.init bonded 2) acts).holders .r →
        (run (Sys.init bonded 2) acts |>.pair.get .r).storageOnline = true ∧
          (run (Sys.init bonded 2) acts).loggedIn .r = true) :=
  session_accounting bonded 2 _ rfl rfl (by decide) .r

end CsiPlugin
