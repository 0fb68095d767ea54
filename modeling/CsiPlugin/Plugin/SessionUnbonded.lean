import CsiPlugin.Plugin.SessionAccounting
set_option warningAsError true

/-!
# CsiPlugin.Plugin.SessionUnbonded

**The session of a plugin without a metro remote, under every failure.** `session_accounting`
needs refreshes that succeed. A plugin with no metro remote keeps a weaker accounting over every
run, whatever `Login` and the capability queries return:

* `releaseClient` releases only after `getClient` succeeded, so `clientCount` never falls below
  the number of holders, and it is positive while the session is logged in: `Logout` never runs
  while a caller holds the client;
* a capability refresh that fails while a caller holds the client makes that caller's
  `releaseClient` read `storageOnline = false` and release nothing. The count it leaves behind
  is never taken back: the surplus of `clientCount` over the holders never decreases, so once it
  is positive `Logout` never runs again (`unbonded_session_leak`).

The proof has the layers of `SessionAccounting`: one lemma per operation on a side
(`OceanstorSanPlugin.Covers`), a caller's step (`callerStep_covers`), a step of the system
(`step_covered`), and a run (`run_covered`), where the surplus is the ghost that only grows.
-/

namespace CsiPlugin

/-! ### One side -/

namespace OceanstorSanPlugin

/-- A side with `h` holders and `k` counts that no holder will release: its count is `h + k`,
and its session is logged in while the count is not zero. -/
def Covers (x : OceanstorSanPlugin) (logged : Bool) (h k : Nat) : Prop :=
  x.clientCount = h + k ∧ (x.clientCount ≠ 0 → logged = true)

variable {x : OceanstorSanPlugin} {logged : Bool} {h k : Nat}

/-- `mutexGetClient` counts its caller exactly when it returns no error; a call that finds the
count at zero logs in. -/
theorem Covers.acquire (hx : x.Covers logged h k) (loginOk : Bool) :
    (x.mutexGetClient loginOk).1.Covers (x.needsLogin && loginOk || logged)
      (h + if (x.mutexGetClient loginOk).2 then 1 else 0) k := by
  obtain ⟨hx1, hx2⟩ := hx
  have hc := mutexGetClient_count x loginOk
  obtain ⟨-, hok⟩ := mutexGetClient_online x loginOk
  refine ⟨by split_ifs at hc ⊢ <;> omega, fun hne => ?_⟩
  cases hl : logged
  · -- logged out: the count was zero, so the call logged in, and counted only if that worked
    have h0 : x.clientCount = 0 := by by_contra h0; simp [hx2 h0] at hl
    have hn : x.needsLogin = true := by simp [needsLogin, h0]
    cases loginOk
    · simp only [hn, Bool.not_true, Bool.false_or, Bool.false_eq_true, ↓reduceIte] at hok
      simp [hok, h0] at hc
      exact absurd hc hne
    · simp [hn]
  · simp

/-- `mutexReleaseClient` by one of `h + 1` holders leaves `h`, and logs out only at zero. -/
theorem Covers.release (hx : x.Covers logged (h + 1) k) :
    x.mutexReleaseClient.Covers (!x.releaseLogsOut && logged) h k := by
  obtain ⟨hx1, hx2⟩ := hx
  rw [Covers, mutexReleaseClient_count]
  refine ⟨by omega, fun hne => ?_⟩
  have hne' : x.releaseLogsOut = false := by simpa [releaseLogsOut] using hne
  simp [hne', hx2 (by omega)]

/-- A refresh, failing or not, leaves the count alone. -/
theorem Covers.refresh (hx : x.Covers logged h k) (ok : Bool) : (x.updateOnline ok).Covers logged h k :=
  hx

/-- A holder that stops holding without a release leaves its count behind. -/
theorem Covers.skip (hx : x.Covers logged (h + 1) k) : x.Covers logged h (k + 1) :=
  ⟨by have := hx.1; omega, hx.2⟩

end OceanstorSanPlugin

/-! ### One caller -/

/-- A caller's step on a plugin with no metro remote moves `p`'s holders with that caller's own
holding, and adds to the surplus only when a holder stops holding without a release. -/
theorem callerStep_covers {s : Sys} {c : Caller} (loginOk : Bool) (others k : Nat)
    (hm : s.pair.metro = false) (hc : c.Consistent false)
    (h : s.pair.p.Covers (s.loggedIn .p) (others + if c.holds .p then 1 else 0) k) :
    ∃ k' ≥ k, (s.callerStep c loginOk).1.pair.p.Covers ((s.callerStep c loginOk).1.loggedIn .p)
      (others + if (s.callerStep c loginOk).2.holds .p then 1 else 0) k' := by
  obtain ⟨pc, locErr, gotP, gotR⟩ := c
  cases pc <;> simp only [Caller.Consistent] at hc
  case idle =>
    obtain ⟨rfl, rfl⟩ := hc
    refine ⟨k, le_rfl, ?_⟩
    have := (h : s.pair.p.Covers (s.loggedIn .p) (others + 0) k).acquire loginOk
    cases hok : (s.pair.p.mutexGetClient loginOk).2 <;>
      simp_all [Sys.callerStep, Sys.acquire, Caller.holds, Bool.and_assoc]
  case holding =>
    obtain ⟨rfl, -⟩ := hc
    cases hon : s.pair.p.storageOnline
    · -- `releaseClient` reads `storageOnline = false` and will release nothing
      exact ⟨k + 1, Nat.le_succ k, by simpa [Sys.callerStep, Caller.holds, hon] using h.skip⟩
    · exact ⟨k, le_rfl, by simpa [Sys.callerStep, Caller.holds, hon] using h⟩
  case releaseP =>
    obtain ⟨rfl, -⟩ := hc
    exact ⟨k, le_rfl, by simpa [Sys.callerStep, Sys.release, Caller.holds] using
      (h : s.pair.p.Covers (s.loggedIn .p) (others + 1) k).release⟩
  all_goals first
    | exact absurd hc.1 Bool.false_ne_true
    | exact ⟨k, le_rfl, by simpa [Sys.callerStep, Caller.holds, hm] using h⟩

/-! ### Whole runs -/

/-- The invariant of a plugin with no metro remote: `p` covers its holders with `k` to spare,
and every caller is consistent. -/
structure Sys.Covered (s : Sys) (k : Nat) : Prop where
  unbonded : s.pair.metro = false
  side : s.pair.p.Covers (s.loggedIn .p) (s.holders .p) k
  callers : ∀ c ∈ s.callers, c.Consistent false

/-- Every step keeps the invariant, with a surplus that does not decrease. -/
theorem step_covered {s : Sys} {k : Nat} (hs : s.Covered k) (a : Action) :
    ∃ k' ≥ k, (step s a).Covered k' := by
  cases a with
  | refresh x ok =>
    refine ⟨k, le_rfl, ⟨by simpa [step] using hs.unbonded, ?_, by simpa [step] using hs.callers⟩⟩
    cases x
    · simpa [step, Sys.refresh, Sys.holders] using hs.side.refresh ok
    · simpa [step, Sys.refresh, Sys.holders] using hs.side
  | caller i loginOk =>
    simp only [step]
    split
    · exact ⟨k, le_rfl, hs⟩
    · rename_i c hi
      obtain ⟨hlen, rfl⟩ := List.getElem?_eq_some_iff.mp hi
      have hc := hs.callers _ (List.getElem_mem hlen)
      obtain ⟨hcl, hm⟩ := callerStep_frame s s.callers[i] loginOk
      have hle := List.boole_getElem_le_countP (·.holds .p) s.callers i hlen
      have h := hs.side
      rw [show s.holders .p = s.holders .p - (if s.callers[i].holds .p then 1 else 0) +
        (if s.callers[i].holds .p then 1 else 0) by unfold Sys.holders; omega] at h
      obtain ⟨k', hk, hcov⟩ := callerStep_covers loginOk _ k hs.unbonded hc h
      refine ⟨k', hk, ⟨by rw [hm]; exact hs.unbonded, ?_, fun c' hc' => ?_⟩⟩
      · simpa [Sys.holders, List.countP_set _ _ _ _ hlen] using hcov
      · rcases List.mem_or_eq_of_mem_set hc' with hc' | rfl
        · exact hs.callers c' hc'
        · have hcons : (s.callerStep s.callers[i] loginOk).2.Consistent s.pair.metro :=
            callerStep_consistent (hs.unbonded ▸ hc) (by simp [hs.unbonded])
          simpa [hs.unbonded] using hcons

/-- Every run keeps the invariant, with a surplus that does not decrease. -/
theorem run_covered {s : Sys} {k : Nat} (hs : s.Covered k) (acts : List Action) :
    ∃ k' ≥ k, (run s acts).Covered k' := by
  induction acts generalizing s k with
  | nil => exact ⟨k, le_rfl, hs⟩
  | cons a acts ih =>
    obtain ⟨k₁, hk₁, hs₁⟩ := step_covered hs a
    obtain ⟨k₂, hk₂, hs₂⟩ := ih hs₁
    exact ⟨k₂, le_trans hk₁ hk₂, hs₂⟩

/-- Callers that have not started, on a plugin with no metro remote and no holder. -/
theorem init_covered (w : SanPair) (n : Nat) (hm : w.metro = false) (hp : w.p.clientCount = 0) :
    (Sys.init w n).Covered 0 := by
  refine ⟨hm, ⟨?_, fun _ => rfl⟩, fun c hc => ?_⟩
  · have h0 : (Sys.init w n).holders .p = 0 := by
      simp [Sys.holders, Sys.init, Caller.fresh, Caller.holds]
    rw [h0]
    exact hp
  · obtain rfl := List.eq_of_mem_replicate hc
    simp [Caller.Consistent, Caller.fresh]

/-- **The session of a plugin without a metro remote, over every run.** From callers that have not
started on a plugin with no holder, for any interleaving and whatever `Login` and the capability
queries return: `clientCount` is at least the number of callers holding the client, and the
session is logged in while `clientCount` is not zero, so `Logout` never runs under a holder. The
surplus of `clientCount` over the holders never decreases along a run: a count that a holder's
`releaseClient` skipped after a failed refresh is never released, and the session is never logged
out again. -/
theorem unbonded_session (w : SanPair) (n : Nat) (hm : w.metro = false) (hp : w.p.clientCount = 0)
    (pre post : List Action) :
    ((run (Sys.init w n) pre).holders .p : Int) ≤ (run (Sys.init w n) pre).pair.p.clientCount ∧
      ((run (Sys.init w n) pre).pair.p.clientCount ≠ 0 → (run (Sys.init w n) pre).loggedIn .p = true) ∧
      (run (Sys.init w n) pre).pair.p.clientCount - (run (Sys.init w n) pre).holders .p ≤
        (run (Sys.init w n) (pre ++ post)).pair.p.clientCount -
          (run (Sys.init w n) (pre ++ post)).holders .p := by
  obtain ⟨k, -, hk⟩ := run_covered (init_covered w n hm hp) pre
  obtain ⟨k', hkk, hk'⟩ := run_covered hk post
  rw [show run (Sys.init w n) (pre ++ post) = run (run (Sys.init w n) pre) post from
    List.foldl_append _ _ _ _]
  have e := hk.side.1
  have e' := hk'.side.1
  exact ⟨by omega, hk.side.2, by omega⟩

/-- A plugin with no metro remote, as `Init` left it. -/
def unbonded : SanPair := ⟨.initialized, .initialized, false⟩

/-- Caller 0 gets the client; a capability refresh fails; caller 0's `releaseClient` reads
`storageOnline = false` and releases nothing. -/
def skippedReleaseRun : List Action :=
  [.caller 0 true, .refresh .p false, .caller 0 true, .caller 0 true]

/-- After the skipped release, caller 1 gets and releases the client in full: the count stays at
one with nobody holding the client, and the session stays logged in. -/
theorem unbonded_session_leak :
    let post : List Action := [.caller 1 true, .caller 1 true, .caller 1 true, .caller 1 true]
    (run (Sys.init unbonded 2) skippedReleaseRun).pair.p.clientCount = 1 ∧
      (run (Sys.init unbonded 2) skippedReleaseRun).holders .p = 0 ∧
      1 ≤ (run (Sys.init unbonded 2) (skippedReleaseRun ++ post)).pair.p.clientCount -
        (run (Sys.init unbonded 2) (skippedReleaseRun ++ post)).holders .p := by
  intro post
  have hc : (run (Sys.init unbonded 2) skippedReleaseRun).pair.p.clientCount = 1 := by decide
  have hh : (run (Sys.init unbonded 2) skippedReleaseRun).holders .p = 0 := by decide
  have := (unbonded_session unbonded 2 rfl rfl skippedReleaseRun post).2.2
  rw [hc, hh] at this
  exact ⟨hc, hh, by omega⟩

end CsiPlugin
