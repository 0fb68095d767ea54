import CsiPlugin.Driver.ControllerHelper
set_option warningAsError true

/-!
# CsiPlugin.Driver.NfsProtocol

**What `processNFSProtocol` selects.** The three nested loops (capabilities, mount flags,
comma-separated pieces) only ever act on the pieces that start with `nfsvers=`, the *tokens*.
The proof replaces them by one loop over tokens, `tokenLoop`, in three steps:

* `addNFSProtocolLoop_agrees` — the piece loop skips non-tokens, so it is the token loop over
  the filtered pieces;
* `addMountFlags_agrees` — the mount-flag loop is the token loop over the concatenated tokens
  (`tokenLoop_append`);
* `processNFSProtocol_agrees` — the capability loop is the token loop over the first
  capability's tokens when `nfsProtocol` is already set, and over the tokens of the first
  capability that has any otherwise.

The facts about `tokenLoop` itself are short inductions; the main theorem
`processNFSProtocol_version_selection` reads its cases off them.
-/

namespace CsiPlugin

/-- The tokens of one mount flag: its trimmed comma-separated pieces that start with
`nfsvers=`. -/
def nfsTokens (mountFlag : String) : List String :=
  ((split mountFlag ',').map trimSpace).filter (hasPrefix · "nfsvers=")

/-- The tokens of a capability, over its mount flags in order. -/
def VolumeCapability.nfsTokens (v : VolumeCapability) : List String :=
  v.mountFlags.flatMap CsiPlugin.nfsTokens

/-- The tokens of the first capability that has any (none when no capability has one). -/
def firstTokens : List VolumeCapability → List String
  | [] => []
  | v :: rest => if v.nfsTokens = [] then firstTokens rest else v.nfsTokens

/-- `parameters["nfsProtocol"] != nil`. -/
def hasNfsProtocol (ps : GoMap) : Bool := !(ps.get "nfsProtocol").isNil

/-- The loops of `processNFSProtocol` seen on tokens alone: a token outside `nfsProtocolMap`, or
any token once `nfsProtocol` is set, fails; otherwise the token's protocol is stored. The flag
is `true` when no error occurred. -/
def tokenLoop : List String → GoMap → GoMap × Bool
  | [], ps => (ps, true)
  | t :: rest, ps =>
    match nfsProtocolMap.lookup t with
    | none => (ps, false)
    | some value =>
      if hasNfsProtocol ps then (ps, false)
      else tokenLoop rest (ps.set "nfsProtocol" (.str value))

/-- A loop result agrees with a token-loop result: the same map, and no error exactly when the
token loop succeeds. -/
def Agrees (r : GoMap × Option Err) (s : GoMap × Bool) : Prop := r.1 = s.1 ∧ r.2.isNone = s.2

@[simp] theorem hasNfsProtocol_set (ps : GoMap) (value : String) :
    hasNfsProtocol (ps.set "nfsProtocol" (.str value)) = true := by
  simp [hasNfsProtocol]

/-! ### The token loop -/

theorem tokenLoop_append (l₁ l₂ : List String) (ps : GoMap) :
    tokenLoop (l₁ ++ l₂) ps =
      if (tokenLoop l₁ ps).2 then tokenLoop l₂ (tokenLoop l₁ ps).1 else tokenLoop l₁ ps := by
  induction l₁ generalizing ps with
  | nil => rfl
  | cons t rest ih =>
    simp only [List.cons_append, tokenLoop]
    cases nfsProtocolMap.lookup t with
    | none => rfl
    | some value => dsimp only; split <;> simp [ih]

/-- Once `nfsProtocol` is set, every token fails and nothing is written. -/
theorem tokenLoop_of_has {ps : GoMap} (h : hasNfsProtocol ps = true) (ts : List String) :
    tokenLoop ts ps = (ps, ts.isEmpty) := by
  cases ts with
  | nil => rfl
  | cons t rest =>
    simp only [tokenLoop, h, if_true, List.isEmpty_cons]
    cases nfsProtocolMap.lookup t <;> rfl

/-- The token loop writes no key but `nfsProtocol`. -/
theorem tokenLoop_get_ne (ts : List String) (ps : GoMap) {k : String} (hk : k ≠ "nfsProtocol") :
    (tokenLoop ts ps).1.get k = ps.get k := by
  induction ts generalizing ps with
  | nil => rfl
  | cons t rest ih =>
    simp only [tokenLoop]
    cases nfsProtocolMap.lookup t with
    | none => rfl
    | some value => dsimp only; split <;> simp [ih, hk]

/-- From an unset `nfsProtocol`, the first token decides: an unsupported one fails at once, a
supported one is stored and every later token fails. -/
theorem tokenLoop_of_not_has {ps : GoMap} (h : hasNfsProtocol ps = false) (t : String)
    (rest : List String) :
    tokenLoop (t :: rest) ps =
      match nfsProtocolMap.lookup t with
      | none => (ps, false)
      | some value => (ps.set "nfsProtocol" (.str value), rest.isEmpty) := by
  simp only [tokenLoop, h]
  cases nfsProtocolMap.lookup t with
  | none => rfl
  | some value => exact tokenLoop_of_has (hasNfsProtocol_set ps value) rest

/-- A successful run over at least one token leaves `nfsProtocol` set. -/
theorem tokenLoop_has_of_ok {ts : List String} (hts : ts ≠ []) (ps : GoMap)
    (hok : (tokenLoop ts ps).2 = true) : hasNfsProtocol (tokenLoop ts ps).1 = true := by
  obtain ⟨t, rest, rfl⟩ := List.exists_cons_of_ne_nil hts
  cases h : hasNfsProtocol ps
  · rw [tokenLoop_of_not_has h] at hok ⊢
    cases hv : nfsProtocolMap.lookup t with
    | none => simp [hv] at hok
    | some value => simp
  · rw [tokenLoop_of_has h] at hok ⊢
    exact h

/-! ### The three loops agree with the token loop -/

theorem addNFSProtocolLoop_agrees (mountFlag : String) (pieces : List String) (ps : GoMap) :
    Agrees (addNFSProtocolLoop mountFlag pieces ps)
      (tokenLoop (pieces.filter (hasPrefix · "nfsvers=")) ps) := by
  induction pieces generalizing ps with
  | nil => exact ⟨rfl, rfl⟩
  | cons p rest ih =>
    by_cases hp : hasPrefix p "nfsvers=" = true
    · simp only [List.filter_cons, hp, if_true, addNFSProtocolLoop, tokenLoop, hasNfsProtocol]
      cases nfsProtocolMap.lookup p with
      | none => exact ⟨rfl, rfl⟩
      | some value =>
        dsimp only
        by_cases hn : (!(ps.get "nfsProtocol").isNil) = true
        · simp only [hn, if_true]; exact ⟨rfl, rfl⟩
        · simp only [hn, if_false]; exact ih _
    · simpa only [List.filter_cons, hp, addNFSProtocolLoop] using ih ps

theorem addNFSProtocol_agrees (mountFlag : String) (ps : GoMap) :
    Agrees (addNFSProtocol mountFlag ps) (tokenLoop (nfsTokens mountFlag) ps) :=
  addNFSProtocolLoop_agrees mountFlag _ ps

theorem addMountFlags_agrees (flags : List String) (ps : GoMap) :
    Agrees (addMountFlags flags ps) (tokenLoop (flags.flatMap nfsTokens) ps) := by
  induction flags generalizing ps with
  | nil => exact ⟨rfl, rfl⟩
  | cons f rest ih =>
    obtain ⟨h1, h2⟩ := addNFSProtocol_agrees f ps
    rw [List.flatMap_cons, tokenLoop_append, ← h2]
    simp only [addMountFlags]
    rcases hr : addNFSProtocol f ps with ⟨ps', _ | err⟩
    · rw [hr] at h1
      simpa [← h1] using ih ps'
    · simp only [hr, Option.isNone_some, Bool.false_eq_true, if_false]
      exact ⟨by rw [← h1, hr], by simp [← h2, hr]⟩

/-- The tokens the capability loop acts on: the first capability's when `nfsProtocol` is
already set, else those of the first capability that has any. -/
def selectedTokens (caps : List VolumeCapability) (ps : GoMap) : List String :=
  if hasNfsProtocol ps then (caps.head?.map VolumeCapability.nfsTokens).getD []
  else firstTokens caps

/-- One round of the capability loop: it stops after `v` once `v`'s flags fail or leave
`nfsProtocol` set, and moves on to the next capability otherwise. -/
theorem processNFSProtocol_cons (v : VolumeCapability) (rest : List VolumeCapability)
    (ps : GoMap) :
    processNFSProtocol (v :: rest) ps =
      if (addMountFlags v.mountFlags ps).2.isSome || hasNfsProtocol (addMountFlags v.mountFlags ps).1
      then addMountFlags v.mountFlags ps
      else processNFSProtocol rest (addMountFlags v.mountFlags ps).1 := by
  simp only [processNFSProtocol]
  rcases addMountFlags v.mountFlags ps with ⟨ps', _ | err⟩ <;> simp [hasNfsProtocol]

theorem processNFSProtocol_agrees (caps : List VolumeCapability) (ps : GoMap) :
    Agrees (processNFSProtocol caps ps) (tokenLoop (selectedTokens caps ps) ps) := by
  induction caps generalizing ps with
  | nil => simp only [selectedTokens, firstTokens]; split <;> exact ⟨rfl, rfl⟩
  | cons v rest ih =>
    have hm : Agrees (addMountFlags v.mountFlags ps) (tokenLoop v.nfsTokens ps) :=
      addMountFlags_agrees _ ps
    by_cases hgo : hasNfsProtocol ps = false ∧ v.nfsTokens = []
    · -- no token and nothing set: the loop moves on with `ps` unchanged
      obtain ⟨hh, hv⟩ := hgo
      rw [hv] at hm
      have hr : addMountFlags v.mountFlags ps = (ps, none) :=
        Prod.ext hm.1 (Option.isNone_iff_eq_none.mp hm.2)
      rw [processNFSProtocol_cons, hr]
      simpa [selectedTokens, firstTokens, hh, hv] using ih ps
    · -- the loop stops after `v`, having acted on `v`'s tokens
      have hsel : selectedTokens (v :: rest) ps = v.nfsTokens := by
        by_cases hh : hasNfsProtocol ps = true <;> simp_all [selectedTokens, firstTokens]
      have hstop : (addMountFlags v.mountFlags ps).2.isSome ∨
          hasNfsProtocol (addMountFlags v.mountFlags ps).1 := by
        rw [or_iff_not_imp_left, hm.1]
        intro he
        cases hh : hasNfsProtocol ps
        · exact tokenLoop_has_of_ok (fun hv => hgo ⟨hh, hv⟩) ps (by simpa [← hm.2] using he)
        · rw [tokenLoop_of_has hh]; exact hh
      rw [hsel, processNFSProtocol_cons, if_pos (by simpa using hstop)]
      exact hm

/-! ### The selection -/

theorem firstTokens_eq_nil_iff (caps : List VolumeCapability) :
    firstTokens caps = [] ↔ ∀ v ∈ caps, v.nfsTokens = [] := by
  induction caps with
  | nil => simp [firstTokens]
  | cons v rest ih => by_cases hv : v.nfsTokens = [] <;> simp [firstTokens, hv, ih]

/-- From an unset `nfsProtocol`, the token loop succeeds on no token or on one supported
token. -/
theorem tokenLoop_ok_iff {ps : GoMap} (h : hasNfsProtocol ps = false) (ts : List String) :
    (tokenLoop ts ps).2 = true ↔ ts = [] ∨ ∃ t, ts = [t] ∧ (nfsProtocolMap.lookup t).isSome := by
  cases ts with
  | nil => simp [tokenLoop]
  | cons t rest =>
    have hsingle : (∃ t', t :: rest = [t'] ∧ (nfsProtocolMap.lookup t').isSome) ↔
        rest = [] ∧ (nfsProtocolMap.lookup t).isSome := by
      constructor
      · rintro ⟨t', h', hs⟩
        simp only [List.cons.injEq] at h'
        obtain ⟨rfl, rfl⟩ := h'
        exact ⟨rfl, hs⟩
      · rintro ⟨rfl, hs⟩
        exact ⟨t, rfl, hs⟩
    rw [tokenLoop_of_not_has h, hsingle]
    cases nfsProtocolMap.lookup t <;> simp [List.isEmpty_iff]

/-- Once the capabilities up to `v` leave `nfsProtocol` set, those after `v` are never read. -/
theorem processNFSProtocol_append_of_has (pre post : List VolumeCapability) (v : VolumeCapability)
    (ps : GoMap) (h : hasNfsProtocol (processNFSProtocol (pre ++ [v]) ps).1 = true) :
    processNFSProtocol (pre ++ v :: post) ps = processNFSProtocol (pre ++ [v]) ps := by
  induction pre generalizing ps with
  | nil =>
    simp only [List.nil_append, processNFSProtocol_cons] at h ⊢
    split
    · rfl
    · rename_i hc
      have hset : hasNfsProtocol (addMountFlags v.mountFlags ps).1 = true := by
        simpa [hc, processNFSProtocol] using h
      simp [hset] at hc
  | cons x pre ih =>
    simp only [List.cons_append, processNFSProtocol_cons] at h ⊢
    split
    · rfl
    · rename_i hc
      rw [if_neg hc] at h
      exact ih _ h

/-- **NFS version selection.** With `nfsProtocol` unset, `processNFSProtocol` succeeds exactly
when no capability has a `nfsvers=` token or the first capability that has one has exactly
one, which `nfsProtocolMap` knows, and then stores that token's protocol. With `nfsProtocol`
already set, it succeeds exactly when the first capability has no token, and keeps the entry.
It writes no other key, and once `nfsProtocol` is set after a capability, the capabilities
after it are never read. -/
theorem processNFSProtocol_version_selection (caps : List VolumeCapability) (ps : GoMap) :
    ((ps.get "nfsProtocol").isNil = true →
      ((processNFSProtocol caps ps).2 = none ↔ (∀ v ∈ caps, v.nfsTokens = []) ∨
          ∃ t, firstTokens caps = [t] ∧ (nfsProtocolMap.lookup t).isSome) ∧
        ∀ t value, firstTokens caps = [t] → nfsProtocolMap.lookup t = some value →
          (processNFSProtocol caps ps).1.get "nfsProtocol" = .str value) ∧
    ((ps.get "nfsProtocol").isNil = false →
      ((processNFSProtocol caps ps).2 = none ↔ ∀ v ∈ caps.head?, v.nfsTokens = []) ∧
        (processNFSProtocol caps ps).1.get "nfsProtocol" = ps.get "nfsProtocol") ∧
    (∀ k, k ≠ "nfsProtocol" → (processNFSProtocol caps ps).1.get k = ps.get k) ∧
    (∀ pre v post, ((processNFSProtocol (pre ++ [v]) ps).1.get "nfsProtocol").isNil = false →
      processNFSProtocol (pre ++ v :: post) ps = processNFSProtocol (pre ++ [v]) ps) := by
  obtain ⟨h1, h2⟩ := processNFSProtocol_agrees caps ps
  have hnone : (processNFSProtocol caps ps).2 = none ↔
      (tokenLoop (selectedTokens caps ps) ps).2 = true := by
    rw [← h2, Option.isNone_iff_eq_none]
  refine ⟨fun hn => ?_, fun hn => ?_, fun k hk => ?_, fun pre v post h => ?_⟩
  · have hh : hasNfsProtocol ps = false := by simp [hasNfsProtocol, hn]
    simp only [selectedTokens, hh, Bool.false_eq_true, if_false] at h1 hnone
    refine ⟨by rw [hnone, tokenLoop_ok_iff hh, firstTokens_eq_nil_iff], fun t value ht hv => ?_⟩
    rw [h1, ht, tokenLoop_of_not_has hh, hv]
    simp
  · have hh : hasNfsProtocol ps = true := by simp [hasNfsProtocol, hn]
    simp only [selectedTokens, hh, if_true, tokenLoop_of_has hh] at h1 hnone
    refine ⟨by rw [hnone]; cases caps <;> simp [List.isEmpty_iff], by rw [h1]⟩
  · rw [h1, tokenLoop_get_ne _ _ hk]
  · exact processNFSProtocol_append_of_has pre post v ps (by simp [hasNfsProtocol, h])

end CsiPlugin
