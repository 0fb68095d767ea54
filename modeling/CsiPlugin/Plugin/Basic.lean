import CsiPlugin.Go.Basic
set_option warningAsError true

/-!
# CsiPlugin.Plugin.Basic

**The backend plugins' state.** One record per plugin type, holding the fields the modelled
functions read or write:

* `OceanstorSanPlugin` — the array parameters `Init` fills in (`product` comes from the embedded
  `OceanstorPlugin`'s login), and the session pair `storageOnline` / `clientCount` that
  `mutexGetClient`, `mutexReleaseClient` and `UpdateBackendCapabilities` update;
* `FusionStorageSanPlugin` and `OceanstorDTreePlugin` — the fields their `Init` fills in.

A plugin and its `metroRemotePlugin` form a `SanPair`, indexed by `Side` (`p` or `r`): the
spec's design notes describe the back-reference as a lookup key into a table of backends, and
the pair is that table for one bonding. `clientCount` is a Go `int`; it is modelled as an `Int`,
since no run of interest comes near the 64-bit bound.
-/

namespace CsiPlugin

/-- The fields of an `OceanstorSanPlugin` that the modelled code uses. -/
structure OceanstorSanPlugin where
  /-- `p.product`, the array model the embedded plugin's `init` reads at login. -/
  product : String
  protocol : String
  portals : List String
  alua : GoMap
  storageOnline : Bool
  clientCount : Int
  deriving Repr

/-- `(*OceanstorSanPlugin).NewPlugin`: the zero value `&OceanstorSanPlugin{}`. -/
def OceanstorSanPlugin.NewPlugin : OceanstorSanPlugin := ⟨"", "", [], [], false, 0⟩

/-- The fields of a `FusionStorageSanPlugin` that its `Init` fills in. -/
structure FusionStorageSanPlugin where
  hosts : List (String × String)
  protocol : String
  portals : List String
  alua : GoMap
  deriving Repr

/-- `(*FusionStorageSanPlugin).NewPlugin`: an empty `hosts` map, the rest zero. -/
def FusionStorageSanPlugin.NewPlugin : FusionStorageSanPlugin := ⟨[], "", [], []⟩

/-- The fields of an `OceanstorDTreePlugin` that its `Init` fills in. -/
structure OceanstorDTreePlugin where
  portal : String
  parentName : String
  deriving Repr

/-- `(*OceanstorDTreePlugin).NewPlugin`. -/
def OceanstorDTreePlugin.NewPlugin : OceanstorDTreePlugin := ⟨"", ""⟩

/-- `DTreeStorage`, the storage type of the dtree plugin's backends. -/
def DTreeStorage : String := "oceanstor-dtree"

/-! ### A plugin and its metro remote -/

/-- Which plugin of a bonded pair: `p` itself or its `metroRemotePlugin` `r`. -/
inductive Side where
  | p
  | r
  deriving Repr, DecidableEq

/-- An `OceanstorSanPlugin` `p` and its `metroRemotePlugin` `r`; `metro` is
`p.metroRemotePlugin != nil` (when it is false, `r` is never read). -/
structure SanPair where
  p : OceanstorSanPlugin
  r : OceanstorSanPlugin
  metro : Bool
  deriving Repr

namespace SanPair

/-- The plugin on one side. -/
def get (w : SanPair) : Side → OceanstorSanPlugin
  | .p => w.p
  | .r => w.r

/-- Replace the plugin on one side. -/
def set (w : SanPair) : Side → OceanstorSanPlugin → SanPair
  | .p, x => { w with p := x }
  | .r, x => { w with r := x }

@[simp] theorem get_p (w : SanPair) : w.get .p = w.p := rfl
@[simp] theorem get_r (w : SanPair) : w.get .r = w.r := rfl
@[simp] theorem get_set_self (w : SanPair) (s : Side) (x : OceanstorSanPlugin) :
    (w.set s x).get s = x := by cases s <;> rfl
@[simp] theorem get_set_ne (w : SanPair) {s s' : Side} (x : OceanstorSanPlugin) (h : s' ≠ s) :
    (w.set s x).get s' = w.get s' := by cases s <;> cases s' <;> simp_all [set, get]
@[simp] theorem metro_set (w : SanPair) (s : Side) (x : OceanstorSanPlugin) :
    (w.set s x).metro = w.metro := by cases s <;> rfl
@[simp] theorem set_p_p (w : SanPair) (x : OceanstorSanPlugin) : (w.set .p x).p = x := rfl
@[simp] theorem set_p_r (w : SanPair) (x : OceanstorSanPlugin) : (w.set .p x).r = w.r := rfl
@[simp] theorem set_r_p (w : SanPair) (x : OceanstorSanPlugin) : (w.set .r x).p = w.p := rfl
@[simp] theorem set_r_r (w : SanPair) (x : OceanstorSanPlugin) : (w.set .r x).r = x := rfl

end SanPair

end CsiPlugin
