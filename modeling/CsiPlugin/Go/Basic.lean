import Mathlib.Data.List.Basic
import Mathlib.Tactic.Common
set_option warningAsError true

/-!
# CsiPlugin.Go.Basic

**The Go values the plugin layer passes around.** Backend configurations, storage-class
parameters and LUN descriptors all arrive as `map[string]interface{}`, and the code reads them
through type assertions (`v.(string)`, `v.([]interface{})`, `v.(map[string]interface{})`).
This module fixes one model of those values:

* `Value` — a dynamic `interface{}` value: `nil`, a string, a `[]interface{}`, a
  `map[string]interface{}`, a `bool`, the two typed values the controller stores (an `int64`
  and a `backend.AccessibleTopology`), or a value of any other dynamic type (other numbers,
  typed maps); no assertion in the modelled code accepts the last three;
* `GoMap` — a `map[string]interface{}` as an association list read with first-occurrence
  lookup, where a missing key reads as `nil` (Go's zero value), so `m[k] != nil` is
  `!(m.get k).isNil`;
* the comma-ok type assertions `Value.asString`, `Value.asList`, `Value.asMap`, and the
  comparisons `v == "lit"` and `v == false` of an interface value with a constant
  (`Value.isStr`, `Value.isBool`);
* `strings.Split`, `strings.TrimSpace` (over `unicode.IsSpace`), `strings.HasPrefix` and
  `strings.Contains`;
* `strconv.ParseInt(s, 10, 64)` (`parseInt64`), with the digit loop of `strconv.ParseUint`.

A Go `error` is modelled by its `Error()` text (`Err`); `nil` errors are `none`.
-/

namespace CsiPlugin

/-- A Go `error`, by the text `Error()` returns. -/
abbrev Err := String

/-- A dynamic Go value, as stored in an `interface{}`. -/
inductive Value where
  /-- The `nil` interface (also what a missing map key reads as). -/
  | nil
  /-- A `string`. -/
  | str (s : String)
  /-- A `[]interface{}`. -/
  | list (vs : List Value)
  /-- A `map[string]interface{}`, entries in iteration order. -/
  | obj (entries : List (String × Value))
  /-- A `bool` (a capability flag). -/
  | bool (b : Bool)
  /-- An `int64` (the capacity the controller stores under `size`, the sizes a plugin reports). -/
  | int (n : Int)
  /-- A `backend.AccessibleTopology`: its requisite and preferred segment maps. -/
  | topology (requisite preferred : List (List (String × String)))
  /-- A value of any other dynamic type (a boolean, another number type, a typed map, ...). -/
  | other
  deriving Repr, Inhabited

/-- A `map[string]interface{}`: an association list, read by first occurrence. -/
abbrev GoMap := List (String × Value)

namespace GoMap

/-- `m[k]`: the first entry for `k`, or `nil` when there is none. -/
def get (m : GoMap) (k : String) : Value := (m.lookup k).getD .nil

/-- `m[k] = v`: the new entry shadows every older one for `k`. -/
def set (m : GoMap) (k : String) (v : Value) : GoMap := (k, v) :: m

@[simp] theorem get_nil (k : String) : get [] k = .nil := rfl

@[simp] theorem get_set_self (m : GoMap) (k : String) (v : Value) : (m.set k v).get k = v := by
  simp [get, set]

@[simp] theorem get_set_ne (m : GoMap) {k k' : String} (v : Value) (h : k' ≠ k) :
    (m.set k v).get k' = m.get k' := by
  simp [get, set, List.lookup_cons, beq_false_of_ne h]

/-- The entries `for k, v := range m` visits: the first entry for each key, in list order. The
entries it shadows are not part of the Go map. -/
def entries : GoMap → List (String × Value)
  | [] => []
  | (k, v) :: rest => (k, v) :: (entries rest).filter (·.1 != k)

theorem lookup_filter_ne {k k' : String} (h : k ≠ k') :
    ∀ l : List (String × Value), (l.filter (·.1 != k')).lookup k = l.lookup k
  | [] => rfl
  | (j, v) :: l => by
    by_cases hj : j = k'
    · subst hj
      simp [List.filter_cons, List.lookup_cons, beq_false_of_ne h, lookup_filter_ne h l]
    · by_cases hk : k = j <;>
        simp [List.filter_cons, List.lookup_cons, hj, hk, lookup_filter_ne h l]

/-- The visited entries are the map: every key reads the same. -/
theorem lookup_entries (k : String) : ∀ m : GoMap, m.entries.lookup k = m.lookup k
  | [] => rfl
  | (j, v) :: m => by
    by_cases hk : k = j
    · simp [entries, List.lookup_cons, hk]
    · simp [entries, List.lookup_cons, beq_false_of_ne hk, lookup_filter_ne hk, lookup_entries k m]

/-- A value the map holds is among the visited entries. -/
theorem mem_entries_of_get {m : GoMap} {k s : String} (h : m.get k = .str s) : (k, .str s) ∈ m.entries := by
  have hl : m.entries.lookup k = some (.str s) := by
    rw [lookup_entries]
    unfold get at h
    cases hm : m.lookup k <;> simp_all
  obtain ⟨l₁, l₂, he, -⟩ := List.lookup_eq_some_iff.mp hl
  rw [he]
  simp

/-- The loop visits each key once. -/
theorem entries_nodup : ∀ m : GoMap, (m.entries.map Prod.fst).Nodup
  | [] => List.nodup_nil
  | (k, v) :: m => by
    refine List.nodup_cons.mpr ⟨?_, ((List.filter_sublist _).map Prod.fst).nodup (entries_nodup m)⟩
    simp

end GoMap

namespace Value

/-- `v.(string)` with comma-ok. -/
def asString : Value → Option String
  | str s => some s
  | _ => none

/-- `v.([]interface{})` with comma-ok. -/
def asList : Value → Option (List Value)
  | list vs => some vs
  | _ => none

/-- `v.(map[string]interface{})` with comma-ok. -/
def asMap : Value → Option GoMap
  | obj m => some m
  | _ => none

/-- `v == nil` for an interface value. -/
def isNil : Value → Bool
  | nil => true
  | _ => false

/-- `v == "lit"`: an interface value equals a string constant only when it holds that string. -/
def isStr (lit : String) : Value → Bool
  | str s => s == lit
  | _ => false

/-- `v == b` for a boolean constant: only a `bool` holding `b` equals it. -/
def isBool (b : Bool) : Value → Bool
  | bool b' => b' == b
  | _ => false

@[simp] theorem asString_str (s : String) : (str s).asString = some s := rfl
@[simp] theorem asMap_obj (m : GoMap) : (obj m).asMap = some m := rfl
@[simp] theorem asList_list (vs : List Value) : (list vs).asList = some vs := rfl
@[simp] theorem isNil_str (s : String) : (str s).isNil = false := rfl
@[simp] theorem isStr_str (lit s : String) : (str s).isStr lit = (s == lit) := rfl
@[simp] theorem isBool_bool (b b' : Bool) : (bool b').isBool b = (b' == b) := rfl

theorem isStr_iff {v : Value} {lit : String} : v.isStr lit = true ↔ v = str lit := by
  cases v <;> simp [isStr]

theorem asString_eq_some {v : Value} {s : String} : v.asString = some s ↔ v = str s := by
  cases v <;> simp [asString]

theorem asList_eq_some {v : Value} {vs : List Value} : v.asList = some vs ↔ v = list vs := by
  cases v <;> simp [asList]

theorem asMap_eq_some {v : Value} {m : GoMap} : v.asMap = some m ↔ v = obj m := by
  cases v <;> simp [asMap]

end Value

/-! ### `strings`

Over the characters of a string, by structural recursion, so that `decide` evaluates them on
literals. -/

/-- `unicode.IsSpace`: `'\t'`, `'\n'`, `'\v'`, `'\f'`, `'\r'`, `' '`, U+0085 and U+00A0 in
Latin-1, and above it the other characters with the Unicode `White_Space` property. -/
def isSpace (c : Char) : Bool :=
  let n := c.toNat
  (0x09 ≤ n && n ≤ 0x0D) || n == 0x20 || n == 0x85 || n == 0xA0 || n == 0x1680 ||
  (0x2000 ≤ n && n ≤ 0x200A) || n == 0x2028 || n == 0x2029 || n == 0x202F || n == 0x205F ||
  n == 0x3000

/-- `strings.TrimSpace`: drop leading and trailing `unicode.IsSpace` characters. -/
def trimSpace (s : String) : String :=
  String.mk ((s.toList.dropWhile isSpace).reverse.dropWhile isSpace).reverse

/-- The pieces of a character list between the occurrences of `sep`. -/
def splitChars (sep : Char) : List Char → List (List Char)
  | [] => [[]]
  | c :: cs =>
    let rest := splitChars sep cs
    if c = sep then [] :: rest else (c :: rest.headD []) :: rest.tail

/-- `strings.Split(s, sep)` for a one-character separator: `Split("", ",")` is `[""]`. -/
def split (s : String) (sep : Char) : List String := (splitChars sep s.toList).map String.mk

/-- `strings.HasPrefix(s, prefix)`. -/
def hasPrefix (s pre : String) : Bool := pre.toList.isPrefixOf s.toList

/-- Whether `sub` occurs in a character list at some position. -/
def containsChars (sub : List Char) : List Char → Bool
  | [] => sub.isEmpty
  | c :: cs => sub.isPrefixOf (c :: cs) || containsChars sub cs

/-- `strings.Contains(s, substr)`. -/
def contains (s substr : String) : Bool := containsChars substr.toList s.toList

/-- A concatenation is empty only when both parts are: an error text built around a non-empty
literal is never the empty string. -/
@[simp] theorem str_append_eq_empty {s t : String} : s ++ t = "" ↔ s = "" ∧ t = "" := by
  constructor
  · intro h
    have hd : s.data ++ t.data = [] := congrArg String.data h
    exact ⟨String.ext (List.append_eq_nil.mp hd).1, String.ext (List.append_eq_nil.mp hd).2⟩
  · rintro ⟨rfl, rfl⟩
    rfl

/-! ### `strconv`

`strconv.ParseInt(s, 10, 64)` picks off one sign and hands the rest to `ParseUint`, whose loop
reads the bytes one at a time: a byte that is no decimal digit is a syntax error; a digit that
would take the value past `maxUint64` is a range error at once, before the later bytes are read.
A range error of `ParseUint`, or a value past the `int64` bounds, gives the nearest bound. -/

/-- The errors of `strconv.ParseInt`: `invalid` is `ErrSyntax`, `outOfRange` is `ErrRange`. -/
inductive NumError where
  | invalid
  | outOfRange
  deriving Repr, DecidableEq

/-- The loop of `strconv.ParseUint(s, 10, 64)` from the value `n` read so far: `n >= cutoff`
(`maxUint64 / 10 + 1`) before the multiplication and `n1 > maxVal` after the addition are the
range errors, which return `maxUint64`. -/
def parseUintLoop : List Char → Nat → Nat × Option NumError
  | [], n => (n, none)
  | c :: cs, n =>
    if !c.isDigit then (0, some .invalid)
    else if 1844674407370955162 ≤ n then (18446744073709551615, some .outOfRange)
    else
      let n1 := n * 10 + (c.toNat - '0'.toNat)
      if 18446744073709551615 < n1 then (18446744073709551615, some .outOfRange) else parseUintLoop cs n1

/-- `strconv.ParseUint(s, 10, 64)`: the empty string is a syntax error. -/
def parseUint64 (s : List Char) : Nat × Option NumError :=
  if s.isEmpty then (0, some .invalid) else parseUintLoop s 0

/-- The sign `ParseInt` picks off: one leading `+` or `-`. -/
def signSplit : List Char → Bool × List Char
  | '+' :: cs => (false, cs)
  | '-' :: cs => (true, cs)
  | cs => (false, cs)

/-- `strconv.ParseInt(s, 10, 64)`. Its own check of the empty string gives what `ParseUint`'s
does. -/
def parseInt64 (s : String) : Int × Option NumError :=
  let (neg, body) := signSplit s.toList
  match parseUint64 body with
  | (_, some .invalid) => (0, some .invalid)
  | (un, _) =>
    if !neg && 9223372036854775808 ≤ un then (9223372036854775807, some .outOfRange)
    else if neg && 9223372036854775808 < un then (-9223372036854775808, some .outOfRange)
    else (if neg then -(un : Int) else un, none)

example : parseInt64 "1700000000" = (1700000000, none) ∧
    parseInt64 "99999999999999999999x" = (9223372036854775807, some .outOfRange) ∧
    parseInt64 "-99999999999999999999x" = (-9223372036854775808, some .outOfRange) ∧
    parseInt64 "17x" = (0, some .invalid) ∧ parseInt64 "+" = (0, some .invalid) := by
  decide

/-- The value of the digits `ds` read on from `n`. -/
def digitsFrom (n : Nat) (ds : List Char) : Nat :=
  ds.foldl (fun m c => m * 10 + (c.toNat - '0'.toNat)) n

theorem le_digitsFrom : ∀ (ds : List Char) (n : Nat), n ≤ digitsFrom n ds
  | [], n => Nat.le_refl n
  | c :: ds, n => Nat.le_trans (by omega) (le_digitsFrom ds (n * 10 + (c.toNat - '0'.toNat)))

/-- On digits whose value fits in a `uint64`, the loop reads them all and returns the value. -/
theorem parseUintLoop_digits : ∀ (ds : List Char) (n : Nat), (∀ c ∈ ds, c.isDigit = true) →
    digitsFrom n ds ≤ 18446744073709551615 → parseUintLoop ds n = (digitsFrom n ds, none)
  | [], _, _, _ => rfl
  | c :: ds, n, hd, hv => by
    have hn1 : n * 10 + (c.toNat - '0'.toNat) ≤ 18446744073709551615 :=
      Nat.le_trans (le_digitsFrom ds _) hv
    have hc : c.isDigit = true := hd c (List.mem_cons_self c ds)
    rw [parseUintLoop, if_neg (by simp [hc]), if_neg (by omega), if_neg (by omega)]
    exact parseUintLoop_digits ds _ (fun c' h => hd c' (List.mem_cons_of_mem c h)) hv

theorem digitChar_digit : ∀ d < 10, (Nat.digitChar d).isDigit = true ∧
    (Nat.digitChar d).toNat - '0'.toNat = d := by
  decide

/-- One step of `Nat.toDigitsCore` in base 10: the last digit goes in front of the accumulator. -/
theorem toDigitsCore_succ (f n : Nat) (acc : List Char) :
    Nat.toDigitsCore 10 (f + 1) n acc = if n / 10 = 0 then Nat.digitChar (n % 10) :: acc
      else Nat.toDigitsCore 10 f (n / 10) (Nat.digitChar (n % 10) :: acc) := rfl

/-- `Nat.toDigitsCore`, which prints a number, writes digits whose value is the number. -/
theorem toDigitsCore_digits : ∀ (f n : Nat) (acc : List Char), n < f →
    (∀ c ∈ Nat.toDigitsCore 10 f n acc, c.isDigit = true ∨ c ∈ acc) ∧
      digitsFrom 0 (Nat.toDigitsCore 10 f n acc) = digitsFrom n acc ∧ Nat.toDigitsCore 10 f n acc ≠ []
  | 0, _, _, h => absurd h (Nat.not_lt_zero _)
  | f + 1, n, acc, h => by
    have hd := digitChar_digit (n % 10) (Nat.mod_lt _ (by omega))
    have hlast : digitsFrom 0 (Nat.digitChar (n % 10) :: acc) = digitsFrom (n % 10) acc := by
      simp only [digitsFrom, List.foldl_cons, hd.2, Nat.zero_mul, Nat.zero_add]
    have hcons : ∀ c ∈ Nat.digitChar (n % 10) :: acc, c.isDigit = true ∨ c ∈ acc :=
      fun c hc => (List.mem_cons.mp hc).imp (fun h : c = _ => h ▸ hd.1) id
    rw [toDigitsCore_succ]
    split_ifs with h0
    · exact ⟨hcons, by rw [hlast, Nat.mod_eq_of_lt (by omega)], List.cons_ne_nil _ _⟩
    · obtain ⟨hall, hval, hne⟩ := toDigitsCore_digits f (n / 10) (Nat.digitChar (n % 10) :: acc) (by omega)
      refine ⟨fun c hc => (hall c hc).elim .inl (hcons c), ?_, hne⟩
      · rw [hval]
        simp only [digitsFrom, List.foldl_cons, hd.2]
        congr 1
        omega

theorem toDigits_digits (m : Nat) : (∀ c ∈ Nat.toDigits 10 m, c.isDigit = true) ∧
    digitsFrom 0 (Nat.toDigits 10 m) = m ∧ Nat.toDigits 10 m ≠ [] := by
  obtain ⟨hall, hval, hne⟩ := toDigitsCore_digits (m + 1) m [] (by omega)
  exact ⟨fun c hc => (hall c hc).resolve_right (List.not_mem_nil c), hval, hne⟩

theorem parseUint64_toDigits (m : Nat) (h : m ≤ 18446744073709551615) :
    parseUint64 (Nat.toDigits 10 m) = (m, none) := by
  obtain ⟨hall, hval, hne⟩ := toDigits_digits m
  rw [parseUint64, if_neg (by simpa using hne), parseUintLoop_digits _ _ hall (by rw [hval]; exact h), hval]

/-- A printed number has no sign to pick off. -/
theorem signSplit_toDigits (m : Nat) : signSplit (Nat.toDigits 10 m) = (false, Nat.toDigits 10 m) := by
  obtain ⟨hall, -, hne⟩ := toDigits_digits m
  obtain ⟨c, cs, hcs⟩ := List.exists_cons_of_ne_nil hne
  have hc := hall c (hcs ▸ List.mem_cons_self c cs)
  rw [hcs]
  unfold signSplit
  split <;> first | rfl | (rename_i h; cases h; simp at hc)

/-- **`ParseInt` reads back what `toString` prints.** The decimal text of every `int64` parses to
that number, with no error. -/
theorem parseInt64_toString (n : Int) (h₁ : -9223372036854775808 ≤ n) (h₂ : n ≤ 9223372036854775807) :
    parseInt64 (toString n) = (n, none) := by
  cases n with
  | ofNat m =>
    have hs : (toString (Int.ofNat m)).toList = Nat.toDigits 10 m := rfl
    have hm : m < 9223372036854775808 := by rw [Int.ofNat_eq_coe] at h₂; omega
    simp only [parseInt64, hs, signSplit_toDigits, parseUint64_toDigits m (by omega)]
    simp [Nat.not_le.mpr hm]
  | negSucc k =>
    have hs : (toString (Int.negSucc k)).toList = '-' :: Nat.toDigits 10 (k + 1) := rfl
    have hk : k + 1 ≤ 9223372036854775808 := by rw [Int.negSucc_eq] at h₁; omega
    simp only [parseInt64, hs, signSplit, parseUint64_toDigits (k + 1) (by omega)]
    simp [Nat.not_lt.mpr hk, Int.negSucc_eq]

end CsiPlugin
