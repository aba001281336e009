/-
Counting in an object literal: `counts[key] = (counts[key] ?? 0) + 1`. A key that the object has not got is looked up in
its prototype, so that the first increment of `toString` appends a digit to the text of a function, and one of
`__proto__` assigns a text to the prototype, which is ignored. For every other key the object counts.

Results:
- `tally_get`: an ordinary key is counted.
- `tally_get_inherited`: an inherited one never is.
- `sumWhere_tally`: where no chosen key is inherited, the chosen entries add up to the chosen increments.
-/
import SeeMirai.Lib.InsertionMap
import Mathlib.Data.List.Count
import Mathlib.Algebra.BigOperators.Group.List.Basic
import Mathlib.Tactic.Ring

namespace SeeMirai

/-! ## The object -/

/-- a number, or the text that adding one to a function makes -/
inductive CountValue where
  | number (n : ℕ)
  | text (value : String)
deriving DecidableEq, Repr

/-- a text adds nothing to a sum of counts -/
def CountValue.amount : CountValue → ℕ
  | .number n => n
  | .text _ => 0

/-- the own properties of the object -/
abbrev ObjectCounts := InsertionMap String CountValue

namespace ObjectCounts

/-- the methods of `Object.prototype` -/
def inheritedMethods : List String :=
  ["__defineGetter__", "__defineSetter__", "hasOwnProperty", "__lookupGetter__", "__lookupSetter__", "isPrototypeOf",
    "propertyIsEnumerable", "toString", "valueOf", "toLocaleString"]

/-- the keys that an object literal answers without having them -/
def inheritedKeys : List String := "__proto__" :: "constructor" :: inheritedMethods

/-- the text of the function under an inherited key -/
def functionText (key : String) : String :=
  "function " ++ (if key = "constructor" then "Object" else key) ++ "() \x7b [native code] \x7d"

def increment (counts : ObjectCounts) (key : String) : ObjectCounts :=
  match counts.get key with
  | some (.number n) => counts.set key (.number (n + 1))
  | some (.text value) => counts.set key (.text (value ++ "1"))
  | none =>
    if key = "__proto__" then counts
    else if key ∈ inheritedKeys then counts.set key (.text (functionText key ++ "1"))
    else counts.set key (.number 1)

/-- the increments of a run, in order -/
def tally (keys : List String) : ObjectCounts := keys.foldl increment InsertionMap.empty

/-- the sum of the counts under the chosen keys -/
def sumWhere (chosen : String → Bool) (counts : ObjectCounts) : ℕ :=
  (counts.entries.map (fun entry => if chosen entry.1 then entry.2.amount else 0)).sum

/-! ## What is counted -/

theorem tally_append (keys more : List String) : tally (keys ++ more) = more.foldl increment (tally keys) :=
  List.foldl_append

theorem increment_get_ne (counts : ObjectCounts) {key k : String} (h : key ≠ k) :
    (increment counts key).get k = counts.get k := by
  unfold increment
  split
  · exact InsertionMap.get_set_ne _ _ h
  · exact InsertionMap.get_set_ne _ _ h
  · split_ifs
    · rfl
    · exact InsertionMap.get_set_ne _ _ h
    · exact InsertionMap.get_set_ne _ _ h

theorem tally_get {k : String} (hk : k ∉ inheritedKeys) (keys : List String) :
    (tally keys).get k = if keys.count k = 0 then none else some (.number (keys.count k)) := by
  induction keys using List.reverseRecOn with
  | nil => rfl
  | append_singleton keys key ih =>
    rw [tally_append, List.foldl_cons, List.foldl_nil, List.count_append]
    by_cases hkey : key = k
    · subst hkey
      have hproto : key ≠ "__proto__" := by
        intro heq
        exact hk (heq ▸ List.mem_cons_self)
      unfold increment
      rw [ih]
      by_cases hzero : keys.count key = 0
      · simp [hzero, hproto, hk]
      · simp [hzero]
    · rw [increment_get_ne _ hkey, ih]
      simp [hkey]

theorem tally_get_of_not_mem {k : String} {keys : List String} (h : k ∉ keys) : (tally keys).get k = none := by
  induction keys using List.reverseRecOn with
  | nil => rfl
  | append_singleton keys key ih =>
    rw [List.mem_append, List.mem_singleton, not_or] at h
    rw [tally_append, List.foldl_cons, List.foldl_nil, increment_get_ne _ (Ne.symm h.2)]
    exact ih h.1

theorem tally_get_inherited {k : String} (hk : k ∈ inheritedKeys) (keys : List String) :
    ∀ n, (tally keys).get k ≠ some (.number n) := by
  induction keys using List.reverseRecOn with
  | nil => nofun
  | append_singleton keys key ih =>
    intro n
    rw [tally_append, List.foldl_cons, List.foldl_nil]
    by_cases hkey : key = k
    · subst hkey
      unfold increment
      split
      · rename_i m hget
        exact absurd hget (ih m)
      · simp
      · split_ifs
        · exact ih n
        · simp
    · rw [increment_get_ne _ hkey]
      exact ih n

/-- one increment of an ordinary key adds one where the key is chosen -/
theorem sumWhere_increment (chosen : String → Bool) (counts : ObjectCounts) {key : String} (hkey : key ∉ inheritedKeys)
    (hnumber : ∀ value, counts.get key ≠ some (.text value)) :
    sumWhere chosen (increment counts key) = sumWhere chosen counts + if chosen key then 1 else 0 := by
  have hset : ∀ n, ((counts.set key (.number n)).entries.map (fun entry =>
        ((if chosen entry.1 then entry.2.amount else 0 : ℕ) : ℤ))).sum
      = (counts.entries.map (fun entry => ((if chosen entry.1 then entry.2.amount else 0 : ℕ) : ℤ))).sum
        - ((counts.get key).map (fun value => ((if chosen key then value.amount else 0 : ℕ) : ℤ))).getD 0
        + ((if chosen key then n else 0 : ℕ) : ℤ) :=
    fun n => sum_assocSet (fun k (value : CountValue) => ((if chosen k then value.amount else 0 : ℕ) : ℤ))
      counts.entries key _
  have hproto : key ≠ "__proto__" := by
    intro heq
    exact hkey (heq ▸ List.mem_cons_self)
  have hcast : ∀ other : ObjectCounts, ((sumWhere chosen other : ℕ) : ℤ)
      = (other.entries.map (fun entry => ((if chosen entry.1 then entry.2.amount else 0 : ℕ) : ℤ))).sum := by
    intro other
    rw [sumWhere, Nat.cast_list_sum, List.map_map]
    rfl
  have hint : ((sumWhere chosen (increment counts key) : ℕ) : ℤ)
      = sumWhere chosen counts + if chosen key then 1 else 0 := by
    unfold increment
    cases hget : counts.get key with
    | none =>
      simp only [if_neg hproto, if_neg hkey]
      rw [hcast, hset, hcast, hget]
      cases chosen key <;> simp
    | some value =>
      cases value with
      | text value => exact absurd hget (hnumber value)
      | number n =>
        simp only
        rw [hcast, hset, hcast, hget]
        cases chosen key
        · simp
        · simp [CountValue.amount]
          ring
  exact_mod_cast hint

theorem sumWhere_tally (chosen : String → Bool) {keys : List String} (h : ∀ key ∈ keys, key ∉ inheritedKeys) :
    sumWhere chosen (tally keys) = keys.countP chosen := by
  induction keys using List.reverseRecOn with
  | nil => rfl
  | append_singleton keys key ih =>
    have hkey := h key (by simp)
    rw [tally_append, List.foldl_cons, List.foldl_nil, sumWhere_increment chosen _ hkey,
      ih (fun k hk => h k (by simp [hk]))]
    · simp [List.countP_append, List.countP_cons]
    · intro value
      rw [tally_get hkey]
      split_ifs <;> simp

end ObjectCounts

end SeeMirai
