import Mathlib.Data.List.Basic
import RmdCanSdk.Library.Traverse

/-!
# Tables in which later entries override earlier ones

A loop reads items one after the other and stores what it reads in a table under the
key of the item. Whatever the table is, it ends with the entry of the last item for
each key, provided that storing an entry leaves the other keys alone.
-/

section

variable {item key : Type*} [DecidableEq key]

/-- The last item with a key. -/
def lastFor (keyOf : item → key) (items : List item) (wanted : key) : Option item :=
  (items.filter fun item => keyOf item = wanted).getLast?

variable {keyOf : item → key} {items : List item} {wanted : key}

theorem lastFor_cons (head : item) (rest : List item) :
    lastFor keyOf (head :: rest) wanted =
      (lastFor keyOf rest wanted).or (if keyOf head = wanted then some head else none) := by
  simp only [lastFor, List.filter_cons, decide_eq_true_eq]
  split
  next =>
    rw [List.getLast?_cons]
    cases (rest.filter fun item => keyOf item = wanted).getLast? with
    | none => rfl
    | some last => rfl
  next => rw [Option.or_none]

theorem lastFor_eq_none : lastFor keyOf items wanted = none ↔ ∀ item ∈ items, keyOf item ≠ wanted := by
  simp [lastFor]

theorem of_lastFor {item : item} (last : lastFor keyOf items wanted = some item) :
    item ∈ items ∧ keyOf item = wanted := by
  have member := List.mem_of_getLast? last
  rwa [List.mem_filter, decide_eq_true_iff] at member

end

/-- A setting that each item may override ends with the last value given for it. -/
theorem foldl_getD {item value : Type*} (given : item → Option value) (items : List item)
    (fallback : value) :
    items.foldl (fun current item => (given item).getD current) fallback =
      (items.filterMap given).getLast?.getD fallback := by
  induction items generalizing fallback with
  | nil => rfl
  | cons head rest ih =>
      rw [List.foldl_cons, ih, List.filterMap_cons]
      cases given head with
      | none => rfl
      | some value =>
          rw [List.getLast?_cons]
          rfl

section

variable {item key table value error : Type} [DecidableEq key]

/-- A step passes over an item or stores a value under its key, and touches nothing
else. -/
structure Overrides (step : table → item → Except error table) (lookup : table → key → Option value)
    (kept : item → Bool) (keyOf : item → key) (stores : item → value → Prop) : Prop where
  passes : ∀ {before after item}, step before item = .ok after → kept item = false →
    ∀ wanted, lookup after wanted = lookup before wanted
  own : ∀ {before after item}, step before item = .ok after → kept item = true →
    ∃ value, stores item value ∧ lookup after (keyOf item) = some value
  others : ∀ {before after item}, step before item = .ok after →
    ∀ wanted, wanted ≠ keyOf item → lookup after wanted = lookup before wanted

variable {step : table → item → Except error table} {lookup : table → key → Option value}
variable {kept : item → Bool} {keyOf : item → key} {stores : item → value → Prop}

/-- The loop leaves what the last kept item stores, and the old entry where there is
no such item. -/
theorem Overrides.foldlM (overrides : Overrides step lookup kept keyOf stores)
    {items : List item} {before after : table} (ran : items.foldlM step before = .ok after)
    (wanted : key) :
    match lastFor keyOf (items.filter kept) wanted with
    | some last => ∃ value, stores last value ∧ lookup after wanted = some value
    | none => lookup after wanted = lookup before wanted := by
  induction items generalizing before with
  | nil =>
      cases ran
      rfl
  | cons head rest ih =>
      rw [List.foldlM_cons] at ran
      rcases bind_eq_ok ran with ⟨middle, stepped, ran⟩
      have later := ih ran
      cases isKept : kept head with
      | false =>
          rw [List.filter_cons_of_neg (by simp [isKept])]
          split
          next last isLast =>
            rw [isLast] at later
            exact later
          next isNone =>
            rw [isNone] at later
            exact later.trans (overrides.passes stepped isKept wanted)
      | true =>
          rw [List.filter_cons_of_pos isKept, lastFor_cons]
          cases isLast : lastFor keyOf (rest.filter kept) wanted with
          | some last =>
              rw [isLast] at later
              exact later
          | none =>
              rw [isLast] at later
              by_cases same : keyOf head = wanted
              · rcases overrides.own stepped isKept with ⟨value, stored, found⟩
                rw [if_pos same]
                exact ⟨value, stored, later.trans (same ▸ found)⟩
              · rw [if_neg same]
                exact later.trans (overrides.others stepped wanted (Ne.symm same))

end
