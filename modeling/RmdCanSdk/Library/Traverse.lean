import Mathlib.Data.List.Basic
import Mathlib.Data.List.Pairwise
import Mathlib.Data.List.Perm.Basic

/-!
# Computations that may fail

What a successful sequence of steps, or a successful traversal of a list, says
about each of its steps, and what a loop leaves in a list that it writes by key.
-/

section

variable {error α β key : Type}

/-- What succeeds as a whole succeeds step by step. -/
theorem bind_eq_ok {first : Except error α} {continuation : α → Except error β} {result : β}
    (ok : first >>= continuation = .ok result) :
    ∃ value, first = .ok value ∧ continuation value = .ok result := by
  cases first with
  | error failure => contradiction
  | ok value => exact ⟨value, rfl, ok⟩

/-- What fails as a whole fails in its first step or after it. -/
theorem bind_eq_error {first : Except error α} {continuation : α → Except error β}
    {failure : error} (failed : first >>= continuation = .error failure) :
    first = .error failure ∨ ∃ value, first = .ok value ∧ continuation value = .error failure := by
  cases first with
  | error other =>
      cases failed
      exact .inl rfl
  | ok value => exact .inr ⟨value, rfl, failed⟩

theorem map_eq_ok {convert : α → β} {first : Except error α} {result : β}
    (ok : convert <$> first = .ok result) : ∃ value, first = .ok value ∧ convert value = result := by
  cases first with
  | error failure => contradiction
  | ok value =>
      cases ok
      exact ⟨value, rfl, rfl⟩

/-- One loop after the other is a loop over both lists. -/
theorem foldlM_append_ok {step : β → α → Except error β} {front back : List α}
    {start middle finish : β} (first : front.foldlM step start = .ok middle)
    (second : back.foldlM step middle = .ok finish) :
    (front ++ back).foldlM step start = .ok finish := by
  rw [List.foldlM_append, first]
  exact second

/-- What every iteration of a loop keeps holds at its end. -/
theorem foldlM_invariant {step : β → α → Except error β} {items : List α} {start finish : β}
    (invariant : β → Prop)
    (kept : ∀ {before after : β} {item : α},
      step before item = .ok after → invariant before → invariant after)
    (ran : items.foldlM step start = .ok finish) (initially : invariant start) :
    invariant finish := by
  induction items generalizing start with
  | nil =>
      cases ran
      exact initially
  | cons item rest ih =>
      rw [List.foldlM_cons] at ran
      rcases bind_eq_ok ran with ⟨middle, first, others⟩
      exact ih others (kept first initially)

variable {convert : α → Except error β} {items : List α} {results : List β}

/-- A successful traversal keeps what each of its steps keeps. -/
theorem map_mapM {before : α → key} {after : β → key}
    (kept : ∀ {item : α} {result : β}, convert item = .ok result → after result = before item)
    (converted : items.mapM convert = .ok results) :
    results.map after = items.map before := by
  induction items generalizing results with
  | nil =>
      cases converted
      rfl
  | cons item rest ih =>
      rw [List.mapM_cons] at converted
      rcases bind_eq_ok converted with ⟨result, first, converted⟩
      rcases bind_eq_ok converted with ⟨tail, others, converted⟩
      cases converted
      rw [List.map_cons, List.map_cons, kept first, ih others]

/-- Every result of a traversal is the result of one of its steps. -/
theorem mem_mapM (converted : items.mapM convert = .ok results) {result : β}
    (member : result ∈ results) : ∃ item ∈ items, convert item = .ok result := by
  induction items generalizing results with
  | nil =>
      cases converted
      contradiction
  | cons item rest ih =>
      rw [List.mapM_cons] at converted
      rcases bind_eq_ok converted with ⟨head, first, converted⟩
      rcases bind_eq_ok converted with ⟨tail, others, converted⟩
      cases converted
      rcases List.mem_cons.mp member with rfl | inTail
      · exact ⟨item, List.mem_cons_self, first⟩
      · rcases ih others inTail with ⟨other, inRest, converted⟩
        exact ⟨other, List.mem_cons_of_mem _ inRest, converted⟩

end

section

variable {α β : Type*} {key : α → Nat} {value : α → β} {items : List α} {item : α}

/-- A loop does not write a position that is not among its keys. -/
theorem foldl_set_of_notMem (results : List β) {index : Nat} (absent : index ∉ items.map key) :
    (items.foldl (fun results item => results.set (key item) (value item)) results)[index]? =
      results[index]? := by
  induction items generalizing results with
  | nil => rfl
  | cons head rest ih =>
      rw [List.map_cons, List.mem_cons, not_or] at absent
      rw [List.foldl_cons, ih _ absent.2]
      exact List.getElem?_set_ne (Ne.symm absent.1)

/-- With distinct keys each item's value stays in its position. -/
theorem foldl_set_of_mem (results : List β) (distinct : (items.map key).Nodup)
    (member : item ∈ items) (inBounds : key item < results.length) :
    (items.foldl (fun results item => results.set (key item) (value item)) results)[key item]? =
      some (value item) := by
  induction items generalizing results with
  | nil => contradiction
  | cons head rest ih =>
      rw [List.map_cons, List.nodup_cons] at distinct
      rw [List.foldl_cons]
      rcases List.mem_cons.mp member with rfl | inRest
      · rw [foldl_set_of_notMem _ distinct.1]
        exact List.getElem?_set_self inBounds
      · apply ih _ distinct.2 inRest
        rw [List.length_set]
        exact inBounds

/-- A loop whose iterations commute ends the same for every order of its items. -/
theorem foldl_perm {step : β → α → β} {others : List α} (reordered : items.Perm others)
    (commutes : items.Pairwise fun first second =>
      ∀ state, step (step state first) second = step (step state second) first) (start : β) :
    items.foldl step start = others.foldl step start := by
  have : Std.Symm fun first second =>
      ∀ state, step (step state first) second = step (step state second) first :=
    ⟨fun first second same state => (same state).symm⟩
  apply reordered.foldl_eq'
  intro first isItem second isItem' state
  exact commutes.forall_of_forall (fun _ _ _ => rfl) isItem isItem' state

/-- A loop that counts the items with a property. -/
theorem foldl_count (counts : α → Bool) (items : List α) (before : Int) :
    items.foldl (fun count item => if counts item then count + 1 else count) before =
      before + items.countP counts := by
  induction items generalizing before with
  | nil => simp
  | cons head rest ih =>
      rw [List.foldl_cons, ih, List.countP_cons]
      cases counts head with
      | true =>
          simp only [if_true]
          omega
      | false => simp

end

/-! ## Loops over vectors -/

namespace Vector

variable {α : Type} {count : Nat}

theorem get_set_fin (values : Vector α count) (active i : Fin count) (value : α) :
    (values.set active value active.isLt).get i =
      if active = i then value else values.get i := by
  by_cases same : active = i
  · subst same
    exact (Vector.getElem_set_self active.isLt).trans (if_pos rfl).symm
  · have other : active.val ≠ i.val := fun equal => same (Fin.ext equal)
    exact (Vector.getElem_set_ne active.isLt i.isLt other).trans (if_neg same).symm

/-- A loop that changes some elements of a vector, each in its own way. -/
theorem get_foldl_set (change : Fin count → α → α)
    (idempotent : ∀ active value, change active (change active value) = change active value)
    (actives : List (Fin count)) (values : Vector α count) (i : Fin count) :
    let changed := actives.foldl (fun values active =>
      values.set active (change active (values.get active)) active.isLt) values
    (i ∈ actives → changed.get i = change i (values.get i)) ∧
      (i ∉ actives → changed.get i = values.get i) := by
  induction actives generalizing values with
  | nil => exact ⟨fun member => absurd member List.not_mem_nil, fun _ => rfl⟩
  | cons active rest ih =>
      have entry := get_set_fin values active i (change active (values.get active))
      have later := ih (values.set active (change active (values.get active)) active.isLt)
      rw [entry] at later
      by_cases same : active = i
      · subst same
        rw [if_pos rfl, idempotent] at later
        refine ⟨fun _ => ?_, fun other => absurd List.mem_cons_self other⟩
        by_cases again : active ∈ rest
        · exact later.1 again
        · exact later.2 again
      · rw [if_neg same] at later
        refine ⟨fun member => later.1 ?_, fun other => later.2 ?_⟩
        · exact List.mem_of_ne_of_mem (Ne.symm same) member
        · exact fun member => other (List.mem_cons_of_mem _ member)

/-- A loop that sets some elements of a vector in a record. -/
theorem get_foldl_field {record : Type} (field : record → Vector α count)
    (step : record → Fin count → record) (value : Fin count → α)
    (sets : ∀ start active, field (step start active) =
      (field start).set active (value active) active.isLt)
    {actives : List (Fin count)} {i : Fin count} (active : i ∈ actives) (start : record) :
    (field (actives.foldl step start)).get i = value i := by
  have same : field (actives.foldl step start) =
      actives.foldl (fun values active => values.set active (value active) active.isLt)
        (field start) :=
    (List.foldl_hom field fun start active => (sets start active).symm).symm
  rw [same]
  exact (get_foldl_set (fun active _ => value active) (fun _ _ => rfl) actives (field start) i).1
    active

/-- Such a loop undoes another one where its changes do. -/
theorem foldl_set_foldl_set (early late : Fin count → α → α)
    (idempotent : ∀ active value, early active (early active value) = early active value)
    (replaces : ∀ active value, late active (early active value) = late active value)
    (again : ∀ active value, late active (late active value) = late active value)
    (actives : List (Fin count)) (values : Vector α count) :
    let changed (change : Fin count → α → α) (values : Vector α count) :=
      actives.foldl (fun values active =>
        values.set active (change active (values.get active)) active.isLt) values
    changed late (changed early values) = changed late values := by
  intro changed
  have entry : ∀ i : Fin count,
      (changed late (changed early values)).get i = (changed late values).get i := by
    intro i
    have outer := get_foldl_set late again actives (changed early values) i
    have inner := get_foldl_set early idempotent actives values i
    have once := get_foldl_set late again actives values i
    by_cases active : i ∈ actives
    · exact (outer.1 active).trans ((congrArg (late i) (inner.1 active)).trans
        ((replaces i _).trans (once.1 active).symm))
    · exact (outer.2 active).trans ((inner.2 active).trans (once.2 active).symm)
  exact Vector.ext fun i inside => entry ⟨i, inside⟩

end Vector
