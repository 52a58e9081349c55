import Mathlib.Algebra.Order.Group.Nat
import RmdCanSdk.Library.Transition

/-!
# Latest-value channels

The abstract object behind any single-producer, single-consumer exchange of whole
values that may skip values but never goes back: a read returns some published
value that is no older than the value returned before. It records every value
published so far, the initial one first, and the position the reader is at.
-/

/-- Every value published so far, the initial one first, and the position of the
value the reader returned last. -/
structure LatestValue (α : Type*) where
  values : List α
  position : Nat
  inBounds : position < values.length

namespace LatestValue

variable {α : Type*}

inductive Event (α : Type*) where
  | publish (value : α)
  | read (position : Nat)

/-- A channel that only holds its initial value. -/
def start (initial : α) : LatestValue α := ⟨[initial], 0, Nat.one_pos⟩

/-- The value at the reader's position. -/
def current (channel : LatestValue α) : α := channel.values.get ⟨channel.position, channel.inBounds⟩

theorem current_eq {channel : LatestValue α} {value : α}
    (selected : channel.values[channel.position]? = some value) :
    channel.current = value :=
  (List.getElem?_eq_some_iff.mp selected).2

/-- A reader that has not moved is at the initial value. -/
theorem current_of_unread {channel : LatestValue α} {initial : α}
    (first : [initial] <+: channel.values) (unread : channel.position = 0) :
    channel.current = initial := by
  rcases first with ⟨rest, values⟩
  apply current_eq
  rw [unread, ← values]
  rfl

/-- The channel after one more publish. -/
def publish (channel : LatestValue α) (value : α) : LatestValue α where
  values := channel.values ++ [value]
  position := channel.position
  inBounds := by
    rw [List.length_append]
    exact Nat.lt_add_right _ channel.inBounds

/-- The value published last, or the initial one. -/
def latest (channel : LatestValue α) : α :=
  channel.values.getLast (List.ne_nil_of_length_pos (Nat.zero_lt_of_lt channel.inBounds))

@[simp] theorem latest_publish (channel : LatestValue α) (value : α) :
    (channel.publish value).latest = value :=
  List.getLast_concat

/-- The values published so far, without the initial one. -/
def published (channel : LatestValue α) : List α := channel.values.tail

theorem published_of_concat {before after : LatestValue α} {value : α}
    (appended : after.values = before.values ++ [value]) :
    after.published = before.published ++ [value] := by
  rw [published, appended, List.tail_append_of_ne_nil]
  · rfl
  · exact List.ne_nil_of_length_pos (Nat.zero_lt_of_lt before.inBounds)

/-- A reader that has left the initial value is at a published one. -/
theorem current_mem_published {channel : LatestValue α} (moved : 0 < channel.position) :
    channel.current ∈ channel.published := by
  have inBounds := channel.inBounds
  have later : channel.published[channel.position - 1]? = some channel.current := by
    rw [published, List.getElem?_tail, Nat.sub_add_cancel moved]
    exact List.getElem?_eq_getElem inBounds
  exact List.mem_of_getElem? later

/-- The latest value depends on what was published only. -/
theorem latest_congr {left right : LatestValue α} (same : left.values = right.values) :
    left.latest = right.latest := by
  simp only [latest]
  simp only [same]

theorem latest_of_concat {channel : LatestValue α} {values : List α} {value : α}
    (published : channel.values = values ++ [value]) : channel.latest = value := by
  rw [latest]
  simp only [published, List.getLast_concat]

/-- The reader does not notice a publish before its next read. -/
@[simp] theorem current_publish (channel : LatestValue α) (value : α) :
    (channel.publish value).current = channel.current :=
  List.getElem_append_left channel.inBounds

/-- A publish appends a value; a read moves to a position that exists and is not
behind the current one. -/
def step (channel : LatestValue α) : Event α → Option (LatestValue α)
  | .publish value => some (channel.publish value)
  | .read position =>
      if valid : channel.position ≤ position ∧ position < channel.values.length then
        some ⟨channel.values, position, valid.2⟩
      else none

theorem step_read {channel next : LatestValue α} {position : Nat}
    (stepped : step channel (.read position) = some next) :
    next.values = channel.values ∧ next.position = position ∧
      channel.position ≤ position := by
  simp only [step] at stepped
  split at stepped
  next valid =>
    cases stepped
    exact ⟨rfl, rfl, valid.1⟩
  next => contradiction

/-! ## Positions, the last one first -/

/-- A member of a decreasing list beyond its first entries is farther below the head. -/
theorem mem_take_of_decreasing {head : Nat} {rest : List Nat}
    (decreasing : (head :: rest).Pairwise (· > ·)) {item count : Nat} (member : item ∈ head :: rest)
    (near : head < item + count) : item ∈ (head :: rest).take count := by
  induction rest generalizing head count with
  | nil =>
      cases count with
      | zero =>
          rw [List.mem_singleton.mp member] at near
          exact absurd near (lt_irrefl _)
      | succ count =>
          rw [List.take_succ_cons, List.take_nil]
          exact member
  | cons next rest ih =>
      rcases List.pairwise_cons.mp decreasing with ⟨below, later⟩
      cases count with
      | zero =>
          rcases List.mem_cons.mp member with same | inRest
          · omega
          · have less := below item inRest
            omega
      | succ count =>
          rcases List.mem_cons.mp member with same | inRest
          · exact same ▸ List.mem_cons_self
          · have less := below next List.mem_cons_self
            exact List.mem_cons_of_mem _ (ih later inRest (by omega))

/-- A decreasing list of positive numbers is no longer than its head. -/
theorem length_le_of_decreasing {head : Nat} {rest : List Nat}
    (decreasing : (head :: rest).Pairwise (· > ·)) (positive : ∀ item ∈ head :: rest, 0 < item) :
    (head :: rest).length ≤ head := by
  induction rest generalizing head with
  | nil => exact positive head List.mem_cons_self
  | cons next rest ih =>
      rcases List.pairwise_cons.mp decreasing with ⟨below, later⟩
      have shorter := ih later fun item member => positive item (List.mem_cons_of_mem _ member)
      have less := below next List.mem_cons_self
      rw [List.length_cons]
      omega

end LatestValue
