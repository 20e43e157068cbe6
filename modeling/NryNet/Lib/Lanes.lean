import Mathlib.Algebra.BigOperators.Group.Multiset.Basic
import Mathlib.Algebra.Order.Group.Int
import Mathlib.Data.List.Infix
import Mathlib.Data.List.Nodup
import Mathlib.Tactic.Abel

/-!
# Three queues with a bounded bypass

A writer that serves three classes of items from three first-in-first-out queues: a critical item
goes first, an urgent one goes before a normal one, and a normal one is due once `limit` urgent
items have gone before it.  The counter of that rule is `urgentBudget`; it is advanced by every
urgent item, also while no normal one waits, and reset by a normal one.

Nothing here speaks about time or about who calls: `push` and `pop` are the two operations, and a
program that performs them in whatever order is described by what they do to

* the items it has accepted and the items it has taken so far, in order (`InOrder`): what is taken
  of a class is what was accepted of it, from the front;
* any weight summed over the items that wait (`sum_items_push`, `Taken.sum_items`), which covers
  counting them, adding up their sizes and asking how often one of them occurs;
* the urgent items taken in a row while a normal one waits (`Spaced`).
-/

universe u

/-- The classes of items, in order of precedence. -/
inductive Lane where
  | critical
  | urgent
  | normal
  deriving DecidableEq, Repr

/-- The items that wait in each class, oldest first, and how many urgent ones were taken since the
last normal one. -/
structure Lanes (α : Type u) where
  critical : List α
  urgent : List α
  normal : List α
  urgentBudget : ℤ
  deriving DecidableEq, Repr

namespace Lanes

variable {α : Type u}

/-- The queue of a class. -/
def lane (lanes : Lanes α) : Lane → List α
  | .critical => lanes.critical
  | .urgent => lanes.urgent
  | .normal => lanes.normal

/-- Everything that waits. -/
def items (lanes : Lanes α) : List α :=
  lanes.critical ++ lanes.urgent ++ lanes.normal

/-- An item joins the queue of its class. -/
def push (lanes : Lanes α) (item : α) : Lane → Lanes α
  | .critical => { lanes with critical := lanes.critical ++ [item] }
  | .urgent => { lanes with urgent := lanes.urgent ++ [item] }
  | .normal => { lanes with normal := lanes.normal ++ [item] }

/-- The item that is due, its class and what is left. -/
def pop (lanes : Lanes α) (limit : ℤ) : Option (Lane × α × Lanes α) :=
  match lanes.critical, lanes.urgent, lanes.normal with
  | item :: rest, _, _ => some (.critical, item, { lanes with critical := rest })
  | [], item :: rest, [] =>
      some (.urgent, item,
        { lanes with urgent := rest, urgentBudget := lanes.urgentBudget + 1 })
  | [], item :: rest, due :: later =>
      if lanes.urgentBudget < limit then
        some (.urgent, item,
          { lanes with urgent := rest, urgentBudget := lanes.urgentBudget + 1 })
      else some (.normal, due, { lanes with normal := later, urgentBudget := 0 })
  | [], [], due :: later =>
      some (.normal, due, { lanes with normal := later, urgentBudget := 0 })
  | [], [], [] => none

/-- Everything that waits is dropped. -/
def clear (lanes : Lanes α) : Lanes α :=
  { lanes with critical := [], urgent := [], normal := [] }

/-- `urgentBudget` after an item of some class has been taken. -/
def spend (budget : ℤ) : Lane → ℤ
  | .critical => budget
  | .urgent => budget + 1
  | .normal => 0

variable {lanes lanes' : Lanes α} {limit : ℤ} {item : α} {kind : Lane}

@[simp] theorem items_clear : lanes.clear.items = [] := rfl

theorem lane_push (other : Lane) :
    (lanes.push item kind).lane other =
      if other = kind then lanes.lane other ++ [item] else lanes.lane other := by
  cases kind <;> cases other <;> rfl

@[simp] theorem urgentBudget_push : (lanes.push item kind).urgentBudget = lanes.urgentBudget := by
  cases kind <;> rfl

theorem mem_items : item ∈ lanes.items ↔ ∃ kind, item ∈ lanes.lane kind := by
  unfold items
  rw [List.mem_append, List.mem_append]
  constructor
  · rintro ((critical | urgent) | normal)
    · exact ⟨.critical, critical⟩
    · exact ⟨.urgent, urgent⟩
    · exact ⟨.normal, normal⟩
  · rintro ⟨kind, member⟩
    cases kind with
    | critical => exact Or.inl (Or.inl member)
    | urgent => exact Or.inl (Or.inr member)
    | normal => exact Or.inr member

/-! ## What taking an item does -/

/-- An item was due and has been taken. -/
structure Taken (limit : ℤ) (lanes : Lanes α) (kind : Lane) (item : α) (lanes' : Lanes α) :
    Prop where
  /-- it was the oldest of its class -/
  front : lanes.lane kind = item :: lanes'.lane kind
  others : ∀ other, other ≠ kind → lanes'.lane other = lanes.lane other
  precedence : lanes.critical ≠ [] → kind = .critical
  bypass : kind = .urgent → lanes.normal = [] ∨ lanes.urgentBudget < limit
  budget : lanes'.urgentBudget = spend lanes.urgentBudget kind

theorem taken_critical {rest : List α} (waiting : lanes.critical = item :: rest) :
    Taken limit lanes .critical item { lanes with critical := rest } where
  front := waiting
  others other different := by
    cases other with
    | critical => exact absurd rfl different
    | urgent => rfl
    | normal => rfl
  precedence _ := rfl
  bypass impossible := nomatch impossible
  budget := rfl

theorem taken_urgent {rest : List α} (none : lanes.critical = [])
    (waiting : lanes.urgent = item :: rest)
    (bypass : lanes.normal = [] ∨ lanes.urgentBudget < limit) :
    Taken limit lanes .urgent item
      { lanes with urgent := rest, urgentBudget := lanes.urgentBudget + 1 } where
  front := waiting
  others other different := by
    cases other with
    | critical => rfl
    | urgent => exact absurd rfl different
    | normal => rfl
  precedence some := absurd none some
  bypass _ := bypass
  budget := rfl

theorem taken_normal {rest : List α} (none : lanes.critical = [])
    (waiting : lanes.normal = item :: rest) :
    Taken limit lanes .normal item { lanes with normal := rest, urgentBudget := 0 } where
  front := waiting
  others other different := by
    cases other with
    | critical => rfl
    | urgent => rfl
    | normal => exact absurd rfl different
  precedence some := absurd none some
  bypass impossible := nomatch impossible
  budget := rfl

/-- What `pop` returns has been taken. -/
theorem taken_of_pop (popped : lanes.pop limit = some (kind, item, lanes')) :
    Taken limit lanes kind item lanes' := by
  unfold pop at popped
  split at popped
  · rename_i critical
    cases popped
    exact taken_critical critical
  · rename_i critical urgent normal
    cases popped
    exact taken_urgent critical urgent (Or.inl normal)
  · rename_i critical urgent normal
    split at popped
    · rename_i within
      cases popped
      exact taken_urgent critical urgent (Or.inr within)
    · cases popped
      exact taken_normal critical normal
  · rename_i critical _ normal
    cases popped
    exact taken_normal critical normal
  · cases popped

/-! ## Weights -/

section Weights

variable {M : Type*} [AddCommMonoid M] (weight : α → M)

theorem sum_items :
    (lanes.items.map weight).sum =
      ((lanes.lane .critical).map weight).sum + ((lanes.lane .urgent).map weight).sum +
        ((lanes.lane .normal).map weight).sum := by
  unfold items
  rw [List.map_append, List.map_append, List.sum_append, List.sum_append]
  rfl

/-- Joining adds the weight of the item. -/
theorem sum_items_push :
    ((lanes.push item kind).items.map weight).sum =
      (lanes.items.map weight).sum + weight item := by
  have joined (queue : List α) :
      ((queue ++ [item]).map weight).sum = (queue.map weight).sum + weight item := by
    rw [List.map_append, List.sum_append, List.map_singleton, List.sum_singleton]
  rw [sum_items, sum_items, lane_push, lane_push, lane_push]
  cases kind with
  | critical =>
      rw [if_pos rfl, if_neg (by decide), if_neg (by decide), joined]
      abel
  | urgent =>
      rw [if_neg (by decide), if_pos rfl, if_neg (by decide), joined]
      abel
  | normal =>
      rw [if_neg (by decide), if_neg (by decide), if_pos rfl, joined]
      abel

/-- Taking an item removes its weight. -/
theorem Taken.sum_items (taken : Taken limit lanes kind item lanes') :
    (lanes.items.map weight).sum = (lanes'.items.map weight).sum + weight item := by
  have left : ((lanes.lane kind).map weight).sum =
      ((lanes'.lane kind).map weight).sum + weight item := by
    rw [taken.front, List.map_cons, List.sum_cons, add_comm]
  rw [Lanes.sum_items, Lanes.sum_items]
  cases kind with
  | critical =>
      rw [left, taken.others .urgent (by decide), taken.others .normal (by decide)]
      abel
  | urgent =>
      rw [left, taken.others .critical (by decide), taken.others .normal (by decide)]
      abel
  | normal =>
      rw [left, taken.others .critical (by decide), taken.others .urgent (by decide)]
      abel

end Weights

/-- The items that wait, as a sum of single items. -/
theorem coe_items (lanes : Lanes α) :
    (lanes.items : Multiset α) = (lanes.items.map fun item => ({item} : Multiset α)).sum := by
  rw [← Multiset.sum_coe, ← Multiset.map_coe, Multiset.sum_map_singleton]

theorem coe_items_push :
    ((lanes.push item kind).items : Multiset α) = lanes.items + {item} := by
  rw [coe_items, sum_items_push, ← coe_items]

theorem Taken.coe_items (taken : Taken limit lanes kind item lanes') :
    (lanes.items : Multiset α) = lanes'.items + {item} := by
  rw [Lanes.coe_items, taken.sum_items, ← Lanes.coe_items]

theorem Taken.mem_items (taken : Taken limit lanes kind item lanes') : item ∈ lanes.items := by
  rw [Lanes.mem_items]
  refine ⟨kind, ?_⟩
  rw [taken.front]
  exact List.mem_cons_self

/-! ## First in, first out -/

/-- What was taken of a class, followed by what waits in it, is what was accepted of it. -/
def InOrder (kindOf : α → Lane) (lanes : Lanes α) (accepted taken : List α) : Prop :=
  ∀ kind, taken.filter (kindOf · = kind) ++ lanes.lane kind = accepted.filter (kindOf · = kind)

section Order

variable {kindOf : α → Lane} {accepted taken : List α}

/-- An item waits in the queue of its own class, and was accepted. -/
theorem InOrder.of_mem (inOrder : InOrder kindOf lanes accepted taken)
    (member : item ∈ lanes.lane kind) : kindOf item = kind ∧ item ∈ accepted := by
  have accepted' : item ∈ accepted.filter (kindOf · = kind) := by
    rw [← inOrder kind]
    exact List.mem_append_right _ member
  rw [List.mem_filter] at accepted'
  exact ⟨of_decide_eq_true accepted'.2, accepted'.1⟩

/-- The class of an item that is taken. -/
theorem InOrder.kind_of_taken (inOrder : InOrder kindOf lanes accepted taken)
    (took : Taken limit lanes kind item lanes') : kindOf item = kind := by
  have member : item ∈ lanes.lane kind := by
    rw [took.front]
    exact List.mem_cons_self
  exact (inOrder.of_mem member).1

theorem InOrder.push (inOrder : InOrder kindOf lanes accepted taken) :
    InOrder kindOf (lanes.push item (kindOf item)) (accepted ++ [item]) taken := by
  intro kind
  rw [lane_push, List.filter_append, ← inOrder kind]
  by_cases same : kind = kindOf item
  · subst same
    rw [if_pos rfl, List.filter_singleton, decide_eq_true rfl, List.append_assoc]
    rfl
  · rw [if_neg same, List.filter_singleton, decide_eq_false fun equal => same equal.symm]
    exact (List.append_nil _).symm

theorem InOrder.pop (inOrder : InOrder kindOf lanes accepted taken)
    (took : Taken limit lanes kind item lanes') :
    InOrder kindOf lanes' accepted (taken ++ [item]) := by
  have own := inOrder.kind_of_taken took
  intro other
  rw [List.filter_append, ← inOrder other]
  by_cases same : other = kind
  · subst same
    rw [List.filter_singleton, decide_eq_true own, took.front, List.append_assoc]
    rfl
  · rw [List.filter_singleton, decide_eq_false fun equal => same (equal.symm.trans own),
      took.others other same, List.append_assoc]
    rfl

/-- What was taken of a class is the front of what was accepted of it. -/
theorem InOrder.isPrefix (inOrder : InOrder kindOf lanes accepted taken) (kind : Lane) :
    taken.filter (kindOf · = kind) <+: accepted.filter (kindOf · = kind) :=
  ⟨lanes.lane kind, inOrder kind⟩

/-- If of every class the front was taken, then no item was taken twice. -/
theorem nodup_of_prefixes
    (fronts : ∀ kind, taken.filter (kindOf · = kind) <+: accepted.filter (kindOf · = kind))
    (distinct : accepted.Nodup) : taken.Nodup := by
  classical
  rw [List.nodup_iff_count_le_one]
  intro item
  have own (items : List α) :
      (items.filter (kindOf · = kindOf item)).count item = items.count item :=
    List.count_filter (decide_eq_true rfl)
  calc taken.count item
      = (taken.filter (kindOf · = kindOf item)).count item := (own taken).symm
    _ ≤ (accepted.filter (kindOf · = kindOf item)).count item :=
        (fronts (kindOf item)).sublist.count_le item
    _ = accepted.count item := own accepted
    _ ≤ 1 := List.nodup_iff_count_le_one.mp distinct item

end Order

/-! ## Bounded bypass -/

/-- How many urgent items there are. -/
def urgents (kindOf : α → Lane) (items : List α) : ℤ :=
  (items.countP (kindOf · = .urgent) : ℤ)

/-- No normal item is among them. -/
def NoNormal (kindOf : α → Lane) (items : List α) : Prop :=
  ∀ item ∈ items, kindOf item ≠ .normal

/-- The items taken during a period: a stretch without a normal item has at most `limit` urgent
ones, and the stretch that is still going on has at most `budget`. -/
structure Spaced (kindOf : α → Lane) (limit budget : ℤ) (taken : List α) : Prop where
  within : ∀ stretch, stretch <:+: taken → NoNormal kindOf stretch → urgents kindOf stretch ≤ limit
  trailing : ∀ stretch, stretch <:+ taken → NoNormal kindOf stretch →
    urgents kindOf stretch ≤ budget

section Bypass

variable {kindOf : α → Lane} {taken : List α} {budget : ℤ}

theorem spend_nonneg (nonneg : 0 ≤ budget) : 0 ≤ spend budget kind := by
  cases kind with
  | critical => exact nonneg
  | urgent =>
      show 0 ≤ budget + 1
      omega
  | normal => exact le_refl 0

theorem urgents_concat (items : List α) :
    urgents kindOf (items ++ [item]) =
      urgents kindOf items + if kindOf item = .urgent then 1 else 0 := by
  unfold urgents
  rw [List.countP_append, List.countP_singleton]
  by_cases urgent : kindOf item = .urgent
  · simp [urgent]
  · simp [urgent]

/-- A period starts with nothing taken. -/
theorem Spaced.nil (limit_nonneg : 0 ≤ limit) (budget_nonneg : 0 ≤ budget) :
    Spaced kindOf limit budget [] where
  within stretch inside _ := by
    rw [List.infix_nil.mp inside]
    exact limit_nonneg
  trailing stretch last _ := by
    rw [List.suffix_nil.mp last]
    exact budget_nonneg

/-- One more item is taken while a normal one waits. -/
theorem Spaced.concat (spaced : Spaced kindOf limit lanes.urgentBudget taken)
    (limit_nonneg : 0 ≤ limit) (budget_nonneg : 0 ≤ lanes.urgentBudget)
    (took : Taken limit lanes (kindOf item) item lanes') (waiting : lanes.normal ≠ []) :
    Spaced kindOf limit lanes'.urgentBudget (taken ++ [item]) := by
  -- a stretch that ends with this item extends one that was going on before it
  have ends : ∀ stretch, stretch <:+ taken ++ [item] → NoNormal kindOf stretch →
      urgents kindOf stretch ≤ lanes'.urgentBudget ∧ urgents kindOf stretch ≤ limit := by
    intro stretch last quiet
    rw [took.budget]
    rcases List.suffix_concat_iff.mp last with rfl | ⟨before, rfl, earlier⟩
    · exact ⟨spend_nonneg budget_nonneg, limit_nonneg⟩
    · have quiet' : NoNormal kindOf before := fun other member =>
        quiet other (List.mem_append_left _ member)
      have going := spaced.trailing before earlier quiet'
      have capped := spaced.within before earlier.isInfix quiet'
      rw [urgents_concat]
      cases kind : kindOf item with
      | critical =>
          rw [if_neg (by decide), add_zero]
          exact ⟨going, capped⟩
      | urgent =>
          have room : lanes.urgentBudget < limit :=
            (took.bypass kind).resolve_left waiting
          rw [if_pos rfl]
          refine ⟨?_, ?_⟩
          · show _ ≤ lanes.urgentBudget + 1
            omega
          · omega
      | normal => exact absurd kind (quiet item (List.mem_append_right _ List.mem_cons_self))
  refine ⟨fun stretch inside quiet => ?_, fun stretch last quiet => (ends stretch last quiet).1⟩
  rcases List.infix_concat_iff.mp inside with last | earlier
  · exact (ends stretch last quiet).2
  · exact spaced.within stretch earlier quiet

end Bypass

end Lanes
