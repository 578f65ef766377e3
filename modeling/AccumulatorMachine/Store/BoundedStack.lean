import AccumulatorMachine.Update

/-!
# Bounded stacks

A stack with a fixed limit.  Its depth is kept beside its items, so that a push
does not count them.  The kind of fault for a pop from the empty stack belongs
to the type of the stack.
-/

namespace AccumulatorMachine

/-- A stack with a limited depth. -/
structure BoundedStack (α : Type) (underflow : Fault.Kind) where
  /-- The items, the top first. -/
  items : List α
  /-- The number of items. -/
  depth : Nat
  depth_eq : depth = items.length
  deriving DecidableEq, Repr

namespace BoundedStack

variable {α : Type} {underflow : Fault.Kind}

/-- The greatest depth. -/
def limit : Nat := 65535

/-- The stack without items. -/
def empty : BoundedStack α underflow := ⟨[], 0, rfl⟩

instance : Inhabited (BoundedStack α underflow) := ⟨empty⟩

/-- Put an item on the top, unless the stack is full. -/
def pushM (item : α) : Update (BoundedStack α underflow) Unit :=
  Update.checked (fun stack => decide (limit ≤ stack.depth))
    (fun _ => Fault.about .outOfMemory "CALL STACK")
    (fun stack => ⟨item :: stack.items, stack.depth + 1, by simp [stack.depth_eq]⟩)

/-- Take the item from the top. -/
def popM : Update (BoundedStack α underflow) α := do
  match ← get with
  | ⟨item :: items, depth, depth_eq⟩ => do
      set (⟨items, depth - 1, by simp [depth_eq]⟩ : BoundedStack α underflow)
      return item
  | ⟨[], _, _⟩ => throw (Fault.of underflow)

/-- The stack with an item more, if there is room for it. -/
def push (stack : BoundedStack α underflow) (item : α) :
    Except Fault (BoundedStack α underflow) :=
  ((pushM item).attempt stack).map Prod.snd

/-- The item on the top and the stack without it. -/
def pop (stack : BoundedStack α underflow) : Except Fault (α × BoundedStack α underflow) :=
  popM.attempt stack

/-- The item on the top. -/
def top? (stack : BoundedStack α underflow) : Option α :=
  stack.items.head?

/-- The items from the bottom to the top, between brackets. -/
def text [ToString α] (stack : BoundedStack α underflow) : String :=
  "[" ++ ", ".intercalate (stack.items.reverse.map toString) ++ "]"

/-- A stack is determined by its items. -/
theorem eq_of_items_eq {first second : BoundedStack α underflow}
    (same : first.items = second.items) : first = second := by
  obtain ⟨items, depth, depth_eq⟩ := first
  obtain ⟨items', depth', depth_eq'⟩ := second
  simp only at same
  subst same depth_eq depth_eq'
  rfl

/-- A push that fails leaves the stack as it is. -/
theorem atomic_pushM (item : α) :
    (pushM item : Update (BoundedStack α underflow) Unit).Atomic :=
  Update.atomic_checked _ _ _

/-- A pop that fails leaves the stack as it is. -/
theorem atomic_popM : (popM : Update (BoundedStack α underflow) α).Atomic := by
  rintro ⟨items, depth, depth_eq⟩ fault next refused
  cases items with
  | nil =>
      cases refused
      rfl
  | cons item items => cases refused

theorem push_eq (stack : BoundedStack α underflow) (item : α) :
    stack.push item =
      if decide (limit ≤ stack.depth) = true then
        .error (Fault.about .outOfMemory "CALL STACK")
      else .ok ⟨item :: stack.items, stack.depth + 1, by simp [stack.depth_eq]⟩ :=
  Update.map_attempt_checked _ _ _ stack

/-- A push succeeds below the limit, and then adds one item. -/
theorem push_eq_ok_iff {stack next : BoundedStack α underflow} {item : α} :
    stack.push item = .ok next ↔
      stack.depth < limit ∧ next.items = item :: stack.items := by
  rw [push_eq]
  by_cases full : limit ≤ stack.depth
  · rw [if_pos (decide_eq_true full)]
    constructor
    · intro pushed
      cases pushed
    · rintro ⟨room, _⟩
      exact absurd full (Nat.not_le_of_lt room)
  · rw [if_neg (by simp [full])]
    constructor
    · intro pushed
      cases pushed
      exact ⟨Nat.lt_of_not_le full, rfl⟩
    · rintro ⟨_, same⟩
      exact congrArg Except.ok (eq_of_items_eq same.symm)

/-- A pop succeeds when there is an item, and then removes it. -/
theorem pop_eq_ok_iff {stack rest : BoundedStack α underflow} {item : α} :
    stack.pop = .ok (item, rest) ↔ stack.items = item :: rest.items := by
  obtain ⟨items, depth, depth_eq⟩ := stack
  cases items with
  | nil =>
      constructor
      · intro popped
        cases popped
      · intro impossible
        cases impossible
  | cons head tail =>
      constructor
      · intro popped
        cases popped
        rfl
      · intro same
        obtain ⟨sameHead, sameTail⟩ := List.cons.inj same
        subst sameHead
        exact congrArg (fun later => Except.ok (head, later)) (eq_of_items_eq sameTail)

end BoundedStack

end AccumulatorMachine
