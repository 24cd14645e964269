namespace TopDown

structure Improvement (β : Type) where
  value : Array β → Nat → β
  /-- Whether the first value is to take the place of the second one. -/
  better : β → β → Bool
  worst : β

namespace Improvement

variable {β : Type} (i : Improvement β)

def entry (entries : Array β) (id : Nat) : β :=
  entries.getD id i.worst

def update (table : Array β × Bool) (id : Nat) : Array β × Bool :=
  let new := i.value table.1 id
  if i.better new (i.entry table.1 id) then (table.1.setIfInBounds id new, true) else table

def sweep (order : List Nat) (entries : Array β) : Array β × Bool :=
  order.foldl i.update (entries, false)

/--
Sweeps through the table until a sweep changes nothing. The result is `none` if more than `patience`
sweeps are needed for that.
-/
def settle? (order : List Nat) : Nat → Array β → Option (Array β)
  | 0, _ => none
  | patience + 1, entries =>
    match i.sweep order entries with
    | (entries, true) => settle? order patience entries
    | (entries, false) => some entries

def best? (size : Nat) (order : List Nat) (patience : Nat) : Option (Array β) :=
  i.settle? order patience (Array.replicate size i.worst)

end Improvement

end TopDown
