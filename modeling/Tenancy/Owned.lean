/-!
# Things that belong to something

A resource may belong to another one, and that to another, along a chain of any length. `Owned α` is
such a chain of items, the thing itself first.
-/

set_option autoImplicit false

namespace Tenancy

universe u v

/-- An item, and what it belongs to if it belongs to anything. -/
inductive Owned (α : Type u) where
  | free (item : α)
  | under (item : α) (owner : Owned α)
  deriving DecidableEq, Repr

namespace Owned

variable {α : Type u} {β : Type v}

/-- The thing itself. -/
def item : Owned α → α
  | free a => a
  | under a _ => a

/-- What it belongs to. -/
def owner? : Owned α → Option (Owned α)
  | free _ => none
  | under _ o => some o

/-- All items, the thing itself first and its owner next. -/
def chain : Owned α → List α
  | free a => [a]
  | under a o => a :: chain o

/-- The same chain seen through a function. -/
def map (f : α → β) : Owned α → Owned β
  | free a => free (f a)
  | under a o => under (f a) (map f o)

/-- The thing itself, put under an owner. -/
def withOwner (x owner : Owned α) : Owned α := under x.item owner

@[simp] theorem item_map (f : α → β) (x : Owned α) : (x.map f).item = f x.item := by
  cases x <;> rfl

@[simp] theorem owner?_map (f : α → β) (x : Owned α) :
    (x.map f).owner? = x.owner?.map (map f) := by
  cases x <;> rfl

@[simp] theorem chain_map (f : α → β) (x : Owned α) : (x.map f).chain = x.chain.map f := by
  induction x with
  | free a => rfl
  | under a o ih => simp [map, chain, ih]

end Owned

end Tenancy
