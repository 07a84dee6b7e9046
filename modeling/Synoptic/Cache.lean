import Synoptic.Descriptor

namespace Synoptic

structure CacheEntry (α : Type) where
  descriptor : Descriptor α
  projection : Projection α
  field : Field α

structure Cache (α : Type) where
  slots : List (Option (CacheEntry α))
  lastHit : Option Nat

variable {α : Type}

def CacheEntry.stamped [Number α] (descriptor : Descriptor α) (projection : Projection α)
    (field : Field α) : CacheEntry α := ⟨descriptor, field.stamp projection, field⟩

namespace Cache

def empty : Cache α := ⟨[], none⟩

def size (c : Cache α) : Nat := c.slots.countP (·.isSome)

def capacity (c : Cache α) : Nat := c.slots.length

def get? (c : Cache α) (i : Nat) : Option (CacheEntry α) := (c.slots[i]?).join

def entries (c : Cache α) : List (CacheEntry α) := c.slots.filterMap id

def start (c : Cache α) : Nat :=
  match c.lastHit with
  | some i => if i < c.capacity then i else 0
  | none => 0

/-- Slots in the order of a search: from the start to the end, then from the beginning. -/
def searchOrder (c : Cache α) : List Nat :=
  (List.range c.capacity).map fun k => (c.start + k) % c.capacity

def scan? (c : Cache α) (p : Descriptor α → Bool) : Option Nat :=
  c.searchOrder.find? fun i =>
    match c.get? i with
    | some e => p e.descriptor
    | none => false

def lookup (c : Cache α) (d : Descriptor α) : Option Nat × Cache α :=
  let found := c.scan? (·.SameField d)
  (found, { c with lastHit := found })

variable [Number α]

def add (c : Cache α) (d : Descriptor α) (projection : Projection α) (field : Field α) :
    Nat × Cache α :=
  let entry := CacheEntry.stamped d projection field
  match c.slots.findIdx? (·.isNone) with
  | some i => (i, { c with slots := c.slots.set i (some entry) })
  | none => (c.capacity, { c with slots := c.slots ++ [some entry] })

def replace (c : Cache α) (d : Descriptor α) (projection : Projection α) (field : Field α) :
    Nat × Cache α :=
  match c.scan? (·.Matches d) with
  | some i =>
    (i, { c with slots := c.slots.set i (some (.stamped d projection field)) })
  | none => c.add d projection field

omit [Number α]

def delete (c : Cache α) (d : Descriptor α) : Bool × Cache α :=
  match c.scan? (·.SameField d) with
  | some i => (true, { slots := c.slots.set i none, lastHit := none })
  | none => (false, { c with lastHit := none })

def clear (_ : Cache α) : Cache α := empty

end Cache

end Synoptic
