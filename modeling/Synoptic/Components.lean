import Synoptic.Text.Case

namespace Synoptic

inductive Axis
  | x | y
  deriving DecidableEq

def Axis.arrange {β : Type} (axis : Axis) (mine theirs : β) : β × β :=
  match axis with
  | .x => (mine, theirs)
  | .y => (theirs, mine)

def Axis.select {β : Type} (axis : Axis) (pair : β × β) : β :=
  match axis with
  | .x => pair.1
  | .y => pair.2

structure VectorElement where
  x : String
  y : String
  deriving DecidableEq

structure ComponentTable where
  entries : List (String × VectorElement)
  deriving DecidableEq

namespace ComponentTable

def empty : ComponentTable := ⟨[]⟩

def set (t : ComponentTable) (key : String) (v : VectorElement) : ComponentTable :=
  if t.entries.any (·.1 == key) then
    ⟨t.entries.map fun e => if e.1 == key then (key, v) else e⟩
  else ⟨t.entries ++ [(key, v)]⟩

def insert (t : ComponentTable) (element x y : String) : ComponentTable :=
  t.set (Text.fold element) ⟨x, y⟩

def vector? (t : ComponentTable) (element : String) : Option VectorElement :=
  (t.entries.find? fun e => Text.fold e.1 == Text.fold element).map (·.2)

/-- The other component of the vector that an element is a component of, and which one it is
itself. -/
def partner? (t : ComponentTable) (element : String) : Option (String × Axis) :=
  t.entries.findSome? fun (_, v) =>
    if Text.fold v.x == Text.fold element then some (v.y, .x)
    else if Text.fold v.y == Text.fold element then some (v.x, .y)
    else none

end ComponentTable

end Synoptic
