import Synoptic.Number

namespace Synoptic

inductive Document (α : Type)
  | null
  | bool (b : Bool)
  | natural (n : Nat)
  /-- A whole number below zero, or a zero written with a minus sign. -/
  | negated (n : Nat)
  | real (x : α)
  | text (s : String)
  | list (items : List (Document α))
  | record (entries : List (Document α × Document α))

namespace Document

variable {α : Type}

mutual

def depth : Document α → Nat
  | .list items => depthAll items + 1
  | .record entries => depthEntries entries + 1
  | _ => 0

def depthAll : List (Document α) → Nat
  | [] => 0
  | d :: ds => max d.depth (depthAll ds)

def depthEntries : List (Document α × Document α) → Nat
  | [] => 0
  | (k, v) :: es => max (max k.depth v.depth) (depthEntries es)

end

def ofFields (fields : List (String × Document α)) : Document α :=
  .record (fields.map fun (name, d) => (.text name, d))

def ofOption {β : Type} (f : β → Document α) : Option β → Document α
  | some b => f b
  | none => .null

def isNull : Document α → Bool
  | .null => true
  | _ => false

def bool? : Document α → Option Bool
  | .bool b => some b
  | _ => none

def text? : Document α → Option String
  | .text s => some s
  | _ => none

def items? : Document α → Option (List (Document α))
  | .list items => some items
  | _ => none

def count? : Document α → Option Nat
  | .natural n => if n < Nat.pow 2 64 then some n else none
  | .negated 0 => some 0
  | _ => none

def real? [Number α] : Document α → Option α
  | .natural n => some (n : α)
  | .negated 0 => some 0
  | .negated n => some (-(n : α))
  | .real x => some x
  | _ => none

def optional? {β : Type} (f : Document α → Option β) : Document α → Option (Option β)
  | .null => some none
  | d => (f d).map some

/-- Keys that can name a field: texts, and numbers without a sign, which count fields from zero. -/
def isKey : Document α → Bool
  | .text _ => true
  | .natural _ => true
  | _ => false

def isKeyOf (name : String) (place : Nat) : Document α → Bool
  | .text s => s == name
  | .natural n => n == place
  | _ => false

def recordFields? (names : List String) (entries : List (Document α × Document α)) :
    Option (List (Option (Document α))) :=
  if entries.all (·.1.isKey) then
    names.zipIdx.mapM fun (name, place) =>
      match entries.filter (·.1.isKeyOf name place) with
      | [] => some none
      | [(_, v)] => some (some v)
      | _ => none
  else none

/-- The values of the fields of a structure, written as a record or as a list in the order of the
names. A shorter list leaves out the last fields. -/
def fields? (names : List String) : Document α → Option (List (Option (Document α)))
  | .record entries => recordFields? names entries
  | .list items =>
    if items.length ≤ names.length then
      some (items.map some ++ List.replicate (names.length - items.length) none)
    else none
  | _ => none

end Document

structure Reader (ν α : Type) where
  real? : ν → Option α
  count? : ν → Option Nat
  fields? : List String → ν → Option (List (Option ν))

def Document.reader {α : Type} [Number α] : Reader (Document α) α :=
  ⟨Document.real?, Document.count?, Document.fields?⟩

end Synoptic
