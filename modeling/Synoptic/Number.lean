/-!
Numbers: the arithmetic, comparisons and elementary functions that fields are computed with.

Every numerical definition of the library is stated over this interface. Binary64 floating point
is the instance that runs; the reals, or any other field with these functions, can be put in its
place, and the very same definitions then speak about exact arithmetic.
-/

namespace Synoptic

/-- Numbers that fields are made of. Comparisons need not be total: an undefined number compares
false with everything, itself included. -/
class Number (α : Type) where
  add : α → α → α
  sub : α → α → α
  mul : α → α → α
  div : α → α → α
  neg : α → α
  lt : α → α → Prop
  le : α → α → Prop
  beq : α → α → Bool
  natCast : Nat → α
  decLT : ∀ a b, Decidable (lt a b)
  decLE : ∀ a b, Decidable (le a b)
  ofScientific : Nat → Bool → Nat → α
  pi : α
  abs : α → α
  sqrt : α → α
  exp : α → α
  log : α → α
  log10 : α → α
  sin : α → α
  cos : α → α
  tan : α → α
  asin : α → α
  acos : α → α
  atan : α → α
  sinh : α → α
  cosh : α → α
  tanh : α → α
  pow : α → α → α
  hypot : α → α → α
  atan2 : α → α → α
  /-- Remainder of a division truncated toward zero. -/
  rem : α → α → α
  floor : α → α
  toIndex : α → Nat
  round : α → Int
  totalLE : α → α → Bool
  /-- What is read outside an array. -/
  absent : α
  text : α → String
  ofChars? : List Char → Option α

namespace Number

-- The operators are found here only where a type has none of its own.
instance (priority := 10) instAdd {α : Type} [Number α] : Add α := ⟨Number.add⟩

instance (priority := 10) instSub {α : Type} [Number α] : Sub α := ⟨Number.sub⟩

instance (priority := 10) instMul {α : Type} [Number α] : Mul α := ⟨Number.mul⟩

instance (priority := 10) instDiv {α : Type} [Number α] : Div α := ⟨Number.div⟩

instance (priority := 10) instNeg {α : Type} [Number α] : Neg α := ⟨Number.neg⟩

instance (priority := 10) instLT {α : Type} [Number α] : LT α := ⟨Number.lt⟩

instance (priority := 10) instLE {α : Type} [Number α] : LE α := ⟨Number.le⟩

instance (priority := 10) instBEq {α : Type} [Number α] : BEq α := ⟨Number.beq⟩

instance (priority := 10) instCoeTail {α : Type} [Number α] : CoeTail Nat α := ⟨Number.natCast⟩

instance (priority := 10) instDecidableLT {α : Type} [Number α] : DecidableLT α := Number.decLT

instance (priority := 10) instDecidableLE {α : Type} [Number α] : DecidableLE α := Number.decLE

instance (priority := 10) instOfNat {α : Type} [Number α] (n : Nat) : OfNat α n :=
  ⟨Number.natCast n⟩

instance (priority := 10) instOfScientific {α : Type} [Number α] : OfScientific α :=
  ⟨Number.ofScientific⟩

variable {α : Type} [Number α]

/-- The larger of two numbers, the second one if they are equal; an undefined one gives way to the
other. -/
def maximum (a b : α) : α := if a ≤ b then b else if a == a then a else b

def minimum (a b : α) : α := if b ≤ a then b else if a == a then a else b

def clamp (x lo hi : α) : α :=
  let y := if x < lo then lo else x
  if hi < y then hi else y

def toRadians (degrees : α) : α := degrees * (pi / 180)

def toDegrees (radians : α) : α := radians * (180 / pi)

def read (xs : Array α) (i : Nat) : α := xs.getD i absent

end Number

end Synoptic
