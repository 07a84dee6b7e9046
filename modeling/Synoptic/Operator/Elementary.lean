import Synoptic.Operator

namespace Synoptic

variable {α : Type} [Number α]

def elementary (name : String) (f : α → α) : Operator α :=
  ⟨name, name ++ "(x) -> Value", "Element-wise " ++ name, [true],
    .elementwise fun xs => f (xs.getD 0 Number.absent)⟩

def elementaryOperators : List (Operator α) :=
  open Number in
  [elementary "abs" abs, elementary "sqrt" sqrt, elementary "exp" exp, elementary "log" log,
    elementary "log10" log10, elementary "sin" fun x => sin (toRadians x),
    elementary "cos" fun x => cos (toRadians x), elementary "tan" fun x => tan (toRadians x),
    elementary "asin" fun x => toDegrees (asin x), elementary "acos" fun x => toDegrees (acos x),
    elementary "atan" fun x => toDegrees (atan x), elementary "sinh" sinh,
    elementary "cosh" cosh, elementary "tanh" tanh]

end Synoptic
