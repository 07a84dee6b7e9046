import Synoptic.Operator

namespace Synoptic

variable {α : Type} [Number α]

open Number

def steamPoint : α := 373.16

def steamPointPressure : α := 1013.246

def saturationVapourPressure (t : α) : α :=
  let ratio := steamPoint / t
  let logPressure :=
    -7.90298 * (ratio - 1) + 5.02808 * log10 ratio -
      1.3816e-7 * (pow 10 (11.344 * (1 - 1 / ratio)) - 1) +
      8.1328e-3 * (pow 10 (-3.49149 * (ratio - 1)) - 1) + log10 steamPointPressure
  pow 10 logPressure * 100

/-- There is no vapour pressure at or below the absolute zero; the first such element is told. -/
def vapourPressure (args : List (Value α)) (ctx : Context α) : Except (ValueError α) (Value α) :=
  match args with
  | [_] => do
    let aligned ← align "svprs" args ctx
    match (aligned.operands.getD 0 (.const 1)).find? (· ≤ 0) with
    | some value => .error (.outOfDomain "svprs" value)
    | none => .ok (aligned.apply fun xs => saturationVapourPressure (xs.getD 0 absent))
  | _ => .error (.arity "svprs" 1 args.length)

def vapourOperators : List (Operator α) :=
  [⟨"svprs", "svprs(t) -> Value",
      "Saturation vapour pressure (Pa) over water of a temperature (K)", [true],
      .field vapourPressure⟩]

end Synoptic
