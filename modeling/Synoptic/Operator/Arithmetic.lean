import Synoptic.Operator

namespace Synoptic

inductive BinaryOp
  | power | plus | minus | multiply | divide | max | min
  deriving DecidableEq

namespace BinaryOp

variable {α : Type} [Number α]

def name : BinaryOp → String
  | .power => "power"
  | .plus => "plus"
  | .minus => "minus"
  | .multiply => "multiply"
  | .divide => "divide"
  | .max => "max"
  | .min => "min"

def eval : BinaryOp → α → α → α
  | .power => Number.pow
  | .plus => (· + ·)
  | .minus => (· - ·)
  | .multiply => (· * ·)
  | .divide => (· / ·)
  | .max => Number.maximum
  | .min => Number.minimum

def rejectsZero : BinaryOp → Bool
  | .divide => true
  | _ => false

def checkDivisor (op : BinaryOp) (divisor : Operand α) : Except (ValueError α) Unit :=
  if op.rejectsZero && divisor.hasZero then .error (.divideByZero op.name) else .ok ()

def combine (op : BinaryOp) (left right : Value α) (ctx : Context α) :
    Except (ValueError α) (Value α) := do
  match left, right with
  | .scalar a, .spline s =>
    op.checkDivisor (.data s.coeffs)
    .ok (.spline (s.mapCoeffs fun c => op.eval a c))
  | .spline s, .scalar b =>
    op.checkDivisor (.const b)
    .ok (.spline (s.mapCoeffs fun c => op.eval c b))
  | .spline p, .spline q =>
    if p.sameShape q then
      op.checkDivisor (.data q.coeffs)
      .ok (.spline (Spline.zipCoeffs op.eval p q))
    else combineAligned left right
  | _, _ => combineAligned left right
where
  combineAligned (left right : Value α) : Except (ValueError α) (Value α) := do
    let aligned ← align op.name [left, right] ctx
    op.checkDivisor (aligned.operands.getD 1 (.const 1))
    .ok (aligned.apply fun xs => op.eval (xs.getD 0 Number.absent) (xs.getD 1 Number.absent))

def run (op : BinaryOp) (args : List (Value α)) (ctx : Context α) :
    Except (ValueError α) (Value α) :=
  match args with
  | [left, right] => op.combine left right ctx
  | _ => .error (.arity op.name 2 args.length)

def operator (op : BinaryOp) (signature doc : String) : Operator α :=
  ⟨op.name, signature, doc, [true, true], .field op.run⟩

end BinaryOp

def arithmeticOperators {α : Type} [Number α] : List (Operator α) :=
  [BinaryOp.power.operator "power(base, exponent) -> Value"
      "Element-wise base raised to exponent",
    BinaryOp.plus.operator "plus(a, b) -> Value" "Element-wise sum",
    BinaryOp.minus.operator "minus(a, b) -> Value" "Element-wise difference",
    BinaryOp.multiply.operator "multiply(a, b) -> Value" "Element-wise product",
    BinaryOp.divide.operator "divide(a, b) -> Value"
      "Element-wise quotient; any zero divisor element is an error",
    BinaryOp.max.operator "max(a, b) -> Value" "Element-wise maximum",
    BinaryOp.min.operator "min(a, b) -> Value" "Element-wise minimum"]

end Synoptic
