import Synoptic.Operator

namespace Synoptic

variable {α : Type} [Number α]

def between (x lo hi : α) : α := Number.minimum (Number.maximum x lo) hi

/-- What lies strictly between the bounds goes to the nearer one; the midpoint goes up. -/
def outside (x lo hi : α) : α :=
  if lo < x ∧ x < hi then
    let mid := (lo + hi) / 2
    if x < mid then lo else hi
  else x

def runTernary (name : String) (f : α → α → α → α) (args : List (Value α)) (ctx : Context α) :
    Except (ValueError α) (Value α) :=
  match args with
  | [_, _, _] => do
    let aligned ← align name args ctx
    .ok (aligned.apply fun xs =>
      f (xs.getD 0 Number.absent) (xs.getD 1 Number.absent) (xs.getD 2 Number.absent))
  | _ => .error (.arity name 3 args.length)

def rangeOperators : List (Operator α) :=
  [⟨"between", "between(x, lo, hi) -> Value", "Clamp x into [lo, hi]", [true, true, true],
      .field (runTernary "between" between)⟩,
    ⟨"outside", "outside(x, lo, hi) -> Value", "Move values inside (lo, hi) to the nearer bound",
      [true, true, true], .field (runTernary "outside" outside)⟩]

end Synoptic
