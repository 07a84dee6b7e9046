import Synoptic.Descriptor

namespace Synoptic

inductive Expr (α : Type)
  | constant (x : α)
  | field (d : Descriptor α)
  | call (name : String) (args : List (Expr α))

namespace Expr

variable {α : Type}

mutual

def fields : Expr α → List (Descriptor α)
  | .constant _ => []
  | .field d => [d]
  | .call _ args => fieldsAll args

def fieldsAll : List (Expr α) → List (Descriptor α)
  | [] => []
  | e :: es => e.fields ++ fieldsAll es

end

mutual

def display [Number α] : Expr α → String
  | .constant x => Number.text x
  | .field d => s!"[{d.element} {d.level}]"
  | .call name args => name ++ "(" ++ ", ".intercalate (displayAll args) ++ ")"

def displayAll [Number α] : List (Expr α) → List String
  | [] => []
  | e :: es => e.display :: displayAll es

end

end Expr

end Synoptic
