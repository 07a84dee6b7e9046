import Synoptic.Descriptor.Serial
import Synoptic.Expr
import Synoptic.Yaml.Resolution

namespace Synoptic.Expr

variable {α : Type} [Number α]

def content? (name : String) : Document α → Option (Document α)
  | .record entries =>
    match Document.recordFields? [name] entries with
    | some [v] => v
    | _ => none
  | _ => none

def constant? (d : Document α) : Option (Expr α) := do
  let v ← content? "constant" d
  some (.constant (← v.real?))

def field? (d : Document α) : Option (Expr α) := do
  let v ← content? "field" d
  some (.field (← Descriptor.ofDocument? v))

def callParts? (d : Document α) : Option (String × List (Document α)) := do
  let v ← content? "call" d
  match ← v.fields? ["name", "args"] with
  | [some name, args] => some (← name.text?, ← (args.getD (.list [])).items?)
  | _ => none

/-- Reads an expression no deeper than the fuel: a number, else a field, else a call, whichever the
record gives first in this order. -/
def readWithin? : Nat → Document α → Option (Expr α)
  | 0, _ => none
  | fuel + 1, d =>
    constant? d <|> field? d <|> do
      let (name, args) ← callParts? d
      some (.call name (← args.mapM (readWithin? fuel)))

def ofDocument? (d : Document α) : Option (Expr α) := readWithin? (d.depth + 1) d

def ofYaml? (text : String) : Option (Expr α) := do
  let n ← Yaml.Node.ofString? text
  ofDocument? (← n.document? Yaml.Node.depthLimit)

mutual

def document : Expr α → Document α
  | .constant x => .ofFields [("constant", .real x)]
  | .field d => .ofFields [("field", d.document)]
  | .call name args =>
    .ofFields [("call", .ofFields [("name", .text name), ("args", .list (documents args))])]

def documents : List (Expr α) → List (Document α)
  | [] => []
  | e :: es => e.document :: documents es

end

end Synoptic.Expr
