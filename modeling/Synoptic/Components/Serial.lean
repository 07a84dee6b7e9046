import Synoptic.Components
import Synoptic.Yaml.Resolution

namespace Synoptic

def VectorElement.ofNode? (n : Yaml.Node) : Option VectorElement := do
  match ← n.fields? ["x", "y"] with
  | [some x, some y] => some ⟨← x.text?, ← y.text?⟩
  | _ => none

namespace ComponentTable

def ofNode? (n : Yaml.Node) : Option ComponentTable := do
  (← n.entries?).foldlM (fun t (key, v) => do some (t.set key (← VectorElement.ofNode? v))) empty

def ofYaml? (text : String) : Option ComponentTable := do ofNode? (← Yaml.Node.ofString? text)

def document {α : Type} (t : ComponentTable) : Document α :=
  .ofFields (t.entries.map fun (key, v) => (key, .ofFields [("x", .text v.x), ("y", .text v.y)]))

end ComponentTable

end Synoptic
