import Synoptic.Yaml.Token

/-!
Trees of a part of YAML: block and flow collections of plain and quoted scalars. Block scalars,
anchors, aliases, tags and directives are refused. A plain scalar keeps its text, for what it stands
for depends on what is asked for.
-/

namespace Synoptic.Yaml

inductive Node
  | plain (text : String)
  | quoted (text : String)
  | list (items : List Node)
  | map (entries : List (Node × Node))

namespace Node

def blank : Node := .plain ""

inductive Setting
  | flow | block | mapValue
  deriving DecidableEq

def endsItem : List Token → Bool
  | .item :: _ | .blockEnd :: _ => true
  | _ => false

def endsBareItem : List Token → Bool
  | .item :: _ | .key :: _ | .value :: _ | .blockEnd :: _ => true
  | _ => false

def endsEntry : List Token → Bool
  | .key :: _ | .value :: _ | .blockEnd :: _ => true
  | _ => false

def endsPairKey : List Token → Bool
  | .value :: _ | .comma :: _ | .closeList :: _ => true
  | _ => false

def endsPair : List Token → Bool
  | .comma :: _ | .closeList :: _ => true
  | _ => false

def endsFlowKey : List Token → Bool
  | .value :: _ | .comma :: _ | .closeMap :: _ => true
  | _ => false

def endsFlowValue : List Token → Bool
  | .comma :: _ | .closeMap :: _ => true
  | _ => false

mutual

/-- The node that tokens start with, and the tokens after it. No tokens need more fuel than four
times their number. -/
def read? : Nat → Setting → List Token → Option (Node × List Token)
  | 0, _, _ => none
  | fuel + 1, setting, ts =>
    match ts with
    | .scalar true text :: ts => some (.plain text, ts)
    | .scalar false text :: ts => some (.quoted text, ts)
    | .openList :: ts => do
      let (items, ts) ← readFlowItems? fuel true ts
      some (.list items, ts)
    | .openMap :: ts => do
      let (entries, ts) ← readFlowEntries? fuel true ts
      some (.map entries, ts)
    | .blockList :: ts =>
      if setting = .flow then none
      else do
        let (items, ts) ← readItems? fuel ts
        some (.list items, ts)
    | .blockMap :: ts =>
      if setting = .flow then none
      else do
        let (entries, ts) ← readEntries? fuel ts
        some (.map entries, ts)
    | .item :: _ =>
      if setting = .mapValue then do
        let (items, ts) ← readBareItems? fuel ts
        some (.list items, ts)
      else none
    | _ => none

def readUnless? : Nat → Bool → Setting → List Token → Option (Node × List Token)
  | 0, _, _, _ => none
  | fuel + 1, absent, setting, ts => if absent then some (blank, ts) else read? fuel setting ts

def readItems? : Nat → List Token → Option (List Node × List Token)
  | 0, _ => none
  | fuel + 1, ts =>
    match ts with
    | .item :: ts => do
      let (v, ts) ← readUnless? fuel (endsItem ts) .block ts
      let (vs, ts) ← readItems? fuel ts
      some (v :: vs, ts)
    | .blockEnd :: ts => some ([], ts)
    | _ => none

def readBareItems? : Nat → List Token → Option (List Node × List Token)
  | 0, _ => none
  | fuel + 1, ts =>
    match ts with
    | .item :: ts => do
      let (v, ts) ← readUnless? fuel (endsBareItem ts) .block ts
      let (vs, ts) ← readBareItems? fuel ts
      some (v :: vs, ts)
    | ts => some ([], ts)

def readEntries? : Nat → List Token → Option (List (Node × Node) × List Token)
  | 0, _ => none
  | fuel + 1, ts =>
    match ts with
    | .key :: ts => do
      let (k, ts) ← readUnless? fuel (endsEntry ts) .mapValue ts
      let (v, ts) ←
        match ts with
        | .value :: ts => readUnless? fuel (endsEntry ts) .mapValue ts
        | ts => some (blank, ts)
      let (es, ts) ← readEntries? fuel ts
      some ((k, v) :: es, ts)
    | .blockEnd :: ts => some ([], ts)
    | _ => none

def readFlowItems? : Nat → Bool → List Token → Option (List Node × List Token)
  | 0, _, _ => none
  | fuel + 1, first, ts =>
    match ts with
    | .closeList :: ts => some ([], ts)
    | .comma :: .closeList :: ts => if first then none else some ([], ts)
    | .comma :: ts => if first then none else readFlowItem? fuel ts
    | ts => if first then readFlowItem? fuel ts else none

/-- An item of a flow list, which may be a single pair, and the items after it. Where the key of a pair
is blank, the token that shows so goes with it. -/
def readFlowItem? : Nat → List Token → Option (List Node × List Token)
  | 0, _ => none
  | fuel + 1, ts =>
    match ts with
    | .key :: ts => do
      let (k, ts) ← if endsPairKey ts then some (blank, ts.tail) else read? fuel .flow ts
      let (v, ts) ←
        match ts with
        | .value :: ts => readUnless? fuel (endsPair ts) .flow ts
        | ts => some (blank, ts)
      let (vs, ts) ← readFlowItems? fuel false ts
      some (.map [(k, v)] :: vs, ts)
    | ts => do
      let (v, ts) ← read? fuel .flow ts
      let (vs, ts) ← readFlowItems? fuel false ts
      some (v :: vs, ts)

def readFlowEntries? : Nat → Bool → List Token → Option (List (Node × Node) × List Token)
  | 0, _, _ => none
  | fuel + 1, first, ts =>
    match ts with
    | .closeMap :: ts => some ([], ts)
    | .comma :: .closeMap :: ts => if first then none else some ([], ts)
    | .comma :: ts => if first then none else readFlowEntry? fuel ts
    | ts => if first then readFlowEntry? fuel ts else none

def readFlowEntry? : Nat → List Token → Option (List (Node × Node) × List Token)
  | 0, _ => none
  | fuel + 1, ts =>
    match ts with
    | .key :: ts => do
      let (k, ts) ← readUnless? fuel (endsFlowKey ts) .flow ts
      let (v, ts) ←
        match ts with
        | .value :: ts => readUnless? fuel (endsFlowValue ts) .flow ts
        | ts => some (blank, ts)
      let (es, ts) ← readFlowEntries? fuel false ts
      some ((k, v) :: es, ts)
    | ts => do
      let (k, ts) ← read? fuel .flow ts
      let (es, ts) ← readFlowEntries? fuel false ts
      some ((k, blank) :: es, ts)

end

def isDocumentEnd : Token → Bool
  | .documentEnd => true
  | _ => false

/-- The only document of a text, without the marks around it. One that ends with a mark but does not
start with one is not blank. -/
def ofTokens? (ts : List Token) : Option Node := do
  let (marked, ts) :=
    match ts with
    | .documentStart :: ts => (true, ts)
    | ts => (false, ts)
  let (root, ts) ←
    match ts with
    | [] => some (blank, ts)
    | .documentStart :: _ | .documentEnd :: _ => if marked then some (blank, ts) else none
    | ts => read? (4 * ts.length + 4) .block ts
  if ts.all isDocumentEnd then some root else none

def ofString? (text : String) : Option Node := do ofTokens? (← tokens? text)

end Node

end Synoptic.Yaml
