import Synoptic.Number
import Synoptic.Text.Case

namespace Synoptic

/-- Where a level lies. Pressures are in pascals; the bounds of a layer are in order of pressure. -/
inductive LevelKind (α : Type)
  | surface
  | meanSeaLevel
  | pressure (pa : α)
  | layer (upper lower : α)
  | other
  deriving DecidableEq

structure Level (α : Type) where
  name : String
  kind : LevelKind α
  deriving DecidableEq

namespace Level

variable {α : Type} [Number α]

def ofPressure (pa : α) : Level α := ⟨Number.text (pa / 100) ++ "mb", .pressure pa⟩

def upper? (l : Level α) : Option (Level α) :=
  match l.kind with
  | .layer upper _ => some (ofPressure upper)
  | _ => none

def lower? (l : Level α) : Option (Level α) :=
  match l.kind with
  | .layer _ lower => some (ofPressure lower)
  | _ => none

def dropEnding? (ending s : List Char) : Option (List Char) :=
  if ending.isSuffixOf s then some (s.take (s.length - ending.length)) else none

def readPressure (s : List Char) : Option α :=
  let body := Text.lowerAscii (Text.trim s)
  let digits := (dropEnding? ['h', 'p', 'a'] body <|> dropEnding? ['m', 'b'] body).getD body
  match Number.ofChars? (Text.trim digits) with
  | some p => if (0 : α) < p then some (p * 100) else none
  | none => none

def splitHyphen? (s : List Char) : Option (List Char × List Char) :=
  match s.dropWhile (· ≠ '-') with
  | [] => none
  | _ :: after => some (s.takeWhile (· ≠ '-'), after)

/-- What a name in lower case stands for: a named level, else a pressure, else a layer between two
pressures. -/
def readKind (s : List Char) : LevelKind α :=
  let name := String.ofList s
  if name = "surface" ∨ name = "sfc" then .surface
  else if name = "msl" then .meanSeaLevel
  else
    match readPressure s with
    | some pa => .pressure pa
    | none =>
      match splitHyphen? s with
      | none => .other
      | some (a, b) =>
        match readPressure a, readPressure b with
        | some pa, some pb => .layer (Number.minimum pa pb) (Number.maximum pa pb)
        | _, _ => .other

def read (name : String) : Level α :=
  let body := Text.trim name.toList
  ⟨String.ofList body, readKind (Text.lowerAscii body)⟩

end Level

end Synoptic
