namespace Synoptic

/-- A path as it is written. Two spellings of the same components count as equal. -/
structure Path where
  chars : List Char

namespace Path

def ofString (s : String) : Path := ⟨s.toList⟩

def text (p : Path) : String := String.ofList p.chars

def isAbsolute (p : Path) : Bool := p.chars.head? == some '/'

/-- An absolute right side replaces the left; otherwise one slash stands between them. An empty
left side takes no slash, an empty right side leaves a closing one. -/
def join (p q : Path) : Path :=
  if q.isAbsolute then q
  else if p.chars.isEmpty || p.chars.getLast? == some '/' then ⟨p.chars ++ q.chars⟩
  else ⟨p.chars ++ '/' :: q.chars⟩

def pieces (s : List Char) : List (List Char) :=
  s.foldr (fun c acc =>
    if c = '/' then [] :: acc
    else
      match acc with
      | [] => [[c]]
      | piece :: rest => (c :: piece) :: rest) [[]]

inductive Component
  | root
  | here
  | name (chars : List Char)
  deriving DecidableEq

/-- Steps of a path: empty pieces and points do not count, but for a point that a relative path
starts with. -/
def components (p : Path) : List Component :=
  let ps := pieces p.chars
  let names := (ps.filter fun x => x ≠ [] ∧ x ≠ ['.']).map Component.name
  if p.isAbsolute then .root :: names
  else if ps.head? = some ['.'] then .here :: names
  else names

instance : BEq Path := ⟨fun p q => p.components == q.components⟩

end Path

end Synoptic
