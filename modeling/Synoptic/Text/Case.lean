import Synoptic.Text.Blank
import Synoptic.Text.CaseTable

namespace Synoptic.Text

def CaseRange.covers (r : CaseRange) (c : Nat) : Bool :=
  r.first ≤ c && c ≤ r.last && (c - r.first) % r.step == 0

def lowerChar (c : Char) : List Char :=
  if c.toNat < 128 then [c.toLower]
  else if c.toNat == 0x130 then ['i', Char.ofNat 0x307]
  else
    match lowerRanges.find? (·.covers c.toNat) with
    | some r => [Char.ofNat ((c.toNat : Int) + r.shift).toNat]
    | none => [c]

def meetsCased (s : List Char) : Bool :=
  match s.dropWhile fun c => inRanges ignorableRanges c.toNat with
  | [] => false
  | c :: _ => inRanges casedRanges c.toNat

/-- Lower case of text, given what stands before it in reverse. A capital sigma becomes the final
small one where a word ends with it. -/
def lowerAfter (before : List Char) : List Char → List Char
  | [] => []
  | c :: rest =>
    let lowered :=
      if c.toNat == 0x3A3 then
        [Char.ofNat (if meetsCased before && !meetsCased rest then 0x3C2 else 0x3C3)]
      else lowerChar c
    lowered ++ lowerAfter (c :: before) rest

def lower (s : List Char) : List Char := lowerAfter [] s

def fold (s : String) : String := String.ofList (lower (trim s.toList))

def lowered (s : String) : String := String.ofList (lower s.toList)

def lowerAscii (s : List Char) : List Char := s.map Char.toLower

def sameAscii (a b : String) : Bool := lowerAscii a.toList == lowerAscii b.toList

end Synoptic.Text
