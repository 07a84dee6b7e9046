import Synoptic.Text.Ranges
import Synoptic.Text.PrintTable

namespace Synoptic.Text

def isUnseen (c : Char) : Bool :=
  inRanges hiddenRanges c.toNat || inRanges extendingRanges c.toNat ||
    inRanges fillerRanges c.toNat

def quotedChar (c : Char) : List Char :=
  if c == '"' || c == '\\' then ['\\', c]
  else if c == '\n' then ['\\', 'n']
  else if c == '\r' then ['\\', 'r']
  else if c == '\t' then ['\\', 't']
  else if c.toNat == 0 then ['\\', '0']
  else if isUnseen c then
    ['\\', 'u', '\x7b'] ++ Nat.toDigits 16 c.toNat ++ ['\x7d']
  else [c]

def quoted (s : String) : String :=
  String.ofList ('"' :: s.toList.flatMap quotedChar ++ ['"'])

end Synoptic.Text
