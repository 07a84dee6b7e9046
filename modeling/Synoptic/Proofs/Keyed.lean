import Mathlib.Data.List.Basic

namespace Synoptic.Keyed

variable {κ ν : Type}

theorem find?_map (entries : List (κ × ν)) (p : κ → Bool) {f : κ × ν → κ × ν}
    (hf : ∀ e, (f e).1 = e.1) :
    (entries.map f).find? (fun e => p e.1) = (entries.find? fun e => p e.1).map f := by
  rw [List.find?_map]
  congr 2
  funext e
  rw [Function.comp_apply, hf]

variable [BEq κ]

def set (entries : List (κ × ν)) (key : κ) (value : ν) : List (κ × ν) :=
  if entries.any (·.1 == key) then entries.map fun e => if e.1 == key then (key, value) else e
  else entries ++ [(key, value)]

variable [LawfulBEq κ]

theorem key_replaced (key : κ) (value : ν) (e : κ × ν) :
    (if e.1 == key then (key, value) else e).1 = e.1 := by
  split
  · rename_i he
    exact (beq_iff_eq.mp he).symm
  · rfl

theorem find?_set (entries : List (κ × ν)) (key : κ) (value : ν) (p : κ → Bool) :
    (set entries key value).find? (fun e => p e.1) =
      ((entries.find? fun e => p e.1).map fun e => if e.1 == key then (key, value) else e).or
        (if p key then some (key, value) else none) := by
  rw [set]
  split
  · rename_i hany
    rw [find?_map entries p (key_replaced key value)]
    split
    · rename_i hkey
      obtain ⟨e, he, hek⟩ := List.any_eq_true.mp hany
      have hsome : (entries.find? fun e => p e.1).isSome = true := by
        rw [List.find?_isSome]
        exact ⟨e, he, by rw [beq_iff_eq.mp hek, hkey]⟩
      obtain ⟨found, hfound⟩ := Option.isSome_iff_exists.mp hsome
      rw [hfound, Option.map_some, Option.some_or]
    · rw [Option.or_none]
  · rename_i hany
    rw [List.find?_append, List.find?_singleton]
    congr 1
    cases hfound : entries.find? fun e => p e.1 with
    | none => rfl
    | some e =>
      rw [Option.map_some, if_neg]
      exact fun he => hany (List.any_eq_true.mpr ⟨e, List.mem_of_find?_eq_some hfound, he⟩)

end Synoptic.Keyed
