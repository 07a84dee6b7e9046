import Synoptic.Proofs.Alignment.Nodes
import Synoptic.Proofs.Bounds.Alignment

namespace Synoptic

variable {α : Type}

namespace Value

def elements : Value α → Array α
  | .scalar x => #[x]
  | .grid g => g.data
  | .spline s => s.coeffs
  | .samples s => s.values

def Covered : Value α → Prop
  | .grid g => g.nx * g.ny ≤ g.data.size
  | .samples s => s.points.size ≤ s.values.size
  | _ => True

def operand : Value α → Operand α
  | .scalar x => .const x
  | .grid g => .data g.data
  | .spline s => .data s.coeffs
  | .samples s => .data s.values

end Value

def Operand.elements : Operand α → Array α
  | .const x => #[x]
  | .data xs => xs

variable [Number α]

theorem Operand.hasZero_iff {o : Operand α} :
    o.hasZero = true ↔ ∃ d ∈ o.elements, (d == 0) = true := by
  cases o with
  | const x => simp [hasZero, elements]
  | data xs => exact Array.any_eq_true'

theorem Operand.elem_data {xs : Array α} {i : Nat} (hi : i < xs.size) :
    (Operand.data xs).elem i = xs[i] := by
  simp [elem, Number.read, hi]

theorem Aligned.elements_apply (a : Aligned α) (f : List α → α) :
    (a.apply f).elements = (Array.range a.layout.size).map fun i => f (a.row i) := by
  obtain ⟨layout, operands⟩ := a
  cases layout with
  | scalar =>
    have hone : Array.range 1 = #[0] := rfl
    simp [apply, Value.elements, Layout.size, Number.read, hone]
  | _ => rfl

inductive AtPoints : Value α → Operand α → Prop
  | number (x : α) : AtPoints (.scalar x) (.const x)
  | samples (s : Samples α) : AtPoints (.samples s) (.data s.values)

inductive AtNodes (ctx : Context α) (resample : Bool) : Value α → Operand α → Prop
  | number (x : α) : AtNodes ctx resample (.scalar x) (.const x)
  | grid {g g' : Grid α} (h : bring ctx resample g = .ok g') :
    AtNodes ctx resample (.grid g) (.data g'.data)
  | surface {s : Spline α} {g g' : Grid α} (hs : splineToGrid s ctx = .ok g)
    (h : bring ctx resample g = .ok g') : AtNodes ctx resample (.spline s) (.data g'.data)

/-- The operands of values that are all numbers, numbers and samples, or numbers and fields. Fields
are resampled just if their grids differ in shape. -/
inductive Laid (op : String) (ctx : Context α) {n : Nat} (values : Fin n → Value α)
    (operands : Fin n → Operand α) : Prop
  | numbers (x : Fin n → α) (hv : values = fun i => .scalar (x i))
    (ho : operands = fun i => .const (x i))
  | points (hs : ∃ i, (values i).isSamples = true) (h : ∀ i, AtPoints (values i) (operands i))
  | nodes (resample : Bool) (hr : resample = true ↔ Differ op ctx values)
    (hf : ∃ i, (values i).isField = true) (h : ∀ i, AtNodes ctx resample (values i) (operands i))

theorem BroughtFrom.atNodes {ctx : Context α} {resample : Bool} {v : Value α}
    {grid : Option (Grid α)} (h : BroughtFrom ctx resample v grid) :
    AtNodes ctx resample v (gridOperand v grid) := by
  cases h with
  | number x => exact .number x
  | grid h => exact .grid h
  | surface hs h => exact .surface hs h

theorem gridOf_renamed {op op' : String} {ctx : Context α} {v : Value α} {g : Option (Grid α)}
    (h : gridOf op ctx v = .ok g) : gridOf op' ctx v = .ok g := by
  cases v with
  | samples s => cases h
  | _ => exact h

theorem pointOperand_renamed {op op' : String} {first : Samples α} {v : Value α} {o : Operand α}
    (h : pointOperand op first v = .ok o) : pointOperand op' first v = .ok o := by
  rcases pointOperand_eq_ok h with ⟨x, rfl, rfl⟩ | ⟨s, rfl, hsame, rfl⟩
  · rfl
  · exact if_pos hsame

theorem BroughtFrom.covers {ctx : Context α} {resample : Bool} {v : Value α}
    {grid : Option (Grid α)} (h : BroughtFrom ctx resample v grid) (hv : v.Covered) {size : Nat}
    (hsize : ∀ g, grid = some g → g.nx * g.ny = size) : (gridOperand v grid).Covers size := by
  cases h with
  | number x => trivial
  | grid h =>
    rw [← hsize _ rfl]
    rcases eq_or_whole_of_bring h with rfl | hfull
    · exact hv
    · exact hfull.ge
  | surface hs h =>
    rw [← hsize _ rfl]
    rcases eq_or_whole_of_bring h with rfl | hfull
    · exact (whole_of_splineToGrid hs).ge
    · exact hfull.ge

section Aligning

variable {n : Nat} {op op' : String} {values : Fin n → Value α} {ctx : Context α} {a : Aligned α}

theorem align_renamed (h : align op (List.ofFn values) ctx = .ok a) :
    align op' (List.ofFn values) ctx = .ok a := by
  cases makeup values with
  | mixed hf hs =>
    obtain ⟨_, _, halign⟩ := align_mixed op values ctx hf hs
    rw [halign] at h
    cases h
  | fields hf hs =>
    rw [align_fields op values ctx hf hs] at h
    rw [align_fields op' values ctx hf hs]
    obtain ⟨sampled, grids, hsampled, hrest⟩ := alignGrids_eq_ok_iff.mp h
    exact alignGrids_eq_ok_iff.mpr ⟨sampled, grids, fun i => gridOf_renamed (hsampled i), hrest⟩
  | samples hf hs =>
    obtain ⟨j, hfind, hj⟩ := find?_ofFn_of_exists hs
    rw [align, find?_ofFn_of_forall hf, hfind] at h ⊢
    cases hv : values j with
    | samples first =>
      rw [hv] at h
      obtain ⟨_, hmap, h⟩ := ok_of_bind h
      obtain ⟨operands, rfl, hoperands⟩ := mapM_ofFn.mp hmap
      have hmap' : (List.ofFn values).mapM (pointOperand op' first) = .ok (List.ofFn operands) :=
        mapM_ofFn.mpr ⟨operands, rfl, fun i => pointOperand_renamed (hoperands i)⟩
      exact (congrArg (· >>= _) hmap').trans h
    | _ =>
      rw [hv] at hj
      cases hj
  | numbers x hx =>
    subst hx
    rw [align_numbers] at h ⊢
    exact h

variable [PartialEquivBEq α]

theorem align_laid (h : align op (List.ofFn values) ctx = .ok a) :
    ∃ operands, a.operands = List.ofFn operands ∧ Laid op ctx values operands ∧
      ((∀ i, (values i).Covered) → ∀ i, (operands i).Covers a.layout.size) := by
  cases makeup values with
  | mixed hf hs =>
    obtain ⟨_, _, halign⟩ := align_mixed op values ctx hf hs
    rw [halign] at h
    cases h
  | fields hf hs =>
    rw [align_fields op values ctx hf hs] at h
    obtain ⟨sampled, grids, hsampled, hgrids, first, rest, hfirst, rfl⟩ :=
      alignGrids_eq_ok_iff.mp h
    obtain ⟨j, hj⟩ := exists_first hfirst
    have hfrom := fun i => broughtFrom (hsampled i) (hgrids i)
    refine ⟨_, rfl, .nodes _ (differing_iff hsampled) hf fun i => (hfrom i).atNodes,
      fun hv i => (hfrom i).covers (hv i) fun g hg => ?_⟩
    obtain ⟨hnx, hny⟩ := (same_spec hgrids hg hj).shape
    exact congrArg₂ (· * ·) hnx hny
  | samples hf hs =>
    obtain ⟨_, first, _, halign⟩ := align_samples op values ctx hf hs
    rw [halign] at h
    obtain ⟨_, hmap, h⟩ := ok_of_bind h
    obtain ⟨operands, rfl, hoperands⟩ := mapM_ofFn.mp hmap
    cases h
    refine ⟨operands, rfl, .points hs fun i => ?_, fun hv i => ?_⟩
    · rcases pointOperand_eq_ok (hoperands i) with ⟨x, hx, ho⟩ | ⟨s, hs, _, ho⟩
      · rw [hx, ho]
        exact .number x
      · rw [hs, ho]
        exact .samples s
    · rcases pointOperand_eq_ok (hoperands i) with ⟨x, _, ho⟩ | ⟨s, hs, hsame, ho⟩
      · rw [ho]
        trivial
      · have hcovered := hv i
        rw [hs] at hcovered
        rw [ho]
        exact (Array.size_eq_of_beq hsame).ge.trans hcovered
  | numbers x hx =>
    subst hx
    rw [align_numbers] at h
    cases h
    exact ⟨_, rfl, .numbers x rfl rfl, fun _ _ => trivial⟩

end Aligning

end Synoptic
