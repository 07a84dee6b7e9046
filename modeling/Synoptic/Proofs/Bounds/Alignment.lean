import Synoptic.Proofs.Bounds.Sampling

namespace Synoptic

variable {ε α : Type}

def Operand.Covers (size : Nat) : Operand α → Prop
  | .const _ => True
  | .data xs => size ≤ xs.size

structure Aligned.Covers (a : Aligned α) (count : Nat) : Prop where
  count : a.operands.length = count
  covers : ∀ o ∈ a.operands, o.Covers a.layout.size

def Layout.hold [Number α] (data : Array α) : Layout α → Value α
  | .scalar => .scalar (Number.read data 0)
  | .grid spec => .grid ⟨spec.nx, spec.ny, spec.cell, data⟩
  | .points ps => .samples ⟨ps, data⟩

variable [Number α]

namespace Aligned

theorem apply_eq_hold (a : Aligned α) (f : List α → α) :
    a.apply f = a.layout.hold (((List.range a.layout.size).map fun i => f (a.row i)).toArray) := by
  have hdata : (Array.range a.layout.size).map (fun i => f (a.row i)) =
      ((List.range a.layout.size).map fun i => f (a.row i)).toArray := by
    apply Array.ext <;> simp
  rw [apply, hdata]
  cases a.layout <;> rfl

end Aligned

namespace Checked

def elem (i : Nat) : Operand α → Checked ε α
  | .const x => .ok x
  | .data xs => read xs i

def apply (a : Aligned α) (f : List α → Checked ε α) : Checked ε (Value α) := do
  let data ← (List.range a.layout.size).mapM fun i => do f (← a.operands.mapM (elem i))
  return a.layout.hold data.toArray

theorem elem_eq {o : Operand α} {size i : Nat} (h : o.Covers size) (hi : i < size) :
    (elem i o : Checked ε α) = .ok (o.elem i) := by
  cases o with
  | const x => rfl
  | data xs => exact read_array (Nat.lt_of_lt_of_le hi h)

theorem apply_eq {a : Aligned α} {count : Nat} (h : a.Covers count) {f' : List α → Checked ε α}
    {f : List α → α} (hf : ∀ xs, xs.length = count → f' xs = .ok (f xs)) :
    apply a f' = .ok (a.apply f) := by
  rw [apply, mapM_of_mem (g := fun i => f (a.row i)), Aligned.apply_eq_hold]
  · rfl
  · intro i hi
    rw [mapM_of_mem (g := (·.elem i)) fun o ho => elem_eq (h.covers o ho) (List.mem_range.mp hi),
      ok_bind]
    exact hf _ (by rw [List.length_map, h.count])

def gridOf (op : String) (ctx : Context α) : Value α → Checked (ValueError α) (Option (Grid α))
  | .scalar _ => .ok none
  | .grid g => .ok (some g)
  | .spline s => some <$> splineToGrid s ctx
  | .samples _ => .error (.error (.points op))

def normalizeGrid? (ctx : Context α) : Option (Grid α) → Checked (ValueError α) (Option (Grid α))
  | none => .ok none
  | some g => some <$> normalizeGrid g ctx

def commonShape (ctx : Context α) (grids : List (Option (Grid α))) :
    Checked (ValueError α) (List (Option (Grid α))) :=
  if uniform (grids.filterMap id) then .ok grids else grids.mapM (normalizeGrid? ctx)

def alignGrids (op : String) (values : List (Value α)) (ctx : Context α) :
    Checked (ValueError α) (Aligned α) := do
  let grids ← values.mapM (gridOf op ctx)
  let grids ← commonShape ctx grids
  match grids.filterMap id with
  | [] => .error (.error (.conversion .scalar .grid))
  | first :: _ =>
    .ok { layout := .grid first.spec, operands := List.zipWith gridOperand values grids }

def align (op : String) (values : List (Value α)) (ctx : Context α) :
    Checked (ValueError α) (Aligned α) :=
  match values.find? (·.isField), values.find? (·.isSamples) with
  | some field, some samples => .error (.error (.incompatible op field.kind samples.kind))
  | none, some (.samples first) => do
    let operands ← inRange (values.mapM (pointOperand op first))
    .ok { layout := .points first.points, operands }
  | some _, none => alignGrids op values ctx
  | none, _ => .ok { layout := .scalar, operands := (values.filterMap (·.asScalar?)).map .const }

end Checked

theorem defaultGrid_within {N : Nat} {ctx : Context α} (h : ctx.projection.Within N)
    {spec : GridSpec α} (hspec : ctx.defaultGrid = .ok spec) : spec.Within N :=
  h spec (Context.defaultGrid_eq_ok.mp hspec).1

theorem pointOperand_covers {op : String} {first : Samples α} {v : Value α} {ctx : Context α}
    (hv : v.Fits ctx) :
    Yields (pointOperand op first v) (·.Covers first.points.size) fun _ => True := by
  cases v with
  | scalar x => trivial
  | grid g => trivial
  | spline s => trivial
  | samples s =>
    simp only [pointOperand]
    split
    · rename_i hsame
      have hsize : s.points.size = first.points.size := Array.size_eq_of_beq hsame
      exact Nat.le_of_eq (hsize.symm.trans hv.2.symm)
    · trivial

theorem covers_zipWith_gridOperand {size : Nat} :
    ∀ {values : List (Value α)} {grids : List (Option (Grid α))},
      (∀ g ∈ grids, ∀ g', g = some g' → size ≤ g'.data.size) →
        ∀ o ∈ List.zipWith gridOperand values grids, o.Covers size
  | [], _, _ => by simp
  | _ :: _, [], _ => by simp
  | v :: values, g :: grids, h => by
    intro o ho
    cases ho with
    | head =>
      cases g with
      | some g => exact h _ List.mem_cons_self g rfl
      | none => cases v <;> trivial
    | tail _ ho =>
      exact covers_zipWith_gridOperand (fun g' hg' => h g' (List.mem_cons_of_mem g hg')) o ho

omit [Number α] in
theorem length_scalars : ∀ {values : List (Value α)},
    (∀ v ∈ values, v.isField = false ∧ v.isSamples = false) →
      (values.filterMap (·.asScalar?)).length = values.length
  | [], _ => rfl
  | v :: values, h => by
    obtain ⟨hfield, hsamples⟩ := h v List.mem_cons_self
    have ih := length_scalars fun w hw => h w (List.mem_cons_of_mem v hw)
    cases v with
    | scalar x => exact congrArg (· + 1) ih
    | grid g => cases hfield
    | spline s => cases hfield
    | samples s => cases hsamples

omit [Number α] in
theorem isSamples_of_find? {values : List (Value α)}
    (h : ∀ s, values.find? (·.isSamples) = some (.samples s) → False) :
    ∀ v ∈ values, v.isSamples = false := by
  intro v hv
  by_contra hne
  have hfound : (values.find? (·.isSamples)).isSome :=
    List.find?_isSome.mpr ⟨v, hv, Bool.of_not_eq_false hne⟩
  obtain ⟨w, hw⟩ := Option.isSome_iff_exists.mp hfound
  have hsamples := List.find?_some hw
  cases w with
  | samples s => exact h s hw
  | _ => cases hsamples

theorem commonShape_length (ctx : Context α) (grids : List (Option (Grid α))) :
    Yields (commonShape ctx grids) (·.length = grids.length) fun _ => True := by
  rw [commonShape]
  split
  · exact rfl
  · exact Yields.length_mapM _ grids

section Fitting

variable {op : String} {ctx : Context α} {values : List (Value α)} (hv : ∀ v ∈ values, v.Fits ctx)

include hv

theorem grids_someOnDefault (hc : ctx.points = none) (hf : ∃ v ∈ values, v.isField = true) :
    Yields (values.mapM (gridOf op ctx)) (SomeOnDefault ctx) fun _ => True :=
  (mapM_someOnDefault (fun v hm => gridOf_yields hc (hv v hm)) hf).mono (fun _ => id)
    fun _ _ => trivial

theorem alignGrids_covers (hc : ctx.points = none) (hf : ∃ v ∈ values, v.isField = true) :
    Yields (alignGrids op values ctx) (·.Covers values.length) fun _ => True := by
  apply Yields.bind ((grids_someOnDefault hv hc hf).and (Yields.length_mapM ..))
  rintro grids ⟨hgrids, hlength⟩
  apply Yields.bind (P := fun grids' => SomeOnDefault ctx grids' ∧ grids'.length = grids.length)
  · exact ((commonShape_yields hgrids).mono (fun _ => id) fun _ _ => trivial).and
      (commonShape_length ctx grids)
  rintro grids' ⟨hgrids', hlength'⟩
  split
  · trivial
  · rename_i first rest hcons
    have hm : first ∈ grids'.filterMap id := hcons ▸ List.mem_cons_self
    obtain ⟨_, hg, rfl⟩ := List.mem_filterMap.mp hm
    have hfirst := hgrids'.2 _ hg first rfl
    constructor
    · simp [hlength', hlength]
    · apply covers_zipWith_gridOperand
      intro g hg g' hg'
      have hon := hgrids'.2 g hg g' hg'
      have hspec : first.spec = g'.spec := Except.ok.inj (hfirst.1.symm.trans hon.1)
      rw [hon.2, hspec]
      exact Nat.le_refl _

theorem align_covers : Yields (align op values ctx) (·.Covers values.length) fun _ => True := by
  rw [align]
  split
  · trivial
  · rename_i first _ hs
    apply Yields.bind ((Yields.mapM fun v hm => pointOperand_covers (hv v hm)).and
      (Yields.length_mapM ..))
    rintro operands ⟨hcovers, hlength⟩
    refine ⟨hlength, fun o ho => ?_⟩
    obtain ⟨_, _, h⟩ := exists_left_of_forall₂ hcovers ho
    exact h
  · rename_i field hf _
    have hm := List.mem_of_find?_eq_some hf
    have hfield := List.find?_some hf
    exact alignGrids_covers hv ((hv _ hm).points_of_isField hfield) ⟨_, hm, hfield⟩
  · rename_i hfield hsamples
    have hscalar : ∀ v ∈ values, v.isField = false ∧ v.isSamples = false := fun v hm =>
      ⟨by simpa using List.find?_eq_none.mp hfield v hm, isSamples_of_find? hsamples v hm⟩
    constructor
    · rw [List.length_map, length_scalars hscalar]
    · intro o ho
      obtain ⟨x, _, rfl⟩ := List.mem_map.mp ho
      trivial

end Fitting

namespace Checked

section Bounded

variable {N : Nat} (hN : Number.Counts α N) {op : String} {ctx : Context α}

include hN

theorem gridOf_eq {v : Value α} (h : v.Within N) :
    gridOf op ctx v = inRange (Synoptic.gridOf op ctx v) := by
  cases v with
  | scalar x => rfl
  | grid g => rfl
  | spline s => exact inRange_map (splineToGrid_eq hN h ctx)
  | samples s => rfl

variable (hctx : ctx.projection.Within N)

include hctx

theorem normalizeGrid?_eq {g : Option (Grid α)} (h : ∀ g', g = some g' → OnDefault ctx g') :
    normalizeGrid? ctx g = inRange (Synoptic.normalizeGrid? ctx g) := by
  cases g with
  | none => rfl
  | some g =>
    exact inRange_map (normalizeGrid_eq hN (defaultGrid_within hctx (h g rfl).1) ctx)

theorem commonShape_eq {grids : List (Option (Grid α))} (h : SomeOnDefault ctx grids) :
    commonShape ctx grids = inRange (Synoptic.commonShape ctx grids) := by
  rw [commonShape, Synoptic.commonShape]
  split
  · rfl
  · exact inRange_mapM fun g hg => normalizeGrid?_eq hN hctx (h.2 g hg)

variable {values : List (Value α)} (hv : ∀ v ∈ values, v.Fits ctx)
  (hw : ∀ v ∈ values, v.Within N)

include hv hw

theorem alignGrids_eq (hc : ctx.points = none) (hf : ∃ v ∈ values, v.isField = true) :
    alignGrids op values ctx = inRange (Synoptic.alignGrids op values ctx) := by
  apply inRange_bind (inRange_mapM fun v hm => gridOf_eq hN (hw v hm)) (grids_someOnDefault hv hc hf)
  intro grids hgrids
  apply inRange_bind (commonShape_eq hN hctx hgrids) (Yields.trivial _)
  intro grids' _
  cases grids'.filterMap id <;> rfl

theorem align_eq : align op values ctx = inRange (Synoptic.align op values ctx) := by
  rw [align, Synoptic.align]
  cases hf : values.find? (·.isField) with
  | none =>
    cases values.find? (·.isSamples) with
    | none => rfl
    | some v =>
      cases v with
      | samples first => exact inRange_bind rfl (Yields.trivial _) fun operands _ => rfl
      | _ => rfl
  | some field =>
    cases values.find? (·.isSamples) with
    | none =>
      have hm := List.mem_of_find?_eq_some hf
      have hfield := List.find?_some hf
      exact alignGrids_eq hN hctx hv hw ((hv _ hm).points_of_isField hfield) ⟨_, hm, hfield⟩
    | some samples => rfl

theorem apply_align_eq {f' : List α → Checked (ValueError α) α} {f : List α → α}
    (hf : ∀ xs, xs.length = values.length → f' xs = .ok (f xs)) :
    (do let aligned ← align op values ctx; apply aligned f') =
      inRange (do let aligned ← Synoptic.align op values ctx; .ok (aligned.apply f)) := by
  apply inRange_bind (align_eq hN hctx hv hw) (align_covers hv)
  intro aligned h
  exact apply_eq h hf

end Bounded

end Checked

end Synoptic
