import Synoptic.Proofs.Alignment.Operands
import Synoptic.Proofs.Commutation
import Synoptic.Proofs.Conversion

namespace Synoptic

noncomputable instance partialEquivBEq_real : @PartialEquivBEq ℝ Number.instBEq where
  symm h := decide_eq_true (of_decide_eq_true h).symm
  trans h h' := decide_eq_true ((of_decide_eq_true h).trans (of_decide_eq_true h'))

section Layouts

variable {α : Type}

inductive Layout.Holds [Number α] : Layout α → Value α → Prop
  | scalar (x : α) : Holds .scalar (.scalar x)
  | grid (g : Grid α) : Holds (.grid g.spec) (.grid g)
  | points (s : Samples α) : Holds (.points s.points) (.samples s)

variable [Number α]

theorem Aligned.holds_apply (a : Aligned α) (f : List α → α) : a.layout.Holds (a.apply f) := by
  obtain ⟨layout, operands⟩ := a
  cases layout with
  | scalar => exact .scalar _
  | grid spec => exact .grid ⟨spec.nx, spec.ny, spec.cell, _⟩
  | points ps => exact .points ⟨ps, _⟩

theorem Aligned.elem_operand_apply (a : Aligned α) (f : List α → α) {i : Nat}
    (hi : i < a.layout.size) : (a.apply f).operand.elem i = f (a.row i) := by
  obtain ⟨layout, operands⟩ := a
  cases layout with
  | scalar =>
    obtain rfl : i = 0 := Nat.lt_one_iff.mp hi
    exact read_map_range hi fun i => f (Aligned.row ⟨.scalar, operands⟩ i)
  | grid spec => exact read_map_range hi _
  | points ps => exact read_map_range hi _

theorem Aligned.apply_congr {layout : Layout α} {operands operands' : List (Operand α)}
    {f g : List α → α}
    (h : ∀ i < layout.size, f (row ⟨layout, operands⟩ i) = g (row ⟨layout, operands'⟩ i)) :
    apply ⟨layout, operands⟩ f = apply ⟨layout, operands'⟩ g := by
  have hdata : ((Array.range layout.size).map fun i => f (row ⟨layout, operands⟩ i)) =
      (Array.range layout.size).map fun i => g (row ⟨layout, operands'⟩ i) := by
    apply Array.map_congr_left
    exact fun i hi => h i (Array.mem_range.mp hi)
  simp only [apply, hdata]

end Layouts

theorem Same.eq {s t : GridSpec ℝ} (h : Same s t) : s = t := h.elim id (GridSpec.beq_iff s t).mp

theorem forall_update {β γ : Type} {R : β → γ → Prop} {n : Nat} {v : Fin n → β} {w : Fin n → γ}
    {i : Fin n} {b : β} {c : γ} (hi : R b c) (h : ∀ k ≠ i, R (v k) (w k)) (k : Fin n) :
    R (Function.update v i b k) (Function.update w i c k) := by
  by_cases hki : k = i
  · subst hki
    rw [Function.update_self, Function.update_self]
    exact hi
  · rw [Function.update_of_ne hki, Function.update_of_ne hki]
    exact h k hki

section Fields

variable {n : Nat} {ctx : Context ℝ} {sampled grids : Fin n → Option (Grid ℝ)} {i j : Fin n}
  {first g : Grid ℝ}

theorem spec_update (hg : g.spec = first.spec)
    (h : ∀ k g', grids k = some g' → g'.spec = first.spec) :
    ∀ k g', Function.update grids i (some g) k = some g' → g'.spec = first.spec := by
  refine (Function.forall_update_iff grids fun _ o => ∀ g', o = some g' → g'.spec = _).mpr ?_
  exact ⟨by rintro _ ⟨⟩; exact hg, fun k _ => h k⟩

theorem spec_brought
    (hb : ∀ k, bring? ctx (differing (List.ofFn sampled)) (sampled k) = .ok (grids k))
    (hfirst : grids j = some first) : ∀ k g', grids k = some g' → g'.spec = first.spec :=
  fun _ _ hk => (same_spec hb hk hfirst).eq

theorem bring?_default (resample : Bool) (h : ctx.defaultGrid = .ok g.spec) :
    bring? ctx resample (some g) = .ok (some g) := by
  cases resample with
  | true => exact congrArg (some <$> ·) (normalizeGrid_default h rfl)
  | false => rfl

theorem bring?_false (o : Option (Grid ℝ)) : bring? ctx false o = .ok o := by
  cases o <;> rfl

theorem bring?_update (hg : g.spec = first.spec)
    (hb : ∀ k, bring? ctx (differing (List.ofFn sampled)) (sampled k) = .ok (grids k))
    (hfirst : grids j = some first) (k : Fin n) :
    bring? ctx (differing (List.ofFn (Function.update sampled i (some g))))
      (Function.update sampled i (some g) k) = .ok (Function.update grids i (some g) k) := by
  -- A grid of the common shape stays as it is, and so do the others, whether or not they still
  -- differ in shape.
  have hspec := spec_update (i := i) hg (spec_brought hb hfirst)
  cases hd : differing (List.ofFn sampled) with
  | false =>
    simp only [hd, bring?_false, Except.ok.injEq] at hb
    obtain rfl : sampled = grids := funext hb
    have hd' : differing (List.ofFn (Function.update sampled i (some g))) = false :=
      differing_eq_false_iff.mpr fun k l _ g' g'' hk hl =>
        (GridSpec.beq_iff _ _).mpr ((hspec k g' hk).trans (hspec l g'' hl).symm)
    rw [hd', bring?_false]
  | true =>
    rw [hd] at hb
    have hdefault : ctx.defaultGrid = .ok g.spec := by
      obtain ⟨_, _, hbring⟩ := bring?_eq_some (hfirst ▸ hb j)
      rw [hg]
      exact spec_of_normalizeGrid hbring
    refine forall_update (R := fun o o' => bring? ctx _ o = .ok o') (bring?_default _ hdefault) ?_ k
    intro k hki
    cases hd' : differing (List.ofFn (Function.update sampled i (some g))) with
    | true => exact hb k
    | false =>
      -- What is not resampled any more has the shape of the default grid.
      rw [← hb k]
      cases hs : sampled k with
      | none => rfl
      | some own =>
        have hk : Function.update sampled i (some g) k = some own := by
          rw [Function.update_of_ne hki, hs]
        have hshape := differing_eq_false_iff.mp hd' k i hki own g hk (Function.update_self ..)
        have heq : own.spec = g.spec := (GridSpec.beq_iff _ _).mp hshape
        rw [bring?_default true (heq ▸ hdefault), bring?_false]

end Fields

section Values

variable {n : Nat} {op : String} {ctx : Context ℝ} {values : Fin n → Value ℝ} {layout : Layout ℝ}
  {operands : Fin n → Operand ℝ} {r : Value ℝ} {i : Fin n}

theorem fields_update (hf : ∃ i, (values i).isField = true)
    (hs : ∀ i, (values i).isSamples = false)
    (h : align op (List.ofFn values) ctx = .ok ⟨layout, List.ofFn operands⟩)
    (hr : layout.Holds r) :
    align op (List.ofFn (Function.update values i r)) ctx =
      .ok ⟨layout, List.ofFn (Function.update operands i r.operand)⟩ := by
  rw [align_fields op values ctx hf hs] at h
  obtain ⟨sampled, grids, hsampled, hgrids, first, rest, hfirst, ha⟩ := alignGrids_eq_ok_iff.mp h
  obtain ⟨rfl, hoperands⟩ := Aligned.mk.inj ha
  cases List.ofFn_injective hoperands
  obtain ⟨j, hj⟩ := exists_first hfirst
  generalize hspec : first.spec = spec at hr
  cases hr with
  | grid g =>
    have hf' : ∃ k, (Function.update values i (.grid g) k).isField = true :=
      ⟨i, by rw [Function.update_self]; rfl⟩
    have hs' : ∀ k, (Function.update values i (.grid g) k).isSamples = false :=
      (Function.forall_update_iff values fun _ v => v.isSamples = false).mpr ⟨rfl, fun k _ => hs k⟩
    have hbrought := bring?_update (i := i) hspec.symm hgrids hj
    have hmem : g ∈ (List.ofFn (Function.update grids i (some g))).filterMap id :=
      mem_filterMap_ofFn.mpr ⟨i, Function.update_self ..⟩
    obtain ⟨first', rest', hfirst'⟩ := List.exists_cons_of_ne_nil (List.ne_nil_of_mem hmem)
    obtain ⟨l, hl⟩ := exists_first hfirst'
    have hshape : first'.spec = first.spec :=
      spec_update hspec.symm (spec_brought hgrids hj) l first' hl
    have hsampled' := forall_update (R := fun v o => gridOf op ctx v = .ok o) (i := i)
      (b := Value.grid g) (c := some g) rfl fun k _ => hsampled k
    rw [align_fields op _ ctx hf' hs']
    refine alignGrids_eq_ok_iff.mpr ⟨_, _, hsampled', hbrought, first', rest', hfirst', ?_⟩
    rw [hshape, hspec]
    congr 2
    funext k
    by_cases hki : k = i
    · subst hki
      simp [gridOperand, Value.operand]
    · simp [Function.update_of_ne hki]

theorem samples_update (hf : ∀ i, (values i).isField = false)
    (hs : ∃ i, (values i).isSamples = true)
    (h : align op (List.ofFn values) ctx = .ok ⟨layout, List.ofFn operands⟩)
    (hr : layout.Holds r) :
    align op (List.ofFn (Function.update values i r)) ctx =
      .ok ⟨layout, List.ofFn (Function.update operands i r.operand)⟩ := by
  obtain ⟨_, first, _, halign⟩ := align_samples op values ctx hf hs
  rw [halign] at h
  obtain ⟨_, hmap, h⟩ := ok_of_bind h
  obtain ⟨_, rfl, hoperands⟩ := mapM_ofFn.mp hmap
  obtain ⟨rfl, heq⟩ := Aligned.mk.inj (Except.ok.inj h)
  cases List.ofFn_injective heq
  generalize hpoints : first.points = points at hr
  cases hr with
  | points s =>
    have hpoint : pointOperand op first (.samples s) = .ok (.data s.values) := by
      have hsame : s.samePoints first = true := by
        rw [Samples.samePoints, hpoints]
        exact beq_array_iff.mpr ⟨rfl, fun i _ _ => (Point.beq_iff _ _).mpr rfl⟩
      exact if_pos hsame
    have hoperands' := forall_update (R := fun v o => pointOperand op first v = .ok o) (i := i)
      hpoint fun k _ => hoperands k
    have hf' : ∀ k, (Function.update values i (.samples s) k).isField = false :=
      (Function.forall_update_iff values fun _ v => v.isField = false).mpr ⟨rfl, fun k _ => hf k⟩
    have hs' : ∃ k, (Function.update values i (.samples s) k).isSamples = true :=
      ⟨i, by rw [Function.update_self]; rfl⟩
    obtain ⟨l, first', hl, halign'⟩ := align_samples op _ ctx hf' hs'
    have hsame : first'.points = first.points := points_of_pointOperand (hl ▸ hoperands' l)
    rw [halign', pointOperand_congr hsame, mapM_ofFn.mpr ⟨_, rfl, hoperands'⟩, ok_bind, hsame,
      hpoints]
    rfl

theorem align_update (h : align op (List.ofFn values) ctx = .ok ⟨layout, List.ofFn operands⟩)
    (hr : layout.Holds r) :
    align op (List.ofFn (Function.update values i r)) ctx =
      .ok ⟨layout, List.ofFn (Function.update operands i r.operand)⟩ := by
  cases makeup values with
  | mixed hf hs =>
    obtain ⟨_, _, halign⟩ := align_mixed op values ctx hf hs
    rw [halign] at h
    cases h
  | fields hf hs => exact fields_update hf hs h hr
  | samples hf hs => exact samples_update hf hs h hr
  | numbers x hx =>
    subst hx
    rw [align_numbers] at h
    obtain ⟨rfl, heq⟩ := Aligned.mk.inj (Except.ok.inj h)
    cases List.ofFn_injective heq
    cases hr with
    | scalar y =>
      have hvalues : Function.update (fun k => Value.scalar (x k)) i (.scalar y) =
          fun k => .scalar (Function.update x i y k) :=
        (Function.comp_update Value.scalar x i y).symm
      have hoperands : Function.update (fun k => Operand.const (x k)) i (.const y) =
          fun k => .const (Function.update x i y k) :=
        (Function.comp_update Operand.const x i y).symm
      rw [hvalues, align_numbers, Value.operand, hoperands]

end Values

end Synoptic
