import Synoptic.Proofs.Alignment.Family

namespace Synoptic

variable {α : Type}

def Layout.kind : Layout α → Kind
  | .scalar => .scalar
  | .grid _ => .grid
  | .points _ => .samples

variable [Number α]

def Layout.build (l : Layout α) (data : Array α) : Except (ValueError α) (Value α) :=
  match l with
  | .scalar => .ok (.scalar (Number.read data 0))
  | .grid spec => .grid <$> Grid.ofData spec.nx spec.ny spec.cell data
  | .points ps => .samples <$> Samples.ofData ps data

/-- One operand for each value: the number itself, or as many elements as there are places. -/
structure Aligned.Lays {n : Nat} (a : Aligned α) (values : Fin n → Value α)
    (operands : Fin n → Operand α) : Prop where
  operands_eq : a.operands = List.ofFn operands
  const_iff : ∀ i x, operands i = .const x ↔ values i = .scalar x
  size : ∀ i xs, operands i = .data xs → xs.size = a.layout.size
  scalar_iff : a.layout.kind = .scalar ↔ ∀ i, ∃ x, values i = .scalar x
  points_iff : a.layout.kind = .samples ↔ ∃ i, (values i).isSamples = true

namespace Aligned

theorem build_apply (a : Aligned α) (f : List α → α) :
    a.layout.build ((Array.range a.layout.size).map fun i => f (a.row i)) = .ok (a.apply f) := by
  obtain ⟨layout, operands⟩ := a
  cases layout with
  | scalar => rfl
  | grid spec => simp [Layout.build, Grid.ofData, apply, Layout.size]
  | points ps => simp [Layout.build, Samples.ofData, apply, Layout.size]

theorem kind_apply (a : Aligned α) (f : List α → α) : (a.apply f).kind = a.layout.kind := by
  obtain ⟨layout, operands⟩ := a
  cases layout <;> rfl

end Aligned

/-! ### What is refused -/

def ValueError.Incompatible : ValueError α → Prop
  | .incompatible .. => True
  | _ => False

omit [Number α] in
theorem ValueError.not_incompatible {e : ValueError α} (h : ¬ e.Clash) : ¬ e.Incompatible := by
  cases e <;> simp_all [Clash, Incompatible]

theorem normalizeGrid_refusal (g : Grid α) (ctx : Context α) :
    Yields (normalizeGrid g ctx) (fun _ => True) fun e => ¬ e.Clash := by
  rw [normalizeGrid, onDefaultGrid]
  apply Yields.bind (P := fun _ => True)
  · apply Yields.bind (defaultGrid_yields ctx)
    exact fun _ _ => trivial
  · intro b _
    split
    · trivial
    · apply Yields.bind (gridToSpline_yields g ctx)
      intro s _
      exact (splineToGrid_yields s ctx).forget

theorem gridOf_refusal (op : String) (ctx : Context α) (v : Value α) :
    Yields (gridOf op ctx v) (fun _ => True) fun e => ¬ e.Incompatible := by
  cases v with
  | scalar x => trivial
  | grid g => trivial
  | samples s => exact id
  | spline s =>
    apply Yields.map
    exact (splineToGrid_yields s ctx).forget.mono (fun _ => id) fun _ =>
      ValueError.not_incompatible

theorem normalizeGrid?_refusal (ctx : Context α) (g : Option (Grid α)) :
    Yields (normalizeGrid? ctx g) (fun _ => True) fun e => ¬ e.Incompatible := by
  cases g with
  | none => trivial
  | some g =>
    apply Yields.map
    exact (normalizeGrid_refusal g ctx).mono (fun _ => id) fun _ => ValueError.not_incompatible

theorem alignGrids_refusal (op : String) (values : List (Value α)) (ctx : Context α) :
    Yields (alignGrids op values ctx) (fun _ => True) fun e => ¬ e.Incompatible := by
  rw [alignGrids]
  apply Yields.bind (Yields.mapM fun v _ => gridOf_refusal op ctx v)
  intro grids _
  have hcommon : Yields (commonShape ctx grids) (fun _ => True) fun e => ¬ e.Incompatible := by
    rw [commonShape]
    split
    · trivial
    · exact (Yields.mapM fun g _ => normalizeGrid?_refusal ctx g).forget
  apply hcommon.bind
  intro grids _
  split
  · exact id
  · trivial

theorem pointOperand_refusal (op : String) (first : Samples α) (v : Value α) :
    Yields (pointOperand op first v) (fun _ => True) fun e => ¬ e.Incompatible := by
  cases v with
  | scalar x => trivial
  | grid g => exact id
  | spline s => exact id
  | samples s =>
    rw [pointOperand]
    split
    · trivial
    · exact id

/-! ### The four kinds of lists -/

section Kinds

variable {n : Nat}

omit [Number α] in
theorem find?_ofFn_of_forall {values : Fin n → Value α} {p : Value α → Bool}
    (h : ∀ i, p (values i) = false) : (List.ofFn values).find? p = none := by
  simp [List.find?_eq_none, h]

omit [Number α] in
theorem find?_ofFn_of_exists {values : Fin n → Value α} {p : Value α → Bool}
    (h : ∃ i, p (values i) = true) :
    ∃ i, (List.ofFn values).find? p = some (values i) ∧ p (values i) = true := by
  obtain ⟨i, hi⟩ := h
  cases hfind : (List.ofFn values).find? p with
  | none =>
    have hnone := List.find?_eq_none.mp hfind (values i) (List.mem_ofFn.mpr ⟨i, rfl⟩)
    exact absurd hi hnone
  | some v =>
    obtain ⟨j, rfl⟩ := List.mem_ofFn.mp (List.mem_of_find?_eq_some hfind)
    exact ⟨j, rfl, List.find?_some hfind⟩

inductive Makeup (values : Fin n → Value α) : Prop
  | mixed (hf : ∃ i, (values i).isField = true) (hs : ∃ i, (values i).isSamples = true)
  | fields (hf : ∃ i, (values i).isField = true) (hs : ∀ i, (values i).isSamples = false)
  | samples (hf : ∀ i, (values i).isField = false) (hs : ∃ i, (values i).isSamples = true)
  | numbers (x : Fin n → α) (hx : values = fun i => .scalar (x i))

omit [Number α] in
theorem makeup (values : Fin n → Value α) : Makeup values := by
  by_cases hf : ∃ i, (values i).isField = true
  · by_cases hs : ∃ i, (values i).isSamples = true
    · exact .mixed hf hs
    · exact .fields hf (by simpa using hs)
  · replace hf : ∀ i, (values i).isField = false := by simpa using hf
    by_cases hs : ∃ i, (values i).isSamples = true
    · exact .samples hf hs
    · have hnumber : ∀ i, ∃ x, values i = .scalar x := by
        intro i
        have hfield := hf i
        have hsamples : (values i).isSamples = false := by simpa using not_exists.mp hs i
        cases hv : values i with
        | scalar x => exact ⟨x, rfl⟩
        | samples s => rw [hv] at hsamples; cases hsamples
        | _ => rw [hv] at hfield; cases hfield
      choose x hx using hnumber
      exact .numbers x (funext hx)

variable (op : String) (values : Fin n → Value α) (ctx : Context α)

theorem align_mixed (hf : ∃ i, (values i).isField = true) (hs : ∃ i, (values i).isSamples = true) :
    ∃ left right, align op (List.ofFn values) ctx = .error (.incompatible op left right) := by
  obtain ⟨i, hfind, _⟩ := find?_ofFn_of_exists hf
  obtain ⟨j, hfind', _⟩ := find?_ofFn_of_exists hs
  rw [align, hfind, hfind']
  exact ⟨_, _, rfl⟩

theorem align_samples (hf : ∀ i, (values i).isField = false)
    (hs : ∃ i, (values i).isSamples = true) :
    ∃ i s, values i = .samples s ∧ align op (List.ofFn values) ctx =
      (List.ofFn values).mapM (pointOperand op s) >>= fun operands =>
        .ok ⟨.points s.points, operands⟩ := by
  obtain ⟨i, hfind, hi⟩ := find?_ofFn_of_exists hs
  rw [align, find?_ofFn_of_forall hf, hfind]
  cases hv : values i with
  | samples s => exact ⟨i, s, hv, rfl⟩
  | _ => rw [hv] at hi; cases hi

theorem align_fields (hf : ∃ i, (values i).isField = true)
    (hs : ∀ i, (values i).isSamples = false) :
    align op (List.ofFn values) ctx = alignGrids op (List.ofFn values) ctx := by
  obtain ⟨i, hfind, _⟩ := find?_ofFn_of_exists hf
  rw [align, hfind, find?_ofFn_of_forall hs]

theorem align_numbers (x : Fin n → α) :
    align op (List.ofFn fun i => .scalar (x i)) ctx =
      .ok ⟨.scalar, List.ofFn fun i => .const (x i)⟩ := by
  rw [align, find?_ofFn_of_forall fun _ => rfl, find?_ofFn_of_forall fun _ => rfl]
  induction n with
  | zero => rfl
  | succ n ih => simpa [Value.asScalar?] using ih fun i => x i.succ

end Kinds

/-! ### What is laid out -/

theorem gridOperand_eq_const_iff {v : Value α} {grid : Option (Grid α)} {x : α}
    (h : (∃ x, v = .scalar x ∧ grid = none) ∨ v.isField = true ∧ ∃ g, grid = some g) :
    gridOperand v grid = .const x ↔ v = .scalar x := by
  rcases h with ⟨y, rfl, rfl⟩ | ⟨hf, g, rfl⟩
  · simp [gridOperand]
  · constructor
    · intro h
      cases v <;> cases h
    · rintro rfl
      cases hf

theorem Same.grid {s t : GridSpec α} (h : Same s t) : Same (Layout.grid s) (Layout.grid t) :=
  h.imp (congrArg Layout.grid) id

theorem Same.points {ps qs : Array (Point α)} (h : Same ps qs) :
    Same (Layout.points ps) (Layout.points qs) :=
  h.imp (congrArg Layout.points) id

theorem pointOperand_eq_ok {op : String} {first : Samples α} {v : Value α} {o : Operand α}
    (h : pointOperand op first v = .ok o) :
    (∃ x, v = .scalar x ∧ o = .const x) ∨
      ∃ s, v = .samples s ∧ (s.points == first.points) = true ∧ o = .data s.values := by
  cases v with
  | scalar x =>
    cases h
    exact .inl ⟨x, rfl, rfl⟩
  | grid g => cases h
  | spline s => cases h
  | samples s =>
    rw [pointOperand] at h
    split at h
    · rename_i hsame
      cases h
      exact .inr ⟨s, rfl, hsame, rfl⟩
    · cases h

theorem pointOperand_of_beq [PartialEquivBEq α] {op : String} {s t : Samples α}
    (h : (s.points == t.points) = true) : pointOperand op s = pointOperand op t := by
  funext v
  cases v with
  | samples u =>
    have hsame : u.samePoints s = u.samePoints t := by
      rw [Bool.eq_iff_iff]
      exact ⟨fun hu => BEq.trans hu h, fun hu => BEq.trans hu (BEq.symm h)⟩
    simp only [pointOperand, hsame]
  | _ => rfl

section Laid

variable {n : Nat} {values : Fin n → Value α} {op : String} {ctx : Context α} {a : Aligned α}

omit [Number α] in
theorem numbers_lays (x : Fin n → α) :
    Aligned.Lays ⟨.scalar, List.ofFn fun i => .const (x i)⟩ (fun i => Value.scalar (x i))
      (fun i => .const (x i)) where
  operands_eq := rfl
  const_iff i y := by simp
  size i xs h := by cases h
  scalar_iff := by simp [Layout.kind]
  points_iff := by simp [Layout.kind, Value.isSamples]

variable [PartialEquivBEq α]

theorem fields_lays (hf : ∃ i, (values i).isField = true) (hs : ∀ i, (values i).isSamples = false)
    (hw : ∀ i, (values i).Whole) (h : align op (List.ofFn values) ctx = .ok a) :
    ∃ operands, a.Lays values operands := by
  rw [align_fields op values ctx hf hs] at h
  obtain ⟨sampled, grids, hsampled, hgrids, first, rest, hfirst, rfl⟩ := alignGrids_eq_ok_iff.mp h
  obtain ⟨i₀, hi₀⟩ := exists_first hfirst
  have hcases := fun i => (broughtFrom (hsampled i) (hgrids i)).number_or_field
  refine ⟨fun i => gridOperand (values i) (grids i), rfl, ?_, ?_, ?_, by simp [Layout.kind, hs]⟩
  · intro i x
    apply gridOperand_eq_const_iff
    rcases hcases i with h | ⟨h, g, hg, _⟩
    · exact .inl h
    · exact .inr ⟨h, g, hg⟩
  · intro i xs hxs
    rcases hcases i with ⟨x, hv, hnone⟩ | ⟨_, g, hg, hwhole⟩
    · rw [hv, hnone] at hxs
      cases hxs
    · rw [hg] at hxs
      cases hxs
      have hshape := (same_spec hgrids hg hi₀).shape
      rw [hwhole (hw i), Layout.size, ← hshape.1, ← hshape.2]
      rfl
  · obtain ⟨i, hi⟩ := hf
    constructor
    · intro h
      cases h
    · intro h
      obtain ⟨x, hx⟩ := h i
      rw [hx] at hi
      cases hi

theorem fields_rearrange (hf : ∃ i, (values i).isField = true)
    (hs : ∀ i, (values i).isSamples = false) {layout : Layout α} {operands : Fin n → Operand α}
    (h : align op (List.ofFn values) ctx = .ok ⟨layout, List.ofFn operands⟩)
    (σ : Equiv.Perm (Fin n)) : ∃ layout', Same layout layout' ∧
      align op (List.ofFn (values ∘ σ)) ctx = .ok ⟨layout', List.ofFn (operands ∘ σ)⟩ := by
  rw [align_fields op values ctx hf hs] at h
  obtain ⟨sampled, grids, hsampled, hgrids, first, rest, hfirst, ha⟩ := alignGrids_eq_ok_iff.mp h
  obtain ⟨rfl, hoperands⟩ := Aligned.mk.inj ha
  cases List.ofFn_injective hoperands
  obtain ⟨i, hi⟩ := exists_first hfirst
  have hmem : first ∈ (List.ofFn (grids ∘ σ)).filterMap id := by
    rw [((perm_ofFn_comp σ grids).filterMap id).mem_iff, hfirst]
    exact List.mem_cons_self
  obtain ⟨first', rest', hfirst'⟩ := List.exists_cons_of_ne_nil (List.ne_nil_of_mem hmem)
  obtain ⟨j, hj⟩ := exists_first hfirst'
  refine ⟨.grid first'.spec, (same_spec hgrids hi hj).grid, ?_⟩
  have hf' : ∃ i, ((values ∘ σ) i).isField = true := σ.surjective.exists.mp hf
  rw [align_fields op (values ∘ σ) ctx hf' fun i => hs (σ i)]
  refine alignGrids_eq_ok_iff.mpr ⟨sampled ∘ σ, grids ∘ σ, fun i => hsampled (σ i), ?_, first',
    rest', hfirst', rfl⟩
  rw [differing_comp]
  exact fun i => hgrids (σ i)

omit [PartialEquivBEq α] in
theorem samples_lays (hf : ∀ i, (values i).isField = false)
    (hs : ∃ i, (values i).isSamples = true) (hw : ∀ i, (values i).Whole)
    (h : align op (List.ofFn values) ctx = .ok a) : ∃ operands, a.Lays values operands := by
  obtain ⟨i₀, first, hi₀, halign⟩ := align_samples op values ctx hf hs
  rw [halign] at h
  obtain ⟨_, hmap, h⟩ := ok_of_bind h
  obtain ⟨operands, rfl, hoperands⟩ := mapM_ofFn.mp hmap
  cases h
  have hcases := fun i => pointOperand_eq_ok (hoperands i)
  refine ⟨operands, rfl, ?_, ?_, ?_, by simp [Layout.kind, hs]⟩
  · intro i x
    rcases hcases i with ⟨y, hv, ho⟩ | ⟨s, hv, _, ho⟩ <;> simp [hv, ho]
  · intro i xs hxs
    rcases hcases i with ⟨y, hv, ho⟩ | ⟨s, hv, hsame, ho⟩
    · rw [ho] at hxs
      cases hxs
    · rw [ho] at hxs
      cases hxs
      have hwhole := hw i
      rw [hv] at hwhole
      exact hwhole.trans (Array.size_eq_of_beq hsame)
  · constructor
    · intro h
      cases h
    · intro h
      obtain ⟨x, hx⟩ := h i₀
      rw [hi₀] at hx
      cases hx

theorem samples_rearrange (hf : ∀ i, (values i).isField = false)
    (hs : ∃ i, (values i).isSamples = true) {layout : Layout α} {operands : Fin n → Operand α}
    (h : align op (List.ofFn values) ctx = .ok ⟨layout, List.ofFn operands⟩)
    (σ : Equiv.Perm (Fin n)) : ∃ layout', Same layout layout' ∧
      align op (List.ofFn (values ∘ σ)) ctx = .ok ⟨layout', List.ofFn (operands ∘ σ)⟩ := by
  obtain ⟨_, first, _, halign⟩ := align_samples op values ctx hf hs
  rw [halign] at h
  obtain ⟨_, hmap, h⟩ := ok_of_bind h
  obtain ⟨_, rfl, hoperands⟩ := mapM_ofFn.mp hmap
  obtain ⟨rfl, heq⟩ := Aligned.mk.inj (Except.ok.inj h)
  cases List.ofFn_injective heq
  obtain ⟨j, first', hj, halign'⟩ := align_samples op (values ∘ σ) ctx (fun i => hf (σ i))
    (σ.surjective.exists.mp hs)
  -- The samples that come first now are among those that were compared with the first ones before.
  have hfirst := hoperands (σ j)
  rw [Function.comp_apply] at hj
  rw [hj] at hfirst
  rcases pointOperand_eq_ok hfirst with ⟨_, hv, _⟩ | ⟨_, hv, hsame, _⟩
  · cases hv
  · cases hv
    refine ⟨.points first'.points, .points (.inr (BEq.symm hsame)), ?_⟩
    have hmap' : (List.ofFn (values ∘ σ)).mapM (pointOperand op first) =
        .ok (List.ofFn (operands ∘ σ)) := mapM_ofFn.mpr ⟨_, rfl, fun i => hoperands (σ i)⟩
    rw [halign', pointOperand_of_beq hsame, hmap', ok_bind]

end Laid

/-! ### Every list -/

section Lists

variable {n : Nat} {values : Fin n → Value α}

theorem align_incompatible_iff (op : String) (values : Fin n → Value α) (ctx : Context α) :
    (∃ e, align op (List.ofFn values) ctx = .error e ∧ e.Incompatible) ↔
      (∃ i, (values i).isSamples = true) ∧ ∃ i, (values i).isField = true := by
  constructor
  · rintro ⟨e, he, hincompatible⟩
    by_contra hboth
    have hyields : Yields (align op (List.ofFn values) ctx) (fun _ => True)
        fun e => ¬ e.Incompatible := by
      cases makeup values with
      | mixed hf hs => exact absurd ⟨hs, hf⟩ hboth
      | fields hf hs =>
        rw [align_fields op values ctx hf hs]
        exact alignGrids_refusal op _ ctx
      | samples hf hs =>
        obtain ⟨_, s, _, halign⟩ := align_samples op values ctx hf hs
        rw [halign]
        exact (Yields.mapM fun v _ => pointOperand_refusal op s v).bind fun _ _ => trivial
      | numbers x hx =>
        rw [hx, align_numbers]
        trivial
    rw [he] at hyields
    exact hyields hincompatible
  · rintro ⟨hs, hf⟩
    obtain ⟨left, right, halign⟩ := align_mixed op values ctx hf hs
    exact ⟨_, halign, trivial⟩

variable [PartialEquivBEq α] {op : String} {ctx : Context α}

theorem align_lays {a : Aligned α} (hw : ∀ i, (values i).Whole)
    (h : align op (List.ofFn values) ctx = .ok a) : ∃ operands, a.Lays values operands := by
  cases makeup values with
  | mixed hf hs =>
    obtain ⟨_, _, halign⟩ := align_mixed op values ctx hf hs
    rw [halign] at h
    cases h
  | fields hf hs => exact fields_lays hf hs hw h
  | samples hf hs => exact samples_lays hf hs hw h
  | numbers x hx =>
    subst hx
    rw [align_numbers] at h
    cases h
    exact ⟨_, numbers_lays x⟩

theorem align_rearrange {layout : Layout α} {operands : Fin n → Operand α}
    (h : align op (List.ofFn values) ctx = .ok ⟨layout, List.ofFn operands⟩)
    (σ : Equiv.Perm (Fin n)) : ∃ layout', Same layout layout' ∧
      align op (List.ofFn (values ∘ σ)) ctx = .ok ⟨layout', List.ofFn (operands ∘ σ)⟩ := by
  cases makeup values with
  | mixed hf hs =>
    obtain ⟨_, _, halign⟩ := align_mixed op values ctx hf hs
    rw [halign] at h
    cases h
  | fields hf hs => exact fields_rearrange hf hs h σ
  | samples hf hs => exact samples_rearrange hf hs h σ
  | numbers x hx =>
    subst hx
    rw [align_numbers] at h
    obtain ⟨rfl, heq⟩ := Aligned.mk.inj (Except.ok.inj h)
    cases List.ofFn_injective heq
    exact ⟨_, .refl _, align_numbers op ctx (x ∘ σ)⟩

theorem exists_align_comp (hw : ∀ i, (values i).Whole)
    (h : ∃ a, align op (List.ofFn values) ctx = .ok a) (σ : Equiv.Perm (Fin n)) :
    ∃ a, align op (List.ofFn (values ∘ σ)) ctx = .ok a := by
  obtain ⟨⟨layout, _⟩, h⟩ := h
  obtain ⟨operands, hlays⟩ := align_lays hw h
  obtain rfl := hlays.operands_eq
  obtain ⟨layout', _, h'⟩ := align_rearrange h σ
  exact ⟨_, h'⟩

end Lists

/-- Values are refused as incompatible just when there are samples and fields among them. Where they
are laid out, every value has its operand, what is computed from them is a value of the layout, and in
another order they are laid out alike. -/
theorem align_orderly {n : Nat} (op : String) (values : Fin n → Value Float) (ctx : Context Float)
    (hw : ∀ i, (values i).Whole) :
    ((∃ e, align op (List.ofFn values) ctx = .error e ∧ e.Incompatible) ↔
      (∃ i, (values i).isSamples = true) ∧ ∃ i, (values i).isField = true) ∧
    (∀ a, align op (List.ofFn values) ctx = .ok a → ∃ operands, a.Lays values operands ∧
      (∀ f, a.layout.build ((Array.range a.layout.size).map fun i => f (a.row i)) =
        .ok (a.apply f) ∧ (a.apply f).kind = a.layout.kind) ∧
      ∀ σ : Equiv.Perm (Fin n), ∃ layout, Same a.layout layout ∧
        align op (List.ofFn (values ∘ σ)) ctx = .ok ⟨layout, List.ofFn (operands ∘ σ)⟩) ∧
    ∀ σ : Equiv.Perm (Fin n), (∃ a, align op (List.ofFn (values ∘ σ)) ctx = .ok a) ↔
      ∃ a, align op (List.ofFn values) ctx = .ok a := by
  refine ⟨align_incompatible_iff op values ctx, ?_, ?_⟩
  · intro a h
    obtain ⟨operands, hlays⟩ := align_lays hw h
    obtain ⟨layout, _⟩ := a
    obtain rfl := hlays.operands_eq
    exact ⟨operands, hlays, fun f => ⟨Aligned.build_apply _ f, Aligned.kind_apply _ f⟩,
      align_rearrange h⟩
  · intro σ
    constructor
    · intro h
      have hback : (values ∘ σ) ∘ σ.symm = values := by
        funext i
        simp
      exact hback ▸ exists_align_comp (fun i => hw (σ i)) h σ.symm
    · exact fun h => exists_align_comp hw h σ

namespace Swapped

def context : Context Float := .standard ⟨.mercator 0, .standard, none⟩ .epoch

def values : Fin 2 → Value Float
  | 0 => .grid ⟨2, 2, 1, #[1, 2, 3, 4]⟩
  | 1 => .scalar 5

end Swapped

open Swapped in
theorem align_orderly_swapped :
    (∀ i, (values i).Whole) ∧ ∃ a operands layout,
      align "PLUS" (List.ofFn values) context = .ok a ∧ a.Lays values operands ∧
        align "PLUS" (List.ofFn (values ∘ Equiv.swap 0 1)) context =
          .ok ⟨layout, List.ofFn (operands ∘ Equiv.swap 0 1)⟩ := by
  have hw : ∀ i, (values i).Whole := Fin.forall_fin_two.mpr ⟨rfl, trivial⟩
  refine ⟨hw, ?_⟩
  obtain ⟨_, hlays, _⟩ := align_orderly "PLUS" values context hw
  obtain ⟨operands, hoperands, _, hrearrange⟩ := hlays _ rfl
  obtain ⟨layout, _, halign⟩ := hrearrange (Equiv.swap 0 1)
  exact ⟨_, operands, layout, rfl, hoperands, halign⟩

end Synoptic
