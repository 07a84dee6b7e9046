import Synoptic.Operator.Arithmetic
import Synoptic.Proofs.Alignment.Operands

namespace Synoptic

variable {α : Type}

/-- Whether two values combine on coefficients, without being aligned. -/
def Value.onCoefficients : Value α → Value α → Bool
  | .scalar _, .spline _ | .spline _, .scalar _ => true
  | .spline p, .spline q => p.sameShape q
  | _, _ => false

namespace BinaryOp

variable [Number α]

inductive Meets (op : BinaryOp) (ctx : Context α) :
    Value α → Value α → Operand α → Operand α → Prop
  | numberSurface (x : α) (s : Spline α) :
    Meets op ctx (.scalar x) (.spline s) (.const x) (.data s.coeffs)
  | surfaceNumber (s : Spline α) (x : α) :
    Meets op ctx (.spline s) (.scalar x) (.data s.coeffs) (.const x)
  | surfaces {p q : Spline α} (h : p.sameShape q = true) :
    Meets op ctx (.spline p) (.spline q) (.data p.coeffs) (.data q.coeffs)
  | aligned {a b : Value α} {operands : Fin 2 → Operand α} (h : a.onCoefficients b = false)
    (hl : Laid op.name ctx ![a, b] operands) : Meets op ctx a b (operands 0) (operands 1)

/-- A value for each function of two numbers, with the function applied to what two operands have at
each place. -/
structure Builds (a b : Value α) (x y : Operand α) (build : (α → α → α) → Value α) : Prop where
  kind_eq : ∀ f g, (build f).kind = (build g).kind
  size_eq : ∀ f g, (build f).elements.size = (build g).elements.size
  covers : a.Covered → b.Covered → ∀ f,
    x.Covers (build f).elements.size ∧ y.Covers (build f).elements.size
  getElem_eq : ∀ f i (hi : i < (build f).elements.size),
    (build f).elements[i] = f (x.elem i) (y.elem i)

section Operands

variable {a b : Value α} {ctx : Context α}

theorem builds_coeffs {x y : Operand α} {n : Nat} {s : (α → α → α) → Spline α}
    (hsize : ∀ f, (s f).coeffs.size = n) (hx : x.Covers n) (hy : y.Covers n)
    (hget : ∀ f i (hi : i < (s f).coeffs.size), (s f).coeffs[i] = f (x.elem i) (y.elem i)) :
    Builds a b x y fun f => .spline (s f) where
  kind_eq _ _ := rfl
  size_eq f g := (hsize f).trans (hsize g).symm
  covers _ _ f := by
    rw [Value.elements, hsize]
    exact ⟨hx, hy⟩
  getElem_eq := hget

theorem builds_numberSurface (x : α) (s : Spline α) :
    Builds (.scalar x) (.spline s) (.const x) (.data s.coeffs)
      fun f => .spline (s.mapCoeffs fun c => f x c) := by
  refine builds_coeffs (fun f => Array.size_map) trivial (Nat.le_refl _) fun f i hi => ?_
  have hi' : i < s.coeffs.size := by simpa [Spline.mapCoeffs] using hi
  rw [Operand.elem_data hi']
  exact Array.getElem_map ..

theorem builds_surfaceNumber (s : Spline α) (x : α) :
    Builds (.spline s) (.scalar x) (.data s.coeffs) (.const x)
      fun f => .spline (s.mapCoeffs fun c => f c x) := by
  refine builds_coeffs (fun f => Array.size_map) (Nat.le_refl _) trivial fun f i hi => ?_
  have hi' : i < s.coeffs.size := by simpa [Spline.mapCoeffs] using hi
  rw [Operand.elem_data hi']
  exact Array.getElem_map ..

theorem builds_surfaces (p q : Spline α) :
    Builds (.spline p) (.spline q) (.data p.coeffs) (.data q.coeffs)
      fun f => .spline (Spline.zipCoeffs f p q) := by
  refine builds_coeffs (fun f => Array.size_zipWith) (Nat.min_le_left _ _) (Nat.min_le_right _ _)
    fun f i hi => ?_
  have hi' : i < p.coeffs.size ∧ i < q.coeffs.size := by simpa [Spline.zipCoeffs] using hi
  rw [Operand.elem_data hi'.1, Operand.elem_data hi'.2]
  exact Array.getElem_zipWith ..

theorem builds_aligned {layout : Layout α} {x y : Operand α}
    (h : a.Covered → b.Covered → x.Covers layout.size ∧ y.Covers layout.size) :
    Builds a b x y fun f => Aligned.apply ⟨layout, [x, y]⟩ fun xs =>
      f (xs.getD 0 Number.absent) (xs.getD 1 Number.absent) where
  kind_eq f g := by rw [Aligned.kind_apply, Aligned.kind_apply]
  size_eq f g := by simp [Aligned.elements_apply]
  covers ha hb f := by simpa [Aligned.elements_apply] using h ha hb
  getElem_eq f i hi := by simp [Aligned.elements_apply, Aligned.row]

variable [PartialEquivBEq α] {op : BinaryOp} {m : Value α}

theorem combineAligned_shared (op' : BinaryOp) (h : combine.combineAligned op ctx a b = .ok m) :
    ∃ operands : Fin 2 → Operand α, Laid op'.name ctx ![a, b] operands ∧
      ∃ build, Builds a b (operands 0) (operands 1) build ∧ m = build op.eval ∧
        combine.combineAligned op' ctx a b =
          (op'.checkDivisor (operands 1) >>= fun _ => .ok (build op'.eval)) := by
  obtain ⟨⟨layout, _⟩, halign, h⟩ := ok_of_bind h
  have halign' : align op'.name (List.ofFn ![a, b]) ctx = _ :=
    align_renamed halign
  obtain ⟨operands, rfl, hlaid, hcovers⟩ := align_laid halign'
  obtain ⟨_, _, h⟩ := ok_of_bind h
  cases h
  refine ⟨operands, hlaid, _, builds_aligned fun ha hb => ?_, rfl, ?_⟩
  · have hboth := hcovers (Fin.forall_fin_two.mpr ⟨ha, hb⟩)
    exact ⟨hboth 0, hboth 1⟩
  · exact congrArg (· >>= _) halign'

theorem combine_shared (op' : BinaryOp) (h : op.combine a b ctx = .ok m) :
    ∃ x y build, Meets op' ctx a b x y ∧ Builds a b x y build ∧ m = build op.eval ∧
      op'.combine a b ctx = (op'.checkDivisor y >>= fun _ => .ok (build op'.eval)) := by
  have aligned (hcoeffs : a.onCoefficients b = false)
      (h : combine.combineAligned op ctx a b = .ok m) :
      ∃ x y build, Meets op' ctx a b x y ∧ Builds a b x y build ∧ m = build op.eval ∧
        combine.combineAligned op' ctx a b =
          (op'.checkDivisor y >>= fun _ => .ok (build op'.eval)) := by
    obtain ⟨operands, hlaid, build, hbuild⟩ := combineAligned_shared op' h
    exact ⟨_, _, build, .aligned hcoeffs hlaid, hbuild⟩
  cases a with
  | scalar x =>
    cases b with
    | spline s =>
      obtain ⟨_, _, h⟩ := ok_of_bind h
      cases h
      exact ⟨_, _, _, .numberSurface x s, builds_numberSurface x s, rfl, rfl⟩
    | _ => exact aligned rfl h
  | spline p =>
    cases b with
    | scalar y =>
      obtain ⟨_, _, h⟩ := ok_of_bind h
      cases h
      exact ⟨_, _, _, .surfaceNumber p y, builds_surfaceNumber p y, rfl, rfl⟩
    | spline q =>
      by_cases hshape : p.sameShape q = true
      · simp only [combine, if_pos hshape] at h ⊢
        obtain ⟨_, _, h⟩ := ok_of_bind h
        cases h
        exact ⟨_, _, _, .surfaces hshape, builds_surfaces p q, rfl, rfl⟩
      · simp only [combine, if_neg hshape] at h ⊢
        exact aligned (Bool.eq_false_iff.mpr hshape) h
    | _ => exact aligned rfl h
  | _ => cases b <;> exact aligned rfl h

end Operands

theorem divide_of_hasZero {β : Type} {y : Operand α} (h : y.hasZero = true)
    (f : Unit → Except (ValueError α) β) :
    (divide.checkDivisor y >>= f) = .error (.divideByZero "divide") := by
  rw [checkDivisor, h]
  rfl

theorem divide_of_not_hasZero {β : Type} {y : Operand α} (h : y.hasZero = false)
    (f : Unit → Except (ValueError α) β) : (divide.checkDivisor y >>= f) = f () := by
  rw [checkDivisor, h]
  rfl

theorem elem_ne_zero {y : Operand Float} (h : y.hasZero = false) (i : Nat) :
    (y.elem i == 0) = false := by
  cases y with
  | const x => exact h
  | data xs =>
    rw [Operand.elem, Number.read, Array.getD]
    split
    · rename_i hi
      have hnone := Array.any_eq_false.mp h i hi
      simpa using hnone
    · rfl

/-- Where two values have a product they have a quotient just if no number that it divides by is zero,
and only such a zero is told otherwise. -/
theorem divide_guarded {a b m : Value Float} {ctx : Context Float}
    (h : multiply.combine a b ctx = .ok m) :
    ∃ x y : Operand Float, Meets divide ctx a b x y ∧
      ((∃ q, divide.combine a b ctx = .ok q) ↔ ∀ d ∈ y.elements, (d == 0) = false) ∧
      ((∃ d ∈ y.elements, (d == 0) = true) →
        divide.combine a b ctx = .error (.divideByZero "divide")) ∧
      ∀ q, divide.combine a b ctx = .ok q →
        q.kind = m.kind ∧ q.elements.size = m.elements.size ∧
        (a.Covered → b.Covered → x.Covers q.elements.size ∧ y.Covers q.elements.size) ∧
        ∀ i (hi : i < q.elements.size),
          (y.elem i == 0) = false ∧ q.elements[i] = x.elem i / y.elem i := by
  obtain ⟨x, y, build, hmeets, hbuilds, rfl, hdivide⟩ := combine_shared divide h
  have hzero : y.hasZero = true ↔ ∃ d ∈ y.elements, (d == 0) = true := Operand.hasZero_iff
  rw [hdivide]
  refine ⟨x, y, hmeets, ?_⟩
  cases hy : y.hasZero with
  | true =>
    rw [divide_of_hasZero hy]
    obtain ⟨d, hd, hd0⟩ := hzero.mp hy
    refine ⟨iff_of_false (by rintro ⟨_, ⟨⟩⟩) fun hall => ?_, fun _ => rfl, by rintro _ ⟨⟩⟩
    exact Bool.false_ne_true ((hall d hd).symm.trans hd0)
  | false =>
    rw [divide_of_not_hasZero hy]
    have hnone : ¬ ∃ d ∈ y.elements, (d == 0) = true := fun hd => by
      rw [hzero.mpr hd] at hy
      cases hy
    refine ⟨iff_of_true ⟨_, rfl⟩ fun d hd => ?_, fun hd => absurd hd hnone, ?_⟩
    · exact Bool.eq_false_iff.mpr fun hd0 => hnone ⟨d, hd, hd0⟩
    · rintro _ ⟨⟩
      exact ⟨hbuilds.kind_eq _ _, hbuilds.size_eq _ _, fun ha hb => hbuilds.covers ha hb _,
        fun i hi => ⟨elem_ne_zero hy i, hbuilds.getElem_eq _ i hi⟩⟩

namespace Holed

def surface : Spline Float := { Spline.empty with coeffs := #[4, -0, 2] }

def context : Context Float := .standard ⟨.mercator 0, .standard, none⟩ .epoch

end Holed

theorem divide_guarded_holed :
    (∃ m, multiply.combine (.scalar 8) (.spline Holed.surface) Holed.context = .ok m) ∧
      divide.combine (.scalar 8) (.spline Holed.surface) Holed.context =
        .error (.divideByZero "divide") := by
  have hmultiply : multiply.combine (.scalar 8) (.spline Holed.surface) Holed.context = .ok _ := rfl
  refine ⟨⟨_, hmultiply⟩, ?_⟩
  obtain ⟨x, y, hmeets, _, hfails, _⟩ := divide_guarded hmultiply
  apply hfails
  cases hmeets with
  | numberSurface => exact ⟨-0, by simp [Operand.elements, Holed.surface], rfl⟩
  | aligned hcoeffs => cases hcoeffs

end BinaryOp

end Synoptic
