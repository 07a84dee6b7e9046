import Mathlib.Data.List.Nodup
import Synoptic.Binary64.Scalar
import Synoptic.Catalogue

namespace Synoptic

variable {α : Type} [Number α]

inductive Operator.Form : Operator α → Prop
  | arithmetic (op : BinaryOp) (signature doc : String) : Form (op.operator signature doc)
  | range (name signature doc : String) (f : α → α → α → α) :
    Form ⟨name, signature, doc, [true, true, true], .field (runTernary name f)⟩
  | derivative (name signature doc : String) (f : α → Derivatives α → α) :
    Form ⟨name, signature, doc, [false],
      .field (runUnary name fun v ctx => differentiate name v ctx (f ctx.unitFactor))⟩
  | divergence (signature doc : String) :
    Form ⟨"divrg", signature, doc, [false, false], .field runDivergence⟩
  | advection (signature doc : String) :
    Form ⟨"advct", signature, doc, [false, true, true], .field runAdvection⟩
  | tendency (signature doc : String) :
    Form ⟨"ddt", signature, doc, [true], .series Synoptic.tendency⟩
  | place (name signature doc : String) (f : Context α → Point α → α)
      (h : ∀ ctx points, f { ctx with points } = f ctx) :
    Form ⟨name, signature, doc, [], .field (runPlace name f)⟩
  | pressure (name signature doc : String) (role : LevelRole) :
    Form ⟨name, signature, doc, [], .field (runPressure name role)⟩
  | elementary (name : String) (f : α → α) : Form (Synoptic.elementary name f)
  | vapour (signature doc : String) : Form ⟨"svprs", signature, doc, [true], .field vapourPressure⟩

namespace Catalogue

theorem arithmetic_form : ∀ op ∈ (arithmeticOperators : List (Operator α)), op.Form := by
  simp only [arithmeticOperators, List.forall_mem_cons]
  exact ⟨.arithmetic .., .arithmetic .., .arithmetic .., .arithmetic .., .arithmetic ..,
    .arithmetic .., .arithmetic .., by simp⟩

theorem range_form : ∀ op ∈ (rangeOperators : List (Operator α)), op.Form := by
  simp only [rangeOperators, List.forall_mem_cons]
  exact ⟨.range .., .range .., by simp⟩

theorem derivative_form : ∀ op ∈ (derivativeOperators : List (Operator α)), op.Form := by
  simp only [derivativeOperators, List.forall_mem_cons]
  exact ⟨.derivative _ _ _ fun k d => d.fx * k, .derivative _ _ _ fun k d => d.fy * k,
    .derivative _ _ _ fun k d => Spline.isolineCurvature d * k,
    .derivative _ _ _ fun k d => (d.fxx + d.fyy) * k * k, .divergence .., .advection .., by simp⟩

theorem place_form : ∀ op ∈ (placeOperators : List (Operator α)), op.Form := by
  simp only [placeOperators, List.forall_mem_cons]
  exact ⟨.place _ _ _ _ fun _ _ => rfl, .place _ _ _ _ fun _ _ => rfl, by simp⟩

theorem solar_form : ∀ op ∈ (solarOperators : List (Operator α)), op.Form := by
  simp only [solarOperators, List.forall_mem_cons]
  exact ⟨.place _ _ _ _ fun _ _ => rfl, .place _ _ _ _ fun _ _ => rfl, by simp⟩

theorem pressure_form : ∀ op ∈ (pressureOperators : List (Operator α)), op.Form := by
  simp only [pressureOperators, List.forall_mem_cons]
  exact ⟨.pressure .., .pressure .., .pressure .., by simp⟩

theorem elementary_form : ∀ op ∈ (elementaryOperators : List (Operator α)), op.Form := by
  simp only [elementaryOperators, List.forall_mem_cons]
  exact ⟨.elementary .., .elementary .., .elementary .., .elementary .., .elementary ..,
    .elementary .., .elementary .., .elementary .., .elementary .., .elementary ..,
    .elementary .., .elementary .., .elementary .., .elementary .., by simp⟩

theorem tendency_form : ∀ op ∈ (tendencyOperators : List (Operator α)), op.Form := by
  simp only [tendencyOperators, List.forall_mem_cons]
  exact ⟨.tendency .., by simp⟩

theorem vapour_form : ∀ op ∈ (vapourOperators : List (Operator α)), op.Form := by
  simp only [vapourOperators, List.forall_mem_cons]
  exact ⟨.vapour .., by simp⟩

theorem form_of_mem {op : Operator α} (h : op ∈ (operators : List (Operator α))) : op.Form := by
  simp only [operators, List.mem_append] at h
  obtain (((((((h | h) | h) | h) | h) | h) | h) | h) | h := h
  · exact arithmetic_form op h
  · exact range_form op h
  · exact derivative_form op h
  · exact tendency_form op h
  · exact place_form op h
  · exact pressure_form op h
  · exact elementary_form op h
  · exact solar_form op h
  · exact vapour_form op h

theorem form_of_find? {name : String} {op : Operator α} (h : find? name = some op) : op.Form :=
  form_of_mem (List.mem_of_find?_eq_some h)

theorem nodup_names :
    ((operators : List (Operator α)).map fun op => Text.lowerAscii op.name.toList).Nodup := by
  -- The names are those of the operators on any other numbers.
  have hfloat : ((operators : List (Operator Float)).map fun op =>
      Text.lowerAscii op.name.toList).Nodup := by decide +kernel
  exact hfloat

theorem find?_of_mem {op : Operator α} (h : op ∈ operators) {name : String}
    (hname : Text.sameAscii op.name name = true) : find? name = some op := by
  cases hfound : find? (α := α) name with
  | none => exact absurd hname (List.find?_eq_none.mp hfound op h)
  | some op' =>
    have hname' : Text.sameAscii op'.name name = true := by
      simpa using List.find?_some hfound
    have hsame : Text.lowerAscii op'.name.toList = Text.lowerAscii op.name.toList :=
      (eq_of_beq hname').trans (eq_of_beq hname).symm
    have hmem : op' ∈ operators := List.mem_of_find?_eq_some hfound
    rw [List.inj_on_of_nodup_map nodup_names hmem h hsame]

end Catalogue

end Synoptic
