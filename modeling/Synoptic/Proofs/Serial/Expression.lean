import Synoptic.Binary64.Scalar
import Synoptic.Expr.Serial
import Synoptic.Proofs.Serial.Projection

namespace Synoptic.Expr

variable {α : Type}

mutual

/-- Its times are those that their texts stand for. -/
def asWritten : Expr α → Expr α
  | .constant x => .constant x
  | .field d => .field d.asWritten
  | .call name args => .call name (asWrittenAll args)

def asWrittenAll : List (Expr α) → List (Expr α)
  | [] => []
  | e :: es => e.asWritten :: asWrittenAll es

end

mutual

theorem asWritten_eq_self_iff :
    ∀ e : Expr α, e.asWritten = e ↔ ∀ d ∈ e.fields, d.OnBoundary
  | .constant x => by simp [asWritten, fields]
  | .field d => by
    rw [asWritten, field.injEq, Descriptor.asWritten_eq_self_iff, fields, List.forall_mem_singleton]
  | .call name args => by
    rw [asWritten, call.injEq, asWrittenAll_eq_self_iff args, fields]
    exact and_iff_right rfl

theorem asWrittenAll_eq_self_iff :
    ∀ es : List (Expr α), asWrittenAll es = es ↔ ∀ d ∈ fieldsAll es, d.OnBoundary
  | [] => by simp [asWrittenAll, fieldsAll]
  | e :: es => by
    rw [asWrittenAll, List.cons.injEq, asWritten_eq_self_iff e, asWrittenAll_eq_self_iff es,
      fieldsAll, List.forall_mem_append]

end

variable [Number α]

mutual

/-- Constants are finite, and so are the numbers of projections in descriptors. -/
def Storable : Expr α → Prop
  | .constant x => Number.Finite x
  | .field d => d.Storable
  | .call _ args => StorableAll args

def StorableAll : List (Expr α) → Prop
  | [] => True
  | e :: es => e.Storable ∧ StorableAll es

end

variable (order : EntryOrder α)

theorem content?_json (name name' : String) (d : Document α) :
    content? name ((Document.ofFields [(name', d)]).json order) =
      if name' = name then some (d.json order) else none := by
  rw [Document.json_ofFields_single]
  by_cases h : name' = name
  · simp [content?, Document.recordFields?, Document.isKey, Document.isKeyOf, h]
  · simp [content?, Document.recordFields?, Document.isKey, Document.isKeyOf, h]

theorem constant?_json_of_ne {name : String} (h : name ≠ "constant") (d : Document α) :
    constant? ((Document.ofFields [(name, d)]).json order) = none := by
  rw [constant?, content?_json, if_neg h]
  rfl

theorem field?_json_of_ne {name : String} (h : name ≠ "field") (d : Document α) :
    field? ((Document.ofFields [(name, d)]).json order) = none := by
  rw [field?, content?_json, if_neg h]
  rfl

theorem constant?_json {x : α} (h : Number.Finite x) :
    constant? ((constant x).document.json order) = some (constant x) := by
  rw [constant?, document, content?_json, if_pos rfl, Document.json_real h]
  rfl

theorem field?_json {d : Descriptor α} (h : d.Storable) :
    field? ((field d).document.json order) = some (field d.asWritten) := by
  rw [field?, document, content?_json, if_pos rfl]
  simp only [Option.bind_eq_bind, Option.bind_some, Descriptor.ofDocument?_json order h]

theorem callParts?_json (name : String) (args : List (Expr α)) :
    callParts? ((call name args).document.json order) =
      some (name, Document.jsonAll order (documents args)) := by
  have hnames : ["name", "args"].Nodup := by decide
  have hfields : ((Document.ofFields
      [("name", .text name), ("args", .list (documents args))]).json order).fields?
        ["name", "args"] =
      some [some (.text name), some (.list (Document.jsonAll order (documents args)))] :=
    Document.fields?_json hnames rfl order
  rw [callParts?, document, content?_json, if_pos rfl]
  simp only [Option.bind_eq_bind, Option.bind_some, hfields]
  rfl

theorem depthAll_lt_depth (name : String) (args : List (Expr α)) :
    Document.depthAll (Document.jsonAll order (documents args)) + 2 <
      ((call name args).document.json order).depth := by
  have hlist : ((Document.list (documents args)).json order).depth =
      Document.depthAll (Document.jsonAll order (documents args)) + 1 := rfl
  have hargs : ("args", Document.list (documents args)) ∈
      [("name", Document.text name), ("args", .list (documents args))] := by simp
  have hparts := Document.depth_json_lt hargs order
  have hcall := Document.depth_json_lt (List.mem_singleton_self ("call", Document.ofFields
    [("name", Document.text name), ("args", .list (documents args))])) order
  rw [document]
  omega

mutual

theorem readWithin?_json : ∀ (e : Expr α) (fuel : Nat), e.Storable →
    (e.document.json order).depth < fuel →
      readWithin? fuel (e.document.json order) = some e.asWritten
  -- Whatever fuel is more than the depth of the value is enough.
  | .constant x, fuel + 1, h, _ => by
    rw [readWithin?, constant?_json order h]
    rfl
  | .field d, fuel + 1, h, _ => by
    have hconstant : constant? ((field d).document.json order) = none :=
      constant?_json_of_ne order (by decide) d.document
    rw [readWithin?, hconstant, field?_json order h]
    rfl
  | .call name args, fuel + 1, h, hfuel => by
    have hconstant : constant? ((call name args).document.json order) = none :=
      constant?_json_of_ne order (by decide) _
    have hfield : field? ((call name args).document.json order) = none :=
      field?_json_of_ne order (by decide) _
    have hdepth := depthAll_lt_depth order name args
    have hargs := readAllWithin?_json args fuel h (by omega)
    rw [readWithin?, hconstant, hfield, callParts?_json]
    simp only [Option.bind_eq_bind, Option.bind_some, hargs]
    rfl

theorem readAllWithin?_json : ∀ (es : List (Expr α)) (fuel : Nat), StorableAll es →
    Document.depthAll (Document.jsonAll order (documents es)) < fuel →
      (Document.jsonAll order (documents es)).mapM (readWithin? fuel) = some (asWrittenAll es)
  | [], fuel, _, _ => rfl
  | e :: es, fuel, h, hfuel => by
    rw [documents, Document.jsonAll, Document.depthAll] at hfuel
    have hhead := readWithin?_json e fuel h.1 (by omega)
    have htail := readAllWithin?_json es fuel h.2 (by omega)
    rw [documents, Document.jsonAll, List.mapM_cons, hhead, htail]
    rfl

end

theorem read_document_json (e : Expr α) (h : e.Storable) :
    ofDocument? (e.document.json order) = some e.asWritten :=
  readWithin?_json order e _ h (Nat.lt_succ_self _)

/-- Where constants and projections are finite, the JSON value of an expression reads as it was
written, which is the expression if and only if every leap second in it ends a minute. -/
theorem ofDocument?_document_json (e : Expr α) (h : e.Storable) :
    ofDocument? (e.document.json order) = some e.asWritten ∧
      (e.asWritten = e ↔ ∀ d ∈ e.fields, d.OnBoundary) :=
  ⟨read_document_json order e h, asWritten_eq_self_iff e⟩

theorem ofDocument?_document_of_not_finite {x : α} (h : ¬ Number.Finite x) :
    ofDocument? ((constant x).document.json order) = none := by
  have hvalue : (Document.real x).json order = .null := if_neg h
  have hconstant : constant? ((constant x).document.json order) = none := by
    rw [constant?, document, content?_json, if_pos rfl, hvalue]
    rfl
  have hfield : field? ((constant x).document.json order) = none :=
    field?_json_of_ne order (by decide) _
  have hcall : callParts? ((constant x).document.json order) = none := by
    rw [callParts?, document, content?_json, if_neg (by decide)]
    rfl
  rw [ofDocument?, readWithin?, hconstant, hfield, hcall]
  rfl

namespace Forecast

def projection : Projection Float := ⟨.mercator 0.1, .standard, some ⟨3, 2, 0.5⟩⟩

def time : Timestamp :=
  ⟨⟨2016, 12, 31, by decide, by decide, by decide⟩, 86399, 1500000000, by decide, by decide⟩

def descriptor : Descriptor Float :=
  { source := "gem", element := "tt", level := "850mb", kind := .scattered, validTime := some time,
    projection := some projection }

def sum : Expr Float := .call "plus" [.constant (-0.25), .field descriptor]

def early : Timestamp :=
  ⟨⟨2026, 3, 1, by decide, by decide, by decide⟩, 43230, 1500000000, by decide, by decide⟩

def later : Timestamp :=
  ⟨⟨2026, 3, 1, by decide, by decide, by decide⟩, 43231, 500000000, by decide, by decide⟩

def leaf (time : Timestamp) : Expr Float :=
  .field { source := "gem", element := "tt", level := "850mb", kind := .continuous, validTime := time }

theorem storable : sum.Storable := by
  have hnumbers : Number.Finite (-0.25 : Float) ∧ Number.Finite (0.1 : Float) ∧
      Number.Finite (0.5 : Float) := by decide +kernel
  have hzero : Number.Finite projection.frame.originLat := by decide +kernel
  have hunits : Number.Finite projection.frame.units := by decide +kernel
  obtain ⟨hconstant, hlatitude, hcell⟩ := hnumbers
  refine ⟨hconstant, fun p hp => ?_, trivial⟩
  cases hp
  refine ⟨hlatitude, ⟨hzero, hzero, hzero, hzero, hzero, hzero, hzero, hunits⟩, fun g hg => ?_⟩
  cases hg
  exact ⟨by decide, by decide, hcell⟩

end Forecast

theorem ofDocument?_document_json_forecast :
    Forecast.sum.Storable ∧
      ofDocument? (Forecast.sum.document.json .byName) = some Forecast.sum := by
  obtain ⟨hread, hself⟩ := ofDocument?_document_json .byName Forecast.sum Forecast.storable
  have hboundary : ∀ d ∈ Forecast.sum.fields, d.OnBoundary := by
    intro d hd
    cases List.mem_singleton.mp hd
    refine ⟨fun t ht => ?_, fun t ht => ?_⟩
    · cases ht
    · cases ht
      exact fun _ => rfl
  exact ⟨Forecast.storable, hself.mpr hboundary ▸ hread⟩

/-- A leap second within a minute has the text of the second after it, and is read as that one. -/
theorem ofDocument?_document_json_ne :
    (Forecast.leaf Forecast.early).Storable ∧
      ofDocument? ((Forecast.leaf Forecast.early).document.json .byName) =
        some (Forecast.leaf Forecast.later) ∧
      Forecast.leaf Forecast.later ≠ Forecast.leaf Forecast.early := by
  have hstorable : (Forecast.leaf Forecast.early).Storable := fun p hp => nomatch hp
  refine ⟨hstorable, read_document_json .byName _ hstorable, fun h => ?_⟩
  have htime := congrArg Descriptor.validTime (field.inj h)
  exact absurd (Option.some.inj htime) (by decide)

end Synoptic.Expr
