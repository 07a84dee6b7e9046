import Synoptic.Binary64.Scalar
import Synoptic.Components.Serial
import Synoptic.Database
import Synoptic.Proofs.Keyed
import Synoptic.Proofs.Outcome
import Synoptic.Proofs.Text.Fold

namespace Synoptic

namespace ComponentTable

variable {t : ComponentTable} {element name x y : String}

/-- The first entry for an element, whatever it is spelled like. -/
def stored? (t : ComponentTable) (name : String) : Option (String × VectorElement) :=
  t.entries.find? fun e => Text.fold e.1 == Text.fold name

theorem vector?_eq (t : ComponentTable) (name : String) : t.vector? name = (t.stored? name).map (·.2) :=
  rfl

theorem fold_of_stored? {e : String × VectorElement} (h : t.stored? name = some e) :
    Text.fold e.1 = Text.fold name := by
  simpa using List.find?_some h

/-- The components that no declaration changes, those of an entry with another key than declarations
have. -/
def fixed? (t : ComponentTable) (name : String) : Option VectorElement :=
  ((t.stored? name).filter (·.1 != Text.fold name)).map (·.2)

theorem entries_set (t : ComponentTable) (key : String) (v : VectorElement) :
    (t.set key v).entries = Keyed.set t.entries key v := by
  rw [set, Keyed.set]
  split <;> rfl

theorem stored?_set (t : ComponentTable) (key : String) (v : VectorElement) (name : String) :
    (t.set key v).stored? name =
      ((t.stored? name).map fun e => if e.1 == key then (key, v) else e).or
        (if Text.fold key = Text.fold name then some (key, v) else none) := by
  rw [stored?, entries_set,
    Keyed.find?_set t.entries key v fun stored => Text.fold stored == Text.fold name, ← stored?]
  simp only [beq_iff_eq]

theorem spelling_set (t : ComponentTable) (key : String) (v : VectorElement) (name : String) :
    ((t.set key v).stored? name).map (·.1) =
      ((t.stored? name).map (·.1)).or (if Text.fold key = Text.fold name then some key else none) := by
  have hkeys : ((·.1) : String × VectorElement → String) ∘
      (fun e => if e.1 == key then (key, v) else e) = (·.1) := funext (Keyed.key_replaced key v)
  rw [stored?_set, Option.map_or, Option.map_map, hkeys, apply_ite (Option.map _), Option.map_some,
    Option.map_none]

theorem stored?_insert_of_ne (h : Text.fold element ≠ Text.fold name) :
    (t.insert element x y).stored? name = t.stored? name := by
  rw [insert, stored?_set, Text.fold_fold, if_neg h, Option.or_none]
  cases hfound : t.stored? name with
  | none => rfl
  | some e =>
    rw [Option.map_some, if_neg]
    intro he
    rw [← fold_of_stored? hfound, beq_iff_eq.mp he, Text.fold_fold] at h
    exact h rfl

theorem insert_congr (h : Text.fold element = Text.fold name) :
    t.insert element x y = t.insert name x y := by
  rw [insert, insert, h]

theorem fixed?_eq_none_iff :
    t.fixed? name = none ↔ ∀ e, t.stored? name = some e → e.1 = Text.fold name := by
  rw [fixed?, Option.map_eq_none_iff, Option.filter_eq_none_iff]
  simp

theorem stored?_insert_of_free (h : t.fixed? name = none) :
    (t.insert name x y).stored? name = some (Text.fold name, ⟨x, y⟩) := by
  rw [insert, stored?_set, Text.fold_fold, if_pos rfl]
  cases hfound : t.stored? name with
  | none => rfl
  | some e =>
    have hkey := fixed?_eq_none_iff.mp h e hfound
    rw [Option.map_some, if_pos (beq_iff_eq.mpr hkey), Option.some_or]

theorem stored?_of_fixed {v : VectorElement} (h : t.fixed? name = some v) :
    ∃ key, key ≠ Text.fold name ∧ t.stored? name = some (key, v) := by
  obtain ⟨⟨key, _⟩, hentry, rfl⟩ := Option.map_eq_some_iff.mp h
  obtain ⟨hentry, hkey⟩ := Option.filter_eq_some_iff.mp hentry
  exact ⟨key, bne_iff_ne.mp hkey, hentry⟩

theorem stored?_insert_of_fixed {v : VectorElement} (h : t.fixed? name = some v) :
    (t.insert name x y).stored? name = t.stored? name := by
  obtain ⟨key, hkey, hentry⟩ := stored?_of_fixed h
  rw [insert, stored?_set, hentry, Option.map_some, Option.some_or, if_neg (by simpa using hkey)]

@[simp] theorem fixed?_insert (t : ComponentTable) (element x y name : String) :
    (t.insert element x y).fixed? name = t.fixed? name := by
  by_cases h : Text.fold element = Text.fold name
  · rw [insert_congr h]
    cases hfixed : t.fixed? name with
    | none => simp [fixed?, stored?_insert_of_free hfixed]
    | some v => rw [fixed?, stored?_insert_of_fixed hfixed, ← fixed?, hfixed]
  · rw [fixed?, stored?_insert_of_ne h, ← fixed?]

theorem vector?_insert (t : ComponentTable) (element x y name : String) :
    (t.insert element x y).vector? name =
      if Text.fold element = Text.fold name then some ((t.fixed? name).getD ⟨x, y⟩)
      else t.vector? name := by
  split
  · rename_i h
    rw [insert_congr h, vector?_eq]
    cases hfixed : t.fixed? name with
    | none => rw [stored?_insert_of_free hfixed, Option.map_some, Option.getD_none]
    | some v =>
      obtain ⟨key, _, hentry⟩ := stored?_of_fixed hfixed
      rw [stored?_insert_of_fixed hfixed, hentry, Option.map_some, Option.getD_some]
  · rename_i h
    rw [vector?_eq, stored?_insert_of_ne h, ← vector?_eq]

def declareAll (t : ComponentTable) (declarations : List (String × VectorElement)) : ComponentTable :=
  declarations.foldl (fun t d => t.insert d.1 d.2.x d.2.y) t

def lastDeclared? (declarations : List (String × VectorElement)) (name : String) :
    Option VectorElement :=
  (declarations.reverse.find? fun d => Text.fold d.1 == Text.fold name).map (·.2)

theorem declareAll_append (t : ComponentTable) (declarations : List (String × VectorElement))
    (d : String × VectorElement) :
    t.declareAll (declarations ++ [d]) = (t.declareAll declarations).insert d.1 d.2.x d.2.y := by
  rw [declareAll, List.foldl_append]
  rfl

theorem lastDeclared?_append (declarations : List (String × VectorElement))
    (d : String × VectorElement) (name : String) :
    lastDeclared? (declarations ++ [d]) name =
      if Text.fold d.1 = Text.fold name then some d.2 else lastDeclared? declarations name := by
  rw [lastDeclared?, List.reverse_append, List.reverse_singleton, List.singleton_append,
    List.find?_cons]
  by_cases h : Text.fold d.1 = Text.fold name
  · rw [if_pos h, beq_iff_eq.mpr h]
    rfl
  · rw [if_neg h, beq_eq_false_iff_ne.mpr h, lastDeclared?]

@[simp] theorem fixed?_declareAll (t : ComponentTable) (declarations : List (String × VectorElement))
    (name : String) : (t.declareAll declarations).fixed? name = t.fixed? name := by
  induction declarations using List.reverseRecOn with
  | nil => rfl
  | append_singleton declarations d ih => rw [declareAll_append, fixed?_insert, ih]

theorem vector?_declareAll (t : ComponentTable) (declarations : List (String × VectorElement))
    (name : String) :
    (t.declareAll declarations).vector? name =
      ((t.fixed? name).or (lastDeclared? declarations name)).or (t.vector? name) := by
  induction declarations using List.reverseRecOn with
  | nil =>
    cases hfixed : t.fixed? name with
    | none => rfl
    | some v =>
      obtain ⟨key, _, hentry⟩ := stored?_of_fixed hfixed
      rw [declareAll, List.foldl_nil, vector?_eq, hentry]
      rfl
  | append_singleton declarations d ih =>
    rw [declareAll_append, vector?_insert, fixed?_declareAll, ih, lastDeclared?_append]
    split
    · cases t.fixed? name <;> rfl
    · rfl

def firstSpelling? (entries : List (String × Yaml.Node)) (name : String) : Option String :=
  (entries.map (·.1)).find? fun key => Text.fold key == Text.fold name

theorem spelling_foldlM (entries : List (String × Yaml.Node)) (t t' : ComponentTable) (name : String)
    (h : entries.foldlM (fun t (key, v) => do some (t.set key (← VectorElement.ofNode? v))) t =
      some t') :
    (t'.stored? name).map (·.1) = ((t.stored? name).map (·.1)).or (firstSpelling? entries name) := by
  induction entries generalizing t with
  | nil =>
    cases h
    exact (Option.or_none).symm
  | cons e entries ih =>
    obtain ⟨key, v⟩ := e
    rw [List.foldlM_cons] at h
    obtain ⟨t₁, hset, hrest⟩ := Option.bind_eq_some_iff.mp h
    obtain ⟨w, _, ht₁⟩ := Option.bind_eq_some_iff.mp hset
    cases ht₁
    rw [ih _ hrest, spelling_set, Option.or_assoc, firstSpelling?, firstSpelling?, List.map_cons,
      List.find?_cons]
    by_cases hkey : Text.fold key = Text.fold name
    · rw [if_pos hkey, beq_iff_eq.mpr hkey, Option.some_or]
    · rw [if_neg hkey, beq_eq_false_iff_ne.mpr hkey, Option.none_or]

theorem fixed?_of_ofNode? {n : Yaml.Node} {entries : List (String × Yaml.Node)}
    (hentries : n.entries? = some entries) (h : ofNode? n = some t) (name : String) :
    t.fixed? name = none ↔ ∀ key, firstSpelling? entries name = some key → key = Text.fold name := by
  rw [ofNode?, hentries] at h
  have hspelling := spelling_foldlM entries empty t name h
  rw [show empty.stored? name = none from rfl, Option.map_none, Option.none_or] at hspelling
  rw [fixed?_eq_none_iff, ← hspelling]
  constructor
  · intro hfolded key hkey
    obtain ⟨e, hentry, rfl⟩ := Option.map_eq_some_iff.mp hkey
    exact hfolded e hentry
  · intro hfolded e hentry
    exact hfolded e.1 (by rw [hentry, Option.map_some])

end ComponentTable

namespace Database

variable {α : Type} [Number α]

theorem fieldFor_of_declared {d : Descriptor α} {db : Database α} {v : VectorElement}
    (hkind : d.kind = .vector) (h : db.components.vector? d.element = some v) (target : Projection α) :
    fieldFor d target db = vectorField d v.x v.y db := by
  have hdeclared : declaredVector? db.components d = some v := by
    rw [declaredVector?, if_pos hkind, h]
  have hget : (get : Query α (Database α)) db = .ok db db := rfl
  rw [fieldFor, run_bind_ok hget]
  simp only [hdeclared]

end Database

namespace ComponentTable

/-- What declarations do to a table. The last one of an element counts for every spelling of it and for
no other element, and fields are read by it; only what is fixed stays. Nothing is fixed in an empty
table, and in one from a document what is spelled there first in another way than it is folded. -/
theorem vector?_declared (t : ComponentTable) (declarations : List (String × VectorElement)) :
    (∀ element x y name, ((t.declareAll declarations).insert element x y).vector? name =
      if Text.fold element = Text.fold name then some ((t.fixed? name).getD ⟨x, y⟩)
      else (t.declareAll declarations).vector? name) ∧
    (∀ name, (t.declareAll declarations).vector? name =
      ((t.fixed? name).or (lastDeclared? declarations name)).or (t.vector? name)) ∧
    (∀ {α : Type} [Number α] (d : Descriptor α) (target : Projection α) (db : Database α)
        (v : VectorElement), d.kind = .vector → db.components = t.declareAll declarations →
      (t.fixed? d.element).or (lastDeclared? declarations d.element) = some v →
      Database.fieldFor d target db = Database.vectorField d v.x v.y db) ∧
    (t = empty → ∀ name, t.fixed? name = none) ∧
    ∀ (n : Yaml.Node) (entries : List (String × Yaml.Node)), n.entries? = some entries →
      ofNode? n = some t → ∀ name, t.fixed? name = none ↔
        ∀ key, firstSpelling? entries name = some key → key = Text.fold name := by
  refine ⟨fun element x y name => ?_, vector?_declareAll t declarations, ?_, ?_,
    fun n entries hentries h => fixed?_of_ofNode? hentries h⟩
  · rw [vector?_insert, fixed?_declareAll]
  · intro α _ d target db v hkind hcomponents hv
    refine Database.fieldFor_of_declared hkind ?_ target
    rw [hcomponents, vector?_declareAll, hv, Option.some_or]
  · rintro rfl name
    rfl

def windText (spelling : String) : String := spelling ++ ":\n  x: uuwind\n  y: vvwind\n"

def windNode (spelling : String) : Yaml.Node :=
  .map [(.plain spelling, .map [(.plain "x", .plain "uuwind"), (.plain "y", .plain "vvwind")])]

def windTable (spelling : String) : ComponentTable := ⟨[(spelling, ⟨"uuwind", "vvwind"⟩)]⟩

def windDeclarations : List (String × VectorElement) :=
  [("WIND", ⟨"u", "v"⟩), (" shear", ⟨"us", "vs"⟩)]

def windDescriptor : Descriptor Float :=
  { source := "gem", element := "Wind", level := "850mb", kind := .vector }

theorem vector?_declared_wind :
    ofNode? (windNode "wind") = some (windTable "wind") ∧ (windTable "wind").fixed? "Wind" = none ∧
      ((windTable "wind").declareAll windDeclarations).vector? "Wind" = some ⟨"u", "v"⟩ ∧
      Database.fieldFor windDescriptor .standard
          (.new .empty ((windTable "wind").declareAll windDeclarations)) =
        Database.vectorField windDescriptor "u" "v"
          (.new .empty ((windTable "wind").declareAll windDeclarations)) := by
  obtain ⟨_, hvector, hfield, _, hdocument⟩ := vector?_declared (windTable "wind") windDeclarations
  have hread : ofNode? (windNode "wind") = some (windTable "wind") := by decide +kernel
  have hfixed : (windTable "wind").fixed? "Wind" = none := by
    refine (hdocument (windNode "wind") _ rfl hread "Wind").mpr ?_
    decide
  refine ⟨hread, hfixed, ?_, hfield _ _ _ ⟨"u", "v"⟩ rfl rfl ?_⟩
  · rw [hvector, hfixed]
    decide
  · rw [windDescriptor, hfixed]
    decide

/-- What a document spells with a capital stays, and is the same when the document declares the element
anew itself. -/
theorem vector?_ne_declared :
    ofYaml? (windText "Wind") = some (windTable "Wind") ∧
      ((windTable "Wind").insert "wind" "us" "vs").vector? "wind" = some ⟨"uuwind", "vvwind"⟩ ∧
      ofYaml? (windText "Wind" ++ "wind:\n  x: us\n  y: vs\n") =
        some ((windTable "Wind").insert "wind" "us" "vs") := by
  exact ⟨by decide +kernel, by decide +kernel, by decide +kernel⟩

end ComponentTable

end Synoptic
