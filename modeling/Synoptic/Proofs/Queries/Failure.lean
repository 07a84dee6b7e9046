import Synoptic.Proofs.Outcome

namespace Synoptic.Database

variable {α β γ : Type} {Q : ValueError α → Prop}

def FailsWith (Q : ValueError α → Prop) (q : Query α β) : Prop :=
  Ensures (fun _ => True) q (fun _ => True) fun e => ∀ v, e = .value v → Q v

theorem FailsWith.bind {q : Query α β} {f : β → Query α γ} (hq : FailsWith Q q)
    (hf : ∀ b, FailsWith Q (f b)) : FailsWith Q (q >>= f) :=
  Ensures.bind hq fun b _ => hf b

theorem FailsWith.outcome {q : Query α β} (hq : FailsWith Q q)
    {f : Except (DatabaseError α) β → Query α γ}
    (hf : ∀ r, Yields r (fun _ => True) (fun e => ∀ v, e = .value v → Q v) → FailsWith Q (f r)) :
    FailsWith Q (q.outcome >>= f) :=
  Ensures.bind (Query.ensures_outcome hq) hf

theorem failsWith_pure (b : β) : FailsWith Q (pure b : Query α β) := Ensures.pure trivial

theorem failsWith_throw {e : DatabaseError α} (h : ∀ v, e = .value v → Q v) :
    FailsWith Q (throw e : Query α β) := Ensures.throw h

theorem failsWith_get : FailsWith Q (get : Query α (Database α)) :=
  fun _ _ => ⟨trivial, trivial⟩

theorem failsWith_modify (f : Database α → Database α) : FailsWith Q (modify f) :=
  fun _ _ => ⟨trivial, trivial⟩

theorem failsWith_onCache (f : Cache α → β × Cache α) : FailsWith Q (onCache f) :=
  fun _ _ => ⟨trivial, trivial⟩

theorem failsWith_takeCategory (kind : FieldKind) :
    FailsWith Q (takeCategory kind : Query α Category) := by
  intro db _
  cases kind <;> exact ⟨trivial, trivial⟩

theorem failsWith_readFile (path : Path) (d : Descriptor α) : FailsWith Q (readFile path d) := by
  apply failsWith_get.bind
  intro db
  cases db.archive.read? path with
  | some r => exact Ensures.bind (Ensures.set trivial) fun _ _ => failsWith_pure _
  | none => exact failsWith_throw nofun

theorem failsWith_fetch (d : Descriptor α) : FailsWith Q (fetch d) := by
  apply (failsWith_takeCategory d.kind).bind
  intro category
  apply failsWith_get.bind
  intro db
  cases db.archive.locate? d with
  | none => exact failsWith_throw nofun
  | some path =>
    apply (failsWith_readFile path d).bind
    intro file
    cases file.take? category d.kind d.element d.level with
    | some field => exact failsWith_pure _
    | none => exact failsWith_throw nofun

theorem failsWith_singleSurface (d : Descriptor α) (element : String) (field : Field α) :
    FailsWith Q (singleSurface d element field) := by
  rw [singleSurface]
  split
  · exact failsWith_pure _
  · exact failsWith_throw nofun

variable [Number α]

theorem failsWith_entry (d : Descriptor α) : FailsWith Q (entry d) := by
  apply (failsWith_onCache _).bind
  intro found
  cases found with
  | some e => exact failsWith_pure _
  | none =>
    apply (failsWith_fetch d).bind
    rintro ⟨projection, field⟩
    exact (failsWith_onCache _).bind fun _ => failsWith_pure _

theorem failsWith_vectorComponent (vector : Descriptor α) (element : String) :
    FailsWith Q (vectorComponent vector element) := by
  apply (failsWith_entry _).outcome
  intro r _
  cases r with
  | ok e =>
    dsimp only
    split
    · exact failsWith_pure _
    · exact failsWith_throw nofun
  | error e => exact failsWith_throw nofun

theorem failsWith_assemble (d : Descriptor α) (xElement yElement : String) :
    FailsWith Q (assemble d xElement yElement) := by
  apply (failsWith_vectorComponent d xElement).bind
  rintro ⟨xProjection, x⟩
  apply (failsWith_vectorComponent d yElement).bind
  rintro ⟨yProjection, y⟩
  dsimp only
  split
  · apply (failsWith_onCache _).bind
    intro _
    exact (failsWith_modify _).bind fun _ => failsWith_pure _
  · exact failsWith_throw nofun

theorem failsWith_vectorField (d : Descriptor α) (xElement yElement : String) :
    FailsWith Q (vectorField d xElement yElement) := by
  rw [vectorField]
  split
  · exact fun _ _ => ⟨trivial, nofun⟩
  apply (failsWith_entry d).outcome
  intro r hr
  cases r with
  | ok e =>
    dsimp only
    split
    · exact (failsWith_modify _).bind fun _ => failsWith_pure _
    · exact failsWith_assemble d xElement yElement
  | error e =>
    cases e with
    | fetch e => exact failsWith_assemble d xElement yElement
    | _ => exact failsWith_throw hr

theorem failsWith_partnerEntry (d : Descriptor α) (partner : String) :
    FailsWith Q (partnerEntry d partner) := by
  apply (failsWith_entry _).outcome
  intro r _
  cases r with
  | ok e => exact failsWith_pure _
  | error e => exact failsWith_throw nofun

theorem failsWith_componentField (d : Descriptor α) (axis : Axis) (partner : String)
    {target : Projection α}
    (h : ∀ x y v, Reprojection.components x y target = .error v → Q v) :
    FailsWith Q (componentField d axis partner target) := by
  apply (failsWith_entry d).bind
  intro requested
  split
  · apply (failsWith_partnerEntry d partner).bind
    intro other
    split
    · apply (failsWith_singleSurface d d.element requested.field).bind
      intro mine
      apply (failsWith_singleSurface d partner other.field).bind
      intro theirs
      dsimp only
      split
      · exact failsWith_pure _
      · rename_i v hv
        apply failsWith_throw
        rintro _ ⟨⟩
        exact h _ _ v hv
    · exact failsWith_throw nofun
  · exact failsWith_pure _

theorem failsWith_fieldFor (d : Descriptor α) {target : Projection α}
    (h : ∀ x y v, Reprojection.components x y target = .error v → Q v) :
    FailsWith Q (fieldFor d target) := by
  apply failsWith_get.bind
  intro db
  dsimp only
  split
  · exact failsWith_vectorField d _ _
  · split
    · exact failsWith_componentField d _ _ h
    · exact (failsWith_entry d).bind fun _ => failsWith_pure _

end Synoptic.Database
