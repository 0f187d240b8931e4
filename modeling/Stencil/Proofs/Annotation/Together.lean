import Stencil.Operation.Resolution
import Stencil.Proofs.Outcome
import Stencil.Proofs.Text

/-!
# Annotations in company

The annotations of a method, or of a class and those it inherits from, are evaluated in company: in
order, up to the first fault. Either all of them denote types (`EvaluateTogether`), or one fault
comes first (`FirstFault`), and never both. Where all denote types, the type that is known of an
attribute is that of its nearest annotation (`AnnotatedOnce.lookup_references`).
-/
namespace Stencil

/-- All of some annotations denote types. -/
def EvaluateTogether (annotations : List (Text × PlacedAnnotation)) : Prop :=
  ∀ entry ∈ annotations, ∃ expected, entry.2.reference = .ok expected

/-- Of some annotations, the first one that denotes no type has a fault. -/
def FirstFault (annotations : List (Text × PlacedAnnotation)) (fault : Fault) : Prop :=
  ∃ before entry after, annotations = before ++ entry :: after ∧ EvaluateTogether before ∧
    entry.2.reference = .error fault

/-- The evaluation of some annotations breaks off: the first fault among them is not passed over. -/
def BreaksOff (annotations : List (Text × PlacedAnnotation)) (fault : Fault) : Prop :=
  fault.isRecoverable = false ∧ FirstFault annotations fault

section Company

variable {annotations : List (Text × PlacedAnnotation)} {types : List (Text × Expected)}
  {fault : Fault}

/-- Annotations are evaluated entry by entry. -/
theorem references_eq (annotations : List (Text × PlacedAnnotation)) :
    references annotations =
      annotations.mapM fun entry => entry.2.reference.map fun expected => (entry.1, expected) := rfl

/-- Annotations have types exactly if all of them denote one. -/
theorem exists_references :
    (∃ types, references annotations = .ok types) ↔ EvaluateTogether annotations := by
  rw [references_eq]
  constructor
  · rintro ⟨types, found⟩ entry member
    obtain ⟨before, after, rfl⟩ := List.append_of_mem member
    rw [List.mapM_append, bind_eq_ok] at found
    obtain ⟨firsts, -, behind⟩ := found
    obtain ⟨others, others_found, -⟩ := bind_eq_ok.mp behind
    rw [List.mapM_cons, bind_eq_ok] at others_found
    obtain ⟨result, here, -⟩ := others_found
    exact exists_map_eq_ok.mp ⟨result, here⟩
  · intro together
    apply exists_mapM_eq_ok
    intro entry member
    exact exists_map_eq_ok.mpr (together entry member)

/-- The evaluation of annotations ends with a fault exactly if it is the first one. -/
theorem references_eq_error :
    references annotations = .error fault ↔ FirstFault annotations fault := by
  simp only [references_eq, mapM_eq_error, map_eq_error, exists_map_eq_ok, FirstFault,
    EvaluateTogether]

/-- Where all annotations denote types there is no fault. -/
theorem FirstFault.not_evaluateTogether (first : FirstFault annotations fault) :
    ¬ EvaluateTogether annotations := by
  intro together
  obtain ⟨types, found⟩ := exists_references.mpr together
  rw [references_eq_error.mpr first] at found
  contradiction

variable (annotations) in
/-- Either all annotations denote types, or one fault comes first. -/
theorem evaluateTogether_or_firstFault :
    EvaluateTogether annotations ∨ ∃ fault, FirstFault annotations fault := by
  cases found : references annotations with
  | ok types => exact .inl (exists_references.mp ⟨types, found⟩)
  | error fault => exact .inr ⟨fault, references_eq_error.mp found⟩

/-- A name has the type that its annotation denotes, from whichever end it is looked for. -/
theorem lookup_references_reverse (found : references annotations = .ok types) (name : Text) :
    annotations.reverse.lookup name = none ∧ types.reverse.lookup name = none ∨
      ∃ placed expected, annotations.reverse.lookup name = some placed ∧
        placed.reference = .ok expected ∧ types.reverse.lookup name = some expected := by
  have backwards : references annotations.reverse = .ok types.reverse := by
    rw [references_eq, mapM_eq_ok] at found ⊢
    exact List.forall₂_reverse_iff.mpr found
  exact lookup_of_mapM backwards name

end Company

/-! ### Along a lineage -/

/-- The annotations of some classes, those of the farthest class first, each in its place. -/
def World.annotationsAlong (world : World) (lineage : List ClassInfo) :
    List (Text × PlacedAnnotation) :=
  lineage.reverse.flatMap world.placed

/-- One of some classes annotates an attribute. -/
def AnnotatedAlong (lineage : List ClassInfo) (field : Text) : Prop :=
  ∃ info ∈ lineage, field ∈ info.annotations.map Prod.fst

/-- The annotation of an attribute in the nearest of some classes that annotates it. -/
def World.annotationAlong? (world : World) (lineage : List ClassInfo) (field : Text) :
    Option PlacedAnnotation :=
  lineage.findSome? fun info => (world.placed info).lookup field

/-- No class annotates an attribute twice. -/
def AnnotatedOnce (lineage : List ClassInfo) : Prop :=
  ∀ info ∈ lineage, (info.annotations.map Prod.fst).Nodup

section Lineage

variable {world : World} {lineage : List ClassInfo} {field : Text} {types : List (Text × Expected)}

/-- A class annotates the same attributes wherever its annotations are evaluated. -/
theorem World.names_placed (world : World) (info : ClassInfo) :
    (world.placed info).map Prod.fst = info.annotations.map Prod.fst := by
  rw [World.placed, List.map_map]
  rfl

/-- Among the annotations of some classes an attribute is looked for from the nearest class on. -/
theorem lookup_annotationsAlong :
    (world.annotationsAlong lineage).reverse.lookup field =
      lineage.findSome? fun info => (world.placed info).reverse.lookup field := by
  rw [World.annotationsAlong, List.reverse_flatMap, List.reverse_reverse, Text.lookup_flatMap]
  rfl

variable (world) in
/-- An attribute is found among the annotations of some classes exactly if one of them annotates
it. -/
theorem isSome_lookup_annotationsAlong :
    ((world.annotationsAlong lineage).reverse.lookup field).isSome = true ↔
      AnnotatedAlong lineage field := by
  rw [lookup_annotationsAlong, List.findSome?_isSome_iff, AnnotatedAlong]
  simp only [Text.isSome_lookup, List.map_reverse, List.mem_reverse, World.names_placed]

/-- Where no class annotates an attribute twice, the nearest annotation of the attribute is
found. -/
theorem AnnotatedOnce.lookup_eq (once : AnnotatedOnce lineage) :
    (world.annotationsAlong lineage).reverse.lookup field =
      world.annotationAlong? lineage field := by
  rw [lookup_annotationsAlong, World.annotationAlong?]
  induction lineage with
  | nil => rfl
  | cons info rest ih =>
    obtain ⟨here, behind⟩ := List.forall_mem_cons.mp once
    rw [← world.names_placed info] at here
    rw [List.findSome?_cons, List.findSome?_cons, Text.lookup_reverse here, ih behind]

/-- The types that are known of the attributes of a class come from the annotations along its
lineage. -/
theorem World.attributeTypes_eq (world : World) (type : Text) :
    world.attributeTypes type =
      (references (world.annotationsAlong (world.lineage type))).map Text.lastEntries := rfl

/-- An attribute has a known type exactly if one of the classes annotates it. -/
theorem isSome_lookup_references (found : references (world.annotationsAlong lineage) = .ok types) :
    ((Text.lastEntries types).lookup field).isSome = true ↔ AnnotatedAlong lineage field := by
  rw [Text.lookup_lastEntries, ← isSome_lookup_annotationsAlong world]
  rcases lookup_references_reverse found field with
    ⟨unannotated, unknown⟩ | ⟨placed, expected, held, -, known⟩
  · rw [unannotated, unknown]
    exact Iff.rfl
  · rw [held, known]
    exact iff_of_true rfl rfl

/-- The known type of an attribute is the one that its nearest annotation denotes. -/
theorem AnnotatedOnce.lookup_references (once : AnnotatedOnce lineage)
    (found : references (world.annotationsAlong lineage) = .ok types) (field : Text) :
    world.annotationAlong? lineage field = none ∧ (Text.lastEntries types).lookup field = none ∨
      ∃ placed expected, world.annotationAlong? lineage field = some placed ∧
        placed.reference = .ok expected ∧
        (Text.lastEntries types).lookup field = some expected := by
  rw [Text.lookup_lastEntries, ← once.lookup_eq]
  exact lookup_references_reverse found field

end Lineage
end Stencil
