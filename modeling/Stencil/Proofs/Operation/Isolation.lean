import Stencil.Proofs.Annotation.Direct
import Stencil.Proofs.Operation.AnnotatedAttribute
import Stencil.Proofs.Operation.Arguments

/-!
# Isolation of annotations

The type that is reported of an argument rests on one annotation: that of the parameter that
receives it, or of the attribute that is assigned to. The others decide how that annotation is read,
but not what is reported of it where it is direct or denotes nothing (`PlacedAnnotation.Reported`).
They also decide whether anything is reported: where their evaluation breaks off, its fault is passed
on (`argumentTypes_isolated`).
-/
namespace Stencil

/-! ### One annotation among others -/

/-- An annotation denotes the same beside its neighbours and alone. -/
structure PlacedAnnotation.Denotes (placed : PlacedAnnotation) (own : Expected) : Prop where
  /-- What it denotes where all annotations are evaluated. -/
  beside : placed.annotated.denotes placed.company = .ok own
  /-- What it denotes where it is evaluated alone. -/
  alone : placed.annotated.denotes placed.apart = .ok own

/-- An annotation denotes nothing, neither beside its neighbours nor alone. -/
structure PlacedAnnotation.DenotesNothing (placed : PlacedAnnotation) : Prop where
  /-- It fails where all annotations are evaluated. -/
  beside : ∃ fault, placed.annotated.denotes placed.company = .error fault
  /-- It fails where it is evaluated alone. -/
  alone : ∃ fault, placed.annotated.denotes placed.apart = .error fault

/-- What is reported of an annotation among others. -/
structure PlacedAnnotation.Reported (placed : PlacedAnnotation)
    (company : List (Text × PlacedAnnotation)) (expected : Expected) : Prop where
  /-- Whatever the others are, a direct annotation is reported as what it denotes. -/
  direct : ∀ own, placed.Denotes own → own.isDirect = true → expected = own
  /-- Whatever the others are, an annotation that denotes nothing is reported as any value. -/
  missing : placed.DenotesNothing → expected = .any
  /-- Where all denote types, an annotation is reported as the type that it denotes. -/
  together : EvaluateTogether company → placed.reference = .ok expected
  /-- Where one of them denotes none, it is reported as it is read alone. -/
  apart : ¬ EvaluateTogether company → placed.annotated.isBareNothing = false →
    placed.alone = .ok expected

/-- The first fault among some annotations is passed over. -/
def PassesOver (annotations : List (Text × PlacedAnnotation)) : Prop :=
  ∃ fault, FirstFault annotations fault ∧ fault.isRecoverable = true

section Reports

variable {company : List (Text × PlacedAnnotation)} {annotated : Annotated}
  {placed : PlacedAnnotation} {own expected : Expected} {scope : Scope} {fault : Fault}

/-- The bare absent value denotes itself. -/
theorem Annotated.denotes_of_isBareNothing (scope : Scope) (bare : annotated.isBareNothing = true) :
    annotated.denotes scope = .ok .nothing := by
  obtain ⟨expression, quoted⟩ := annotated
  cases expression with
  | nothing =>
    cases quoted with
    | true => contradiction
    | false => rfl
  | _ => contradiction

/-- An annotation that denotes something is read as that. -/
theorem Annotated.alone_of_denotes (denotes : annotated.denotes scope = .ok own) :
    annotated.alone scope = .ok own := by
  rw [alone, denotes]

/-- One that does not is read as any value, if it is read at all. -/
theorem Annotated.eq_any_of_alone (failed : annotated.denotes scope = .error fault)
    (found : annotated.alone scope = .ok expected) : expected = .any := by
  rw [alone, failed] at found
  dsimp only at found
  split at found
  · exact (Except.ok.inj found).symm
  · contradiction

/-- The type that an annotation denotes is what is reported of it where all denote types. -/
theorem PlacedAnnotation.Reported.of_together (together : EvaluateTogether company)
    (found : placed.reference = .ok expected) : placed.Reported company expected where
  direct := fun _ denotes direct => Annotated.eq_of_direct denotes.beside direct found
  missing := by
    rintro ⟨⟨fault, failed⟩, -⟩
    rw [reference, Annotated.reference_eq_error failed] at found
    contradiction
  together := fun _ => found
  apart := fun apart => absurd together apart

/-- What an annotation is read as alone is what is reported of it where not all denote types. -/
theorem PlacedAnnotation.Reported.of_apart (apart : ¬ EvaluateTogether company)
    (read : placed.annotated.isBareNothing = false → placed.alone = .ok expected) :
    placed.Reported company expected := by
  -- The bare absent value may be passed over; it denotes itself, which is neither direct nor missing.
  cases bare : placed.annotated.isBareNothing with
  | true =>
    have denotes := Annotated.denotes_of_isBareNothing placed.apart bare
    refine ⟨fun own found direct => ?_, ?_, fun together => absurd together apart,
      fun _ not_bare => absurd (not_bare.symm.trans bare) Bool.false_ne_true⟩
    · obtain rfl := Except.ok.inj (found.alone.symm.trans denotes)
      contradiction
    · rintro ⟨-, fault, failed⟩
      rw [denotes] at failed
      contradiction
  | false =>
    have read := read bare
    refine ⟨fun own found _ => ?_, ?_, fun together => absurd together apart, fun _ _ => read⟩
    · exact Except.ok.inj (read.symm.trans (Annotated.alone_of_denotes found.alone))
    · rintro ⟨-, fault, failed⟩
      exact Annotated.eq_any_of_alone failed read

/-- Where the first fault among annotations is passed over, not all of them denote types. -/
theorem PassesOver.not_evaluateTogether (passes : PassesOver company) :
    ¬ EvaluateTogether company := by
  obtain ⟨fault, first, -⟩ := passes
  exact first.not_evaluateTogether

variable (company) in
/-- All annotations denote types, or the first fault is passed over, or their evaluation breaks
off. -/
theorem evaluateTogether_or_passesOver_or_breaksOff :
    EvaluateTogether company ∨ PassesOver company ∨ ∃ fault, BreaksOff company fault := by
  rcases evaluateTogether_or_firstFault company with together | ⟨fault, first⟩
  · exact .inl together
  · cases recoverable : fault.isRecoverable with
    | true => exact .inr (.inl ⟨fault, first, recoverable⟩)
    | false => exact .inr (.inr ⟨fault, recoverable, first⟩)

end Reports

/-! ### Parameters -/

/-- What is reported of a parameter among the annotations of its method; one that has no annotation
is reported as such. -/
def Parameter.Reported (parameter : Parameter) (scope : Scope)
    (company : List (Text × PlacedAnnotation)) (expected : Expected) : Prop :=
  match parameter.annotation with
  | some annotated => PlacedAnnotation.Reported ⟨annotated, scope, scope⟩ company expected
  | none => expected = .plain .unspecified

/-- The evaluation of the annotations of a signature breaks off. -/
inductive Signature.BreaksOff (signature : Signature) (scope : Scope) (fault : Fault) : Prop
  /-- The first fault among all of them is not passed over. -/
  | together (broken : Stencil.BreaksOff (signature.placed scope) fault)
  /-- The first fault is passed over, and the first fault among the annotations of the parameters
  that are shown, each read alone, is not. -/
  | apart {before after : List Parameter} {parameter : Parameter}
    (passed : PassesOver (signature.placed scope))
    (split : signature.shown = before ++ parameter :: after)
    (read : ∀ other ∈ before, ∃ expected, other.alone scope = .ok expected)
    (fails : parameter.alone scope = .error fault)

/-- A signature is one of a method: it has the annotations of the method, shows some of its
parameters, and lets arguments reach some of those. -/
structure Signature.Shows (signature : Signature) (method : Method) : Prop where
  /-- All annotations of the method belong to it. -/
  annotations : signature.annotations = method.annotations
  /-- What it shows are parameters of the method. -/
  shown : signature.shown.Sublist method.parameters
  /-- What arguments can reach is shown. -/
  parameters : signature.parameters ⊆ signature.shown

section Parameters

variable {signature : Signature} {scope : Scope} {name : Text} {count : Nat}
  {fault : Fault} {method : Method} {expectations : List (Text × Expected)}

/-- Where the annotations of a signature denote types, it expects those. -/
theorem Signature.expectations_of_together
    (found : references (signature.placed scope) = .ok expectations) :
    signature.expectations scope = .ok expectations := by
  rw [Signature.expectations, found]

/-- Where the first fault is passed over, it expects what the annotations are read as alone. -/
theorem Signature.expectations_of_passesOver (passes : PassesOver (signature.placed scope)) :
    signature.expectations scope = (signature.expectationsApart scope).mapError .escaped := by
  obtain ⟨fault, first, recoverable⟩ := passes
  rw [expectations, references_eq_error.mpr first]
  exact if_pos recoverable

/-- A fault that the evaluation breaks off with is passed on. -/
theorem Signature.argumentTypes_of_breaksOff (broken : signature.BreaksOff scope fault)
    (name : Text) (count : Nat) :
    signature.argumentTypes scope name count = .error (.escaped fault) := by
  have no_expectations : signature.expectations scope = .error (.escaped fault) := by
    cases broken with
    | together broken =>
      rw [expectations, references_eq_error.mpr broken.2]
      exact if_neg (Bool.eq_false_iff.mp broken.1)
    | apart passed split read fails =>
      have failed : signature.expectationsApart scope = .error fault := by
        refine mapM_eq_error.mpr ⟨_, _, _, split, fun other among => ?_, map_eq_error.mpr fails⟩
        exact exists_map_eq_ok.mpr (read other among)
      rw [expectations_of_passesOver passed, failed]
      rfl
  rw [argumentTypes, no_expectations]
  rfl

/-- What is read of the parameters that are shown is found by their names. -/
theorem Signature.alone_eq_of_expectationsApart
    (found : signature.expectationsApart scope = .ok expectations)
    (distinct : (signature.shown.map Parameter.name).Nodup) {parameter : Parameter}
    (member : parameter ∈ signature.shown) :
    parameter.alone scope = .ok (expectationAmong expectations parameter) := by
  have by_name : ((signature.shown.map fun parameter => (parameter.name, parameter)).mapM
      fun entry => (entry.2.alone scope).map fun expected => (entry.1, expected)) =
        .ok expectations := by
    rw [List.mapM_map]
    exact found
  have held : (signature.shown.map fun parameter => (parameter.name, parameter)).lookup
      parameter.name = some parameter := by
    refine Text.lookup_of_mem ?_ (List.mem_map.mpr ⟨parameter, member, rfl⟩)
    rw [List.map_map]
    exact distinct
  rcases @lookup_of_mapM _ _ _ _ _ (fun parameter : Parameter => parameter.alone scope) _ _ by_name
    parameter.name with
    ⟨unknown, -⟩ | ⟨other, expected, same, read, known⟩
  · rw [held] at unknown
    contradiction
  · obtain rfl := Option.some.inj (held.symm.trans same)
    rw [expectationAmong, known]
    exact read

/-- Where the evaluation does not break off, a signature of a method expects of each parameter that
is shown what is reported of its annotation. -/
theorem Signature.Shows.exists_expectations (shows_method : signature.Shows method)
    (formed : method.WellFormed) (unbroken : ∀ fault, ¬ signature.BreaksOff scope fault) :
    ∃ expectations, signature.expectations scope = .ok expectations ∧
      ∀ parameter ∈ signature.shown, parameter.Reported scope (signature.placed scope)
        (expectationAmong expectations parameter) := by
  rcases evaluateTogether_or_passesOver_or_breaksOff (signature.placed scope) with
    together | passes | ⟨fault, broken⟩
  · obtain ⟨types, found⟩ := exists_references.mpr together
    refine ⟨types, expectations_of_together found, fun parameter member => ?_⟩
    have own : signature.annotations.lookup parameter.name = parameter.annotation := by
      rw [shows_method.annotations]
      exact formed.lookup_annotations (shows_method.shown.subset member)
    have known := lookup_of_mapM found parameter.name
    rw [placed, Text.lookup_map_values parameter.name fun annotated =>
      PlacedAnnotation.mk annotated scope scope, own] at known
    rw [Parameter.Reported, expectationAmong]
    rcases known with ⟨unannotated, unknown⟩ | ⟨placed, expected, held, denotes, known⟩
    · rw [Option.map_eq_none_iff.mp unannotated, unknown]
      rfl
    · obtain ⟨annotated, noted, rfl⟩ := Option.map_eq_some_iff.mp held
      rw [noted, known]
      exact .of_together together denotes
  · cases found : signature.expectationsApart scope with
    | error fault =>
      obtain ⟨before, parameter, after, split, read, fails⟩ := mapM_eq_error.mp found
      refine absurd (.apart passes split (fun other among => ?_) (map_eq_error.mp fails))
        (unbroken fault)
      exact exists_map_eq_ok.mp (read other among)
    | ok expectations =>
      refine ⟨expectations, ?_, fun parameter member => ?_⟩
      · rw [expectations_of_passesOver passes, found]
        rfl
      · have read := alone_eq_of_expectationsApart found
          (formed.distinct.sublist (shows_method.shown.map _)) member
        rw [Parameter.alone] at read
        rw [Parameter.Reported]
        cases noted : parameter.annotation with
        | none =>
          rw [noted] at read
          exact (Except.ok.inj read).symm
        | some annotated =>
          rw [noted] at read
          exact .of_apart passes.not_evaluateTogether fun _ => read
  · exact absurd (.together broken) (unbroken fault)

/-- The parameter that an argument reaches is one of the parameters. -/
theorem mem_of_receiverAt? {parameters : List Parameter} {position : Nat} {parameter : Parameter}
    (reached : receiverAt? parameters position = some parameter) : parameter ∈ parameters := by
  rw [receiverAt?, Option.or_eq_some_iff] at reached
  rcases reached with positional | ⟨-, rest⟩
  · exact (List.mem_filter.mp (List.mem_of_getElem? positional)).1
  · exact List.mem_of_find?_eq_some rest

/-- Where the evaluation does not break off, a signature has types for arguments that are taken:
each is what is reported of the parameter that receives the argument. -/
theorem Signature.Shows.exists_argumentTypes (shows_method : signature.Shows method)
    (formed : method.WellFormed) (unbroken : ∀ fault, ¬ signature.BreaksOff scope fault)
    (takes : Takes signature.parameters count) (name : Text) :
    ∃ types, signature.argumentTypes scope name count = .ok types ∧ types.length = count ∧
      ∀ position < count, ∃ parameter expected,
        receiverAt? signature.parameters position = some parameter ∧
        types[position]? = some expected ∧
        parameter.Reported scope (signature.placed scope) expected := by
  obtain ⟨expectations, known, reported⟩ := shows_method.exists_expectations formed unbroken
  have described := argumentTypes_of_takes name known takes
  refine ⟨_, described, length_argumentTypes described, fun position inside => ?_⟩
  obtain ⟨parameter, reached⟩ := takes.exists_receiverAt? inside
  exact ⟨parameter, _, reached, getElem?_argumentTypes known described inside reached,
    reported parameter (shows_method.parameters (mem_of_receiverAt? reached))⟩

end Parameters

/-! ### Attributes -/

/-- What is reported of an attribute along some classes: what is reported of its nearest annotation
among all annotations along them, and any value if it has none. -/
def World.AttributeReported (world : World) (lineage : List ClassInfo) (field : Text)
    (expected : Expected) : Prop :=
  match world.annotationAlong? lineage field with
  | some placed => placed.Reported (world.annotationsAlong lineage) expected
  | none => expected = .any

/-- The nearest annotation of an attribute that is not passed over. -/
def World.chosenAnnotation? (world : World) (lineage : List ClassInfo) (field : Text) :
    Option PlacedAnnotation :=
  lineage.findSome? fun info =>
    ((world.placed info).lookup field).filter fun placed => !placed.annotated.isBareNothing

/-- The evaluation of the annotations along some classes breaks off for an attribute. -/
inductive World.BreaksOff (world : World) (lineage : List ClassInfo) (field : Text)
    (fault : Fault) : Prop
  /-- The first fault among all of them is not passed over. -/
  | together (broken : Stencil.BreaksOff (world.annotationsAlong lineage) fault)
  /-- The first fault is passed over, and the one of the annotation of the attribute, read alone, is
  not. -/
  | apart {placed : PlacedAnnotation} (passed : PassesOver (world.annotationsAlong lineage))
    (chosen : world.chosenAnnotation? lineage field = some placed)
    (fails : placed.alone = .error fault)

section Attributes

variable {world : World} {lineage : List ClassInfo} {field type : Text} {placed : PlacedAnnotation}
  {fault : Fault}

/-- Where no class annotates an attribute there is no annotation to choose. -/
theorem World.chosenAnnotation?_eq_none
    (unannotated : world.annotationAlong? lineage field = none) :
    world.chosenAnnotation? lineage field = none := by
  rw [annotationAlong?, List.findSome?_eq_none_iff] at unannotated
  rw [chosenAnnotation?, List.findSome?_eq_none_iff]
  intro info member
  rw [unannotated info member]
  rfl

/-- The nearest annotation of an attribute is chosen unless it is the bare absent value. -/
theorem World.chosenAnnotation?_eq_some
    (nearest : world.annotationAlong? lineage field = some placed)
    (not_bare : placed.annotated.isBareNothing = false) :
    world.chosenAnnotation? lineage field = some placed := by
  rw [annotationAlong?] at nearest
  rw [chosenAnnotation?]
  induction lineage with
  | nil => contradiction
  | cons info rest ih =>
    rw [List.findSome?_cons] at nearest ⊢
    cases held : (world.placed info).lookup field with
    | none =>
      rw [held] at nearest
      exact ih nearest
    | some here =>
      rw [held] at nearest
      obtain rfl := Option.some.inj nearest
      rw [Option.filter_some, not_bare]
      rfl

/-- The type of an attribute is the one that is known of it, or else what the annotation that is
chosen is read as alone. -/
theorem World.attributeType_eq {types : List (Text × Expected)}
    (known : world.knownAttributeTypes type = .ok types) (field : Text) :
    world.attributeType type field =
      match types.lookup field with
      | some expected => .ok expected
      | none =>
        match world.chosenAnnotation? (world.lineage type) field with
        | some placed => placed.alone.mapError .escaped
        | none => .ok .any := by
  rw [attributeType, known]
  rfl

/-- Where the first fault along the lineage of a class is passed over, no types are known. -/
theorem World.knownAttributeTypes_of_passesOver
    (passes : PassesOver (world.annotationsAlong (world.lineage type))) :
    world.knownAttributeTypes type = .ok [] := by
  obtain ⟨fault, first, recoverable⟩ := passes
  rw [knownAttributeTypes, attributeTypes_eq, references_eq_error.mpr first]
  exact if_pos recoverable

/-- A fault that the evaluation breaks off with is passed on. -/
theorem World.attributeType_of_breaksOff
    (broken : world.BreaksOff (world.lineage type) field fault) :
    world.attributeType type field = .error (.escaped fault) := by
  cases broken with
  | together broken =>
    have unknown : world.knownAttributeTypes type = .error (.escaped fault) := by
      rw [knownAttributeTypes, attributeTypes_eq, references_eq_error.mpr broken.2]
      exact if_neg (Bool.eq_false_iff.mp broken.1)
    rw [attributeType, unknown]
    rfl
  | apart passed chosen fails =>
    rw [attributeType_eq (knownAttributeTypes_of_passesOver passed), chosen]
    dsimp only [List.lookup]
    rw [fails]
    rfl

/-- Where the evaluation does not break off, the type of an attribute is what is reported of it. -/
theorem World.exists_attributeType (once : AnnotatedOnce (world.lineage type))
    (unbroken : ∀ fault, ¬ world.BreaksOff (world.lineage type) field fault) :
    ∃ expected, world.attributeType type field = .ok expected ∧
      world.AttributeReported (world.lineage type) field expected := by
  unfold AttributeReported
  rcases evaluateTogether_or_passesOver_or_breaksOff (world.annotationsAlong (world.lineage type)) with
    together | passes | ⟨fault, broken⟩
  · obtain ⟨types, found⟩ := exists_references.mpr together
    have known : world.knownAttributeTypes type = .ok (Text.lastEntries types) := by
      rw [knownAttributeTypes, attributeTypes_eq, found]
      rfl
    rw [attributeType_eq known]
    rcases once.lookup_references found field with
      ⟨unannotated, unknown⟩ | ⟨placed, expected, nearest, denotes, here⟩
    · rw [unannotated, unknown, chosenAnnotation?_eq_none unannotated]
      exact ⟨_, rfl, rfl⟩
    · rw [nearest, here]
      exact ⟨_, rfl, .of_together together denotes⟩
  · rw [attributeType_eq (knownAttributeTypes_of_passesOver passes)]
    dsimp only [List.lookup]
    cases nearest : world.annotationAlong? (world.lineage type) field with
    | none =>
      rw [chosenAnnotation?_eq_none nearest]
      exact ⟨_, rfl, rfl⟩
    | some placed =>
      have read : ∃ expected,
          (match world.chosenAnnotation? (world.lineage type) field with
            | some placed => placed.alone.mapError .escaped
            | none => .ok .any) = Except.ok (ε := Failure) expected := by
        cases chosen : world.chosenAnnotation? (world.lineage type) field with
        | none => exact ⟨_, rfl⟩
        | some picked =>
          cases found : picked.alone with
          | ok expected => exact ⟨expected, mapError_eq_ok.mpr found⟩
          | error fault => exact absurd (.apart passes chosen found) (unbroken fault)
      obtain ⟨expected, read⟩ := read
      refine ⟨expected, read, .of_apart passes.not_evaluateTogether fun not_bare => ?_⟩
      rw [chosenAnnotation?_eq_some nearest not_bare] at read
      exact mapError_eq_ok.mp read
  · exact absurd (.together broken) (unbroken fault)

end Attributes

/-! ### Operations -/

/-- The method that stands at an attribute. -/
def Attribute.method? : Attribute → Option Method
  | .bound _ method | .free method => some method
  | _ => none

/-- How finding the types of the arguments of an operation fails. -/
inductive Convention.FailsAs (convention : Convention) (state : State) (target : Value)
    (name : Text) : Failure → Prop
  /-- The operation is refused for a reason of its own. -/
  | refused (reason : InvocationFault) : FailsAs convention state target name (.invocation name reason)
  /-- The search for the operation fails. -/
  | search {fault : Fault} (fails : convention.Fails state target name fault) :
    FailsAs convention state target name (.escaped fault)
  /-- The operation is an assignment, and the evaluation of the annotations along the lineage breaks
  off. -/
  | «attribute» {resolved : ResolvedOperation} {fault : Fault}
    (found : convention.resolve state target name = .ok resolved) (assigns : resolved.kind = .assign)
    (broken : state.world.BreaksOff (state.targetLineage target) resolved.field fault) :
    FailsAs convention state target name (.escaped fault)
  /-- The attribute that carries the operation out cannot be read. -/
  | reading {resolved : ResolvedOperation} {fault : Fault}
    (found : convention.resolve state target name = .ok resolved)
    (no_assignment : resolved.kind ≠ .assign)
    (fails : state.callee target resolved.field = .error fault) :
    FailsAs convention state target name (.escaped fault)
  /-- The evaluation of the annotations of its signature breaks off. -/
  | signature {resolved : ResolvedOperation} {callee : Attribute} {signature : Signature}
    {fault : Fault} (found : convention.resolve state target name = .ok resolved)
    (no_assignment : resolved.kind ≠ .assign)
    (held : state.callee target resolved.field = .ok callee)
    (shown : resolved.signature? callee = some signature)
    (broken : signature.BreaksOff (state.world.scope .outside) fault) :
    FailsAs convention state target name (.escaped fault)

/-- An operation is carried out by a method, if not by an assignment, and what is declared for it and
its target is well formed. -/
structure Convention.WellDeclared (convention : Convention) (state : State) (target : Value)
    (name : Text) : Prop where
  /-- What is read of the attribute that carries the operation out is a well-formed method. -/
  method : ∀ resolved value, convention.resolve state target name = .ok resolved →
    resolved.kind ≠ .assign → state.readAttribute target resolved.field = .ok value →
    ∃ routine method, value = .routine routine ∧
      (state.routineAttribute routine).method? = some method ∧ method.WellFormed
  /-- No class of the target annotates an attribute twice. -/
  fields : AnnotatedOnce (state.targetLineage target)

section Operations

variable {convention : Convention} {state : State} {target : Value} {name type : Text}
  {resolved : ResolvedOperation} {signature : Signature} {callee : Attribute} {method : Method}

/-- A method that is bound is left with some of its parameters. -/
theorem Method.boundParameters?_sublist {parameters : List Parameter}
    (left : method.boundParameters? = some parameters) : parameters.Sublist method.parameters := by
  rw [boundParameters?] at left
  cases all : method.parameters with
  | nil =>
    rw [all] at left
    contradiction
  | cons first others =>
    rw [all] at left
    dsimp only at left
    split at left
    · exact Option.some.inj left ▸ List.sublist_cons_self first others
    · exact Option.some.inj left ▸ List.sublist_cons_self first others
    · exact Option.some.inj left ▸ .refl _
    · contradiction
    · contradiction

/-- The signature of a method is one of the method. -/
theorem Attribute.shows_of_signature? (stands : callee.method? = some method)
    (found : callee.signature? = some signature) : signature.Shows method := by
  cases callee with
  | bound receiver own =>
    obtain rfl := Option.some.inj stands
    obtain ⟨parameters, left, rfl⟩ := Option.map_eq_some_iff.mp found
    exact ⟨rfl, Method.boundParameters?_sublist left, List.Subset.refl _⟩
  | free own =>
    obtain rfl := Option.some.inj stands
    obtain rfl := Option.some.inj found
    exact ⟨rfl, .refl _, List.Subset.refl _⟩
  | predefined | constructor | plain => contradiction

/-- The signature of an operation that a method carries out is one of the method. -/
theorem ResolvedOperation.shows_of_signature? (stands : callee.method? = some method)
    (found : resolved.signature? callee = some signature) : signature.Shows method := by
  have without_first : (callee.signature?.map fun whole : Signature =>
        { whole with parameters := whole.parameters.drop 1 }) = some signature →
      signature.Shows method := by
    intro mapped
    obtain ⟨whole, shown, rfl⟩ := Option.map_eq_some_iff.mp mapped
    have shows_method := Attribute.shows_of_signature? stands shown
    exact ⟨shows_method.annotations, shows_method.shown,
      fun parameter member => shows_method.parameters (List.mem_of_mem_drop member)⟩
  rw [signature?] at found
  split at found
  · exact without_first found
  · split at found
    · exact without_first found
    · exact Attribute.shows_of_signature? stands found
  · exact Attribute.shows_of_signature? stands found

/-- What is called to carry a well-declared operation out is a well-formed method. -/
theorem Convention.WellDeclared.exists_method (declared : convention.WellDeclared state target name)
    (found : convention.resolve state target name = .ok resolved)
    (no_assignment : resolved.kind ≠ .assign)
    (held : state.callee target resolved.field = .ok callee) :
    ∃ method, callee.method? = some method ∧ method.WellFormed := by
  rw [State.callee, map_eq_ok] at held
  obtain ⟨value, read, rfl⟩ := held
  obtain ⟨routine, method, rfl, stands, formed⟩ :=
    declared.method resolved value found no_assignment read
  exact ⟨method, stands, formed⟩

/-- The types of an operation that is no assignment are those that its signature has, and any value
for each argument where it shows none. -/
theorem Convention.argumentTypes_of_callee (found : convention.resolve state target name = .ok resolved)
    (no_assignment : resolved.kind ≠ .assign) (count : Nat) :
    convention.argumentTypes state target name count =
      match state.callee target resolved.field with
      | .error fault => .error (.escaped fault)
      | .ok callee =>
        match resolved.signature? callee with
        | some signature => signature.argumentTypes (state.world.scope .outside) name count
        | none => .ok (List.replicate count .any) := by
  rw [argumentTypes, found]
  simp only [Bind.bind, Except.bind]
  cases state.callee target resolved.field <;> rfl

/-- The type of the argument of an assignment is that of the attribute, or any value for a target
that has no class of its own. -/
theorem Convention.argumentTypes_of_assign (found : convention.resolve state target name = .ok resolved)
    (assigns : resolved.kind = .assign) :
    convention.argumentTypes state target name 1 =
      match state.targetClass? target with
      | some type => (state.world.attributeType type resolved.field).map fun expected => [expected]
      | none => .ok [.any] := by
  rw [argumentTypes, found]
  simp only [Bind.bind, Except.bind]
  rw [assigns]
  dsimp only
  rw [if_neg (by decide)]
  cases state.targetClass? target with
  | none => rfl
  | some type => cases state.world.attributeType type resolved.field <;> rfl

/-- An operation that is not found says so, or the search fails. -/
theorem Convention.resolve_failsAs (filled : convention.marker ≠ []) :
    FailsOnly (convention.FailsAs state target name) (convention.resolve state target name) := by
  intro failure failed
  obtain ⟨outcome, finds⟩ := Convention.exists_finds state target name filled
  rw [finds.resolve_eq filled] at failed
  subst failed
  cases finds with
  | needsClass | unknown => exact .refused _
  | fails unchosen fails => exact .search fails

/-- The type of the attribute that is assigned to fails as the evaluation of annotations breaks
off. -/
theorem Convention.attributeType_failsAs (once : AnnotatedOnce (state.targetLineage target))
    (found : convention.resolve state target name = .ok resolved) (assigns : resolved.kind = .assign)
    (class_of : state.targetClass? target = some type) :
    FailsOnly (convention.FailsAs state target name)
      (state.world.attributeType type resolved.field) := by
  have lineage : state.targetLineage target = state.world.lineage type := by
    rw [State.targetLineage, class_of]
    rfl
  by_cases broken : ∃ fault,
      state.world.BreaksOff (state.targetLineage target) resolved.field fault
  · obtain ⟨fault, broken⟩ := broken
    rw [World.attributeType_of_breaksOff (lineage ▸ broken)]
    exact .error (.attribute found assigns broken)
  · rw [lineage] at once broken
    obtain ⟨expected, typed, -⟩ := World.exists_attributeType once (not_exists.mp broken)
    rw [typed]
    exact .ok

/-- A signature fails to have types for other arguments than those that are taken, or as the
evaluation of its annotations breaks off. -/
theorem Convention.signature_failsAs (declared : convention.WellDeclared state target name)
    (found : convention.resolve state target name = .ok resolved)
    (no_assignment : resolved.kind ≠ .assign)
    (held : state.callee target resolved.field = .ok callee)
    (shown : resolved.signature? callee = some signature) (count : Nat) :
    FailsOnly (convention.FailsAs state target name)
      (signature.argumentTypes (state.world.scope .outside) name count) := by
  by_cases broken : ∃ fault, signature.BreaksOff (state.world.scope .outside) fault
  · obtain ⟨fault, broken⟩ := broken
    rw [Signature.argumentTypes_of_breaksOff broken]
    exact .error (.signature found no_assignment held shown broken)
  · obtain ⟨method, stands, formed⟩ := declared.exists_method found no_assignment held
    have shows_method := ResolvedOperation.shows_of_signature? stands shown
    obtain ⟨expectations, known, -⟩ :=
      shows_method.exists_expectations formed (not_exists.mp broken)
    by_cases takes : Takes signature.parameters count
    · rw [Signature.argumentTypes_of_takes name known takes]
      exact .ok
    · rw [Signature.argumentTypes_of_not_takes name known takes]
      exact .error (.refused _)

/-- Finding the types of arguments fails in no other ways. -/
theorem Convention.argumentTypes_failsAs (filled : convention.marker ≠ [])
    (declared : convention.WellDeclared state target name) (count : Nat) :
    FailsOnly (convention.FailsAs state target name)
      (convention.argumentTypes state target name count) := by
  rw [argumentTypes]
  refine (resolve_failsAs filled).bind fun resolved found => ?_
  split
  · next assigns =>
    split
    · exact .error (.refused _)
    · split
      · next type class_of =>
        exact (attributeType_failsAs declared.fields found assigns class_of).bind fun _ _ => .ok
      · exact .ok
  · next no_assignment =>
    have read : FailsOnly (convention.FailsAs state target name)
        ((state.callee target resolved.field).mapError .escaped) :=
      FailsOnly.mapError fun fault fails => .reading found no_assignment fails
    refine read.bind fun callee held => ?_
    split
    · next signature shown =>
      exact signature_failsAs declared found no_assignment (mapError_eq_ok.mp held) shown count
    · exact .ok

end Operations

/-- A method of three parameters: a whole number, one whose annotation is a name that is not known or
an attribute that is missing, and texts beyond them. -/
def mixedMethod (unknown : Bool) : Method where
  owner := "Thing"
  name := "mark"
  operation := none
  kind := .ofObject
  parameters :=
    [.self, ⟨"a", .positional, some ⟨.plain .int, true⟩, none⟩,
      ⟨"b", .positional, some ⟨if unknown then .named "Nope" else .attribute "n", true⟩, none⟩,
      ⟨"words", .rest, some ⟨.plain .text, true⟩, none⟩]
  result := some ⟨.attribute "n", true⟩
  body := .steps []

/-- The state of an object of a class with that method alone. -/
def mixedState (unknown : Bool) : State where
  world := World.empty.declare "Thing" [] [("mark", .method (mixedMethod unknown))] []
  heap := .ofObjects [⟨.declared "Thing", []⟩]

/-- The signature of that method for an object. -/
def mixedSignature (unknown : Bool) : Signature :=
  ⟨(mixedMethod unknown).parameters.tail, (mixedMethod unknown).parameters.tail,
    (mixedMethod unknown).annotations⟩

/-- What is declared for the method is well formed. -/
theorem wellDeclared_mixedState (unknown : Bool) :
    Convention.WellDeclared ⟨":", "init"⟩ (mixedState unknown) (.object 0) "mark:" where
  method := by
    intro resolved value found no_assignment read
    have resolves : Convention.resolve ⟨":", "init"⟩ (mixedState unknown) (.object 0) "mark:" =
        .ok ⟨"mark:", .call, "mark"⟩ := rfl
    obtain rfl := Except.ok.inj (found.symm.trans resolves)
    obtain rfl := Except.ok.inj read
    refine ⟨_, mixedMethod unknown, rfl, rfl, ?_⟩
    cases unknown <;> exact ⟨by decide, by decide, by decide, by decide⟩
  fields := List.forall_mem_cons.mpr ⟨List.nodup_nil, nofun⟩

end Stencil
