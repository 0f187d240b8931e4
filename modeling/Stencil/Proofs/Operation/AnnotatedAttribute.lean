import Stencil.Proofs.Annotation.Together
import Stencil.Proofs.Operation.Precedence

/-!
# Assignments to annotated attributes

An operation that is left to assignment is carried out where the object has the attribute. An
attribute that is only annotated takes part in the evaluation of all annotations along the lineage:
it is assigned to where all of them denote types, and not found where the first fault among them is
passed over; a fault of another kind ends the search (`resolve_annotatedAttribute`).
-/
namespace Stencil

/-- An operation is left to assignment: no attribute carries it out, and it is named for an
attribute of an object. -/
structure Convention.LeftToAssign (convention : Convention) (state : State) (target : Value)
    (name field : Text) : Prop where
  /-- Nothing is declared for the operation or called by its conventional name. -/
  unchosen : ∀ other, ¬ convention.Chooses state target name other
  /-- The operation is named for the attribute of an object. -/
  named : convention.NamedFor target name field

/-- The annotations along the lineage of a target. -/
def State.targetAnnotations (state : State) (target : Value) : List (Text × PlacedAnnotation) :=
  state.world.annotationsAlong (state.targetLineage target)

/-- The annotations along the lineage of a target are those of its class. -/
theorem State.targetAnnotations_eq {state : State} {target : Value} {type : Text}
    (class_of : state.targetClass? target = some type) :
    state.targetAnnotations target = state.world.annotationsAlong (state.world.lineage type) := by
  rw [targetAnnotations, targetLineage, class_of]
  rfl

/-- A target has an attribute, or it lacks the attribute, which is annotated along the lineage while
all annotations there denote types. -/
def State.Knows (state : State) (target : Value) (field : Text) : Prop :=
  (∃ value, state.attribute? target field = .ok (some value)) ∨
    state.attribute? target field = .ok none ∧
      EvaluateTogether (state.targetAnnotations target) ∧
      AnnotatedAlong (state.targetLineage target) field

/-- A target lacks an attribute, and either all annotations along the lineage denote types and none
is that of the attribute, or the first fault among them is passed over. -/
def State.Misses (state : State) (target : Value) (field : Text) : Prop :=
  state.attribute? target field = .ok none ∧
    (EvaluateTogether (state.targetAnnotations target) ∧
        ¬ AnnotatedAlong (state.targetLineage target) field ∨
      ∃ fault, FirstFault (state.targetAnnotations target) fault ∧ fault.isRecoverable = true)

/-- Reading an attribute of a target fails, or the target lacks it, and the evaluation of the
annotations along the lineage breaks off. -/
def State.BreaksOff (state : State) (target : Value) (field : Text) (fault : Fault) : Prop :=
  state.attribute? target field = .error fault ∨
    state.attribute? target field = .ok none ∧
      Stencil.BreaksOff (state.targetAnnotations target) fault

section Search

variable {convention : Convention} {state : State} {target : Value} {name field candidate : Text}
  {fault : Fault}

/-- For an operation that is left to assignment, an attribute that is missing is looked for among the
annotations along the lineage. -/
theorem Convention.NamedFor.setter?_of_missing (named : convention.NamedFor target name field)
    (absent : state.attribute? target field = .ok none) :
    convention.setter? state target name =
      match references (state.targetAnnotations target) with
      | .ok types =>
        .ok (if ((Text.lastEntries types).lookup field).isSome then some field else none)
      | .error fault => if fault.isRecoverable then .ok none else .error (.escaped fault) := by
  rw [named.setter?_eq, absent]
  cases class_of : state.targetClass? target with
  | none =>
    rw [State.targetAnnotations, State.targetLineage, class_of]
    rfl
  | some type =>
    rw [State.targetAnnotations_eq class_of]
    dsimp only
    rw [World.knownAttributeTypes, World.attributeTypes_eq]
    cases references (state.world.annotationsAlong (state.world.lineage type)) with
    | ok types => rfl
    | error fault =>
      change (if fault.isRecoverable then _ else _) >>= _ = if fault.isRecoverable then _ else _
      cases fault.isRecoverable <;> rfl

/-- Of an attribute one of three things holds. -/
theorem State.knows_or_misses_or_breaksOff (state : State) (target : Value) (field : Text) :
    state.Knows target field ∨ state.Misses target field ∨
      ∃ fault, state.BreaksOff target field fault := by
  cases there : state.attribute? target field with
  | error fault => exact .inr (.inr ⟨fault, .inl there⟩)
  | ok held =>
    cases held with
    | some value => exact .inl (.inl ⟨value, there⟩)
    | none =>
      rcases evaluateTogether_or_firstFault (state.targetAnnotations target) with
        together | ⟨fault, first⟩
      · by_cases annotated : AnnotatedAlong (state.targetLineage target) field
        · exact .inl (.inr ⟨there, together, annotated⟩)
        · exact .inr (.inl ⟨there, .inl ⟨together, annotated⟩⟩)
      · cases recoverable : fault.isRecoverable with
        | true => exact .inr (.inl ⟨there, .inr ⟨fault, first, recoverable⟩⟩)
        | false => exact .inr (.inr ⟨fault, .inr ⟨there, recoverable, first⟩⟩)

/-- An attribute that is known is found for the assignment. -/
theorem Convention.NamedFor.setter?_of_knows (named : convention.NamedFor target name field)
    (known : state.Knows target field) : convention.setter? state target name = .ok (some field) := by
  rcases known with ⟨value, there⟩ | ⟨absent, together, annotated⟩
  · rw [named.setter?_eq, there]
  · obtain ⟨types, found⟩ := exists_references.mpr together
    rw [named.setter?_of_missing absent, found]
    exact congrArg Except.ok (if_pos ((isSome_lookup_references found).mpr annotated))

/-- One that is missed is not. -/
theorem Convention.NamedFor.setter?_of_misses (named : convention.NamedFor target name field)
    (missed : state.Misses target field) : convention.setter? state target name = .ok none := by
  obtain ⟨absent, ⟨together, unannotated⟩ | ⟨fault, first, recoverable⟩⟩ := missed
  · obtain ⟨types, found⟩ := exists_references.mpr together
    rw [named.setter?_of_missing absent, found]
    exact congrArg Except.ok
      (if_neg fun known => unannotated ((isSome_lookup_references found).mp known))
  · rw [named.setter?_of_missing absent, references_eq_error.mpr first]
    exact if_pos recoverable

/-- A fault that the search breaks off with is passed on. -/
theorem Convention.NamedFor.setter?_of_breaksOff (named : convention.NamedFor target name field)
    (broken : state.BreaksOff target field fault) :
    convention.setter? state target name = .error (.escaped fault) := by
  rcases broken with failed | ⟨absent, unrecoverable, first⟩
  · rw [named.setter?_eq, failed]
  · rw [named.setter?_of_missing absent, references_eq_error.mpr first]
    exact if_neg (Bool.eq_false_iff.mp unrecoverable)

end Search

/-- An object without attributes, whose class inherits from one that annotates `x`; the class itself
annotates `y` with a name that is not known if `y_fails`, and else with a type. -/
def inheritingState (y_fails : Bool) : State where
  world := World.empty
    |>.declare "Base" [] [] [("x", ⟨.plain .int, true⟩)]
    |>.declare "Thing" ["Base"] []
      [("y", ⟨if y_fails then .named "Nope" else .plain .text, true⟩)]
  heap := .ofObjects [⟨.declared "Thing", []⟩]

/-- The operation is left to assignment whatever the annotations of the class. -/
theorem leftToAssign_inheritingState (y_fails : Bool) :
    Convention.LeftToAssign ⟨":", "init"⟩ (inheritingState y_fails) (.object 0) "setX:" "x" where
  unchosen := by
    intro other chosen
    have leads := Convention.chooses_iff_leads.mp chosen
    have undeclared : Convention.declared? (inheritingState y_fails) (.object 0) "setX:" = none := by
      cases y_fails <;> rfl
    have unoffered : Convention.conventional? ⟨":", "init"⟩ (inheritingState y_fails) (.object 0)
        "setX:" = .ok none := by
      cases y_fails <;> rfl
    rw [Convention.Leads, undeclared, unoffered] at leads
    rcases leads with declared | ⟨-, conventional⟩
    · contradiction
    · cases Except.ok.inj conventional
  named := ⟨rfl, rfl⟩

/-- Looking for its conventional name does not fail. -/
theorem reached_inheritingState (y_fails : Bool) (fault : Fault) :
    ¬ Convention.FailsByName ⟨":", "init"⟩ (inheritingState y_fails) (.object 0) "setX:" fault := by
  rintro ⟨field, named, -, -, failed⟩
  obtain rfl := Except.ok.inj named
  cases y_fails <;> cases failed

end Stencil
