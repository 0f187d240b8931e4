import Stencil.Proofs.Text
import Stencil.Proofs.Operation.Call

/-!
# Precedence of operations

An operation is looked for on a target in three places, each only where those before it have
nothing: among the operations that the classes of the target declare, the nearest class and in it
the last declaration counting (`Convention.declared?_eq_some`); under its conventional name; and as
an assignment. `Convention.Finds` lists the ways in which the search ends, each with what rules the
earlier ones out, and `resolve_precedence` says that it ends as listed and in no other way.
-/
namespace Stencil

/-! ### Declared operations -/

/-- No member of a class is declared for an operation. -/
def ClassInfo.Undeclared (info : ClassInfo) (name : Text) : Prop :=
  ∀ entry ∈ info.members, entry.2.operation? ≠ some name

/-- Whether no member is declared for an operation can be tested. -/
instance ClassInfo.Undeclared.decidable (info : ClassInfo) (name : Text) :
    Decidable (info.Undeclared name) :=
  inferInstanceAs (Decidable (∀ entry ∈ info.members, entry.2.operation? ≠ some name))

/-- A class declares an operation, and the last of its members that does so is that of an
attribute. -/
def ClassInfo.DeclaresLast (info : ClassInfo) (name field : Text) : Prop :=
  ∃ earlier member later, info.members = earlier ++ (field, member) :: later ∧
    member.operation? = some name ∧ ∀ entry ∈ later, entry.2.operation? ≠ some name

/-- Of some classes, the first one that declares an operation declares it last for an attribute. -/
def DeclaredFirst (lineage : List ClassInfo) (name field : Text) : Prop :=
  ∃ nearer info farther, lineage = nearer ++ info :: farther ∧ info.DeclaresLast name field ∧
    ∀ other ∈ nearer, other.Undeclared name

/-- The classes that a target belongs to, the nearest first; a value of a predefined type belongs to
none that declares anything. -/
def State.targetLineage (state : State) (target : Value) : List ClassInfo :=
  ((state.targetClass? target).map state.world.lineage).getD []

/-- The attribute of a member that is declared for an operation. -/
def fieldDeclared? (name : Text) (entry : Text × ClassMember) : Option Text :=
  if entry.2.operation? = some name then some entry.1 else none

section Declarations

variable {name field : Text} {entry : Text × ClassMember} {info : ClassInfo}

/-- A member is declared for an operation or not. -/
theorem fieldDeclared?_eq_some :
    fieldDeclared? name entry = some field ↔ entry.2.operation? = some name ∧ entry.1 = field := by
  simp [fieldDeclared?]

/-- A member is not declared for another operation. -/
theorem fieldDeclared?_eq_none :
    fieldDeclared? name entry = none ↔ entry.2.operation? ≠ some name := by
  simp [fieldDeclared?]

/-- Among the declarations of members, an operation is looked for member by member. -/
theorem lookup_declarations (members : List (Text × ClassMember)) :
    (members.filterMap fun (field, member) =>
        member.operation?.map fun name => (name, field)).lookup name =
      members.findSome? (fieldDeclared? name) := by
  induction members with
  | nil => rfl
  | cons entry rest ih =>
    obtain ⟨held, member⟩ := entry
    rw [List.filterMap_cons, List.findSome?_cons, ← ih, fieldDeclared?]
    dsimp only
    cases member.operation? with
    | none => rw [if_neg nofun, Option.map_none]
    | some other =>
      rw [Option.map_some, List.lookup_cons]
      by_cases same : name = other
      · rw [if_pos (congrArg some same.symm), beq_iff_eq.mpr same]
      · rw [if_neg fun found => same (Option.some.inj found).symm, beq_false_of_ne same]

/-- The table of a class has what the nearest classes have, and each class has what its last members
declare. -/
theorem World.lookup_operationTable (world : World) (type : Text) :
    (world.operationTable type).lookup name =
      (world.lineage type).findSome? fun info =>
        info.members.reverse.findSome? (fieldDeclared? name) := by
  rw [World.operationTable, Text.lookup_lastEntries, List.reverse_flatMap, List.reverse_reverse,
    Text.lookup_flatMap]
  refine congrArg (List.findSome? · _) (funext fun info => ?_)
  rw [Function.comp_apply, ClassInfo.declared, ← List.filterMap_reverse, lookup_declarations]

/-- The last members of a class declare an operation for the attribute that it is declared for
last. -/
theorem ClassInfo.findSome?_members :
    info.members.reverse.findSome? (fieldDeclared? name) = some field ↔
      info.DeclaresLast name field := by
  rw [List.findSome?_eq_some_iff]
  constructor
  · rintro ⟨later, entry, earlier, split, found, none_later⟩
    obtain ⟨declares, rfl⟩ := fieldDeclared?_eq_some.mp found
    refine ⟨earlier.reverse, entry.2, later.reverse, ?_, declares, fun other among => ?_⟩
    · rw [← List.reverse_reverse info.members, split, List.reverse_append, List.reverse_cons,
        List.append_assoc, List.singleton_append]
    · exact fieldDeclared?_eq_none.mp (none_later other (List.mem_reverse.mp among))
  · rintro ⟨earlier, member, later, split, declares, none_later⟩
    refine ⟨later.reverse, (field, member), earlier.reverse, ?_,
      fieldDeclared?_eq_some.mpr ⟨declares, rfl⟩, fun other among => ?_⟩
    · rw [split, List.reverse_append, List.reverse_cons, List.append_assoc, List.singleton_append]
    · exact fieldDeclared?_eq_none.mpr (none_later other (List.mem_reverse.mp among))

/-- No member declares an operation that the class does not declare. -/
theorem ClassInfo.findSome?_members_eq_none :
    info.members.reverse.findSome? (fieldDeclared? name) = none ↔ info.Undeclared name := by
  rw [List.findSome?_eq_none_iff]
  constructor
  · exact fun absent entry among =>
      fieldDeclared?_eq_none.mp (absent entry (List.mem_reverse.mpr among))
  · exact fun undeclared entry among =>
      fieldDeclared?_eq_none.mpr (undeclared entry (List.mem_reverse.mp among))

variable {state : State} {target : Value}

/-- An operation is found among the declared ones as the classes of the target say. -/
theorem Convention.declared?_eq_findSome? :
    Convention.declared? state target name =
      (state.targetLineage target).findSome? fun info =>
        info.members.reverse.findSome? (fieldDeclared? name) := by
  rw [Convention.declared?, State.targetLineage]
  cases state.targetClass? target with
  | none => rfl
  | some type => exact World.lookup_operationTable state.world type

/-- A target declares an operation for the attribute that its first class that declares it declares
it for last. -/
theorem Convention.declared?_eq_some :
    Convention.declared? state target name = some field ↔
      DeclaredFirst (state.targetLineage target) name field := by
  rw [Convention.declared?_eq_findSome?, List.findSome?_eq_some_iff, DeclaredFirst]
  simp only [ClassInfo.findSome?_members, ClassInfo.findSome?_members_eq_none]

/-- A target declares an operation for no attribute exactly when none of its classes declares it. -/
theorem Convention.declared?_eq_none_iff :
    Convention.declared? state target name = none ↔
      ∀ info ∈ state.targetLineage target, info.Undeclared name := by
  rw [Convention.declared?_eq_findSome?, List.findSome?_eq_none_iff]
  simp only [ClassInfo.findSome?_members_eq_none]

end Declarations

/-! ### The search -/

/-- The conventional name of an operation is the public name of something on the target that can be
called. -/
structure Convention.Offers (convention : Convention) (state : State) (target : Value)
    (name field : Text) : Prop where
  /-- The attribute has the conventional name. -/
  named : conventionalName name convention.marker = .ok field
  /-- There is a name. -/
  filled : field ≠ []
  /-- It is not private. -/
  shown : field.startsWith "_" = false
  /-- What stands there can be called. -/
  callable : ∃ value, state.attribute? target field = .ok (some value) ∧
    state.isCallable value = true

/-- An operation is carried out by an attribute: it is declared for it, or it is not declared and
has it as its conventional name. -/
inductive Convention.Chooses (convention : Convention) (state : State) (target : Value)
    (name field : Text) : Prop
  /-- The operation is declared. -/
  | declared (first : DeclaredFirst (state.targetLineage target) name field)
  /-- The operation is not declared, and the attribute has its conventional name. -/
  | conventional (undeclared : ∀ info ∈ state.targetLineage target, info.Undeclared name)
    (offered : convention.Offers state target name field)

/-- Whether the annotations of a class evaluate together, and one of them is that of an
attribute. -/
def World.Annotates (world : World) (type field : Text) : Prop :=
  ∃ types, world.attributeTypes type = .ok types ∧ (types.lookup field).isSome = true

/-- Looking for the attribute of the conventional name of an operation fails: the name is public, and
reading the attribute ends with a fault that does not say that it is missing. -/
def Convention.FailsByName (convention : Convention) (state : State) (target : Value) (name : Text)
    (fault : Fault) : Prop :=
  ∃ field, conventionalName name convention.marker = .ok field ∧ field ≠ [] ∧
    field.startsWith "_" = false ∧ state.attribute? target field = .error fault

/-- An operation is named for the assignment to an attribute: the target is no class, and the
operation has the form of a setter. -/
structure Convention.NamedFor (convention : Convention) (target : Value) (name field : Text) :
    Prop where
  /-- The target is no class. -/
  no_class : target.isClass = false
  /-- The operation is named for the attribute. -/
  named : setterAttribute? name convention.marker = .ok (some field)

/-- An operation is the assignment to an attribute of a target: looking for its conventional name
does not fail, it is named for the attribute, and the target has it or its class annotates it. -/
structure Convention.Assigns (convention : Convention) (state : State) (target : Value)
    (name field : Text) : Prop where
  /-- Looking for its conventional name does not fail. -/
  reached : ∀ fault, ¬ convention.FailsByName state target name fault
  /-- The operation is named for the attribute. -/
  named : convention.NamedFor target name field
  /-- The attribute is there, or it is missing and annotated. -/
  known : (∃ value, state.attribute? target field = .ok (some value)) ∨
    state.attribute? target field = .ok none ∧
      ∃ type, state.targetClass? target = some type ∧ state.world.Annotates type field

/-- The search for an operation that no attribute carries out fails. -/
inductive Convention.Fails (convention : Convention) (state : State) (target : Value) (name : Text)
    (fault : Fault) : Prop
  /-- Looking for its conventional name fails. -/
  | byName (fails : convention.FailsByName state target name fault)
  /-- It is named for an attribute, and reading that ends with a fault that does not say that it is
  missing. -/
  | byAttribute {field : Text} (reached : ∀ fault, ¬ convention.FailsByName state target name fault)
    (named : convention.NamedFor target name field)
    (fails : state.attribute? target field = .error fault)
  /-- It is named for an attribute that is missing, and evaluating the annotations of the class ends
  with a fault that is not passed over. -/
  | byEvaluation {field type : Text}
    (reached : ∀ fault, ¬ convention.FailsByName state target name fault)
    (named : convention.NamedFor target name field)
    (absent : state.attribute? target field = .ok none)
    (class_of : state.targetClass? target = some type)
    (annotated : state.world.attributeTypes type = .error fault)
    (unrecoverable : fault.isRecoverable = false)

/-- The ways in which the search for an operation ends. -/
inductive Convention.Finds (convention : Convention) (state : State) (target : Value)
    (name : Text) : Outcome ResolvedOperation → Prop
  /-- The initializer of a class makes an object. -/
  | construct (chosen : convention.Chooses state target name "__init__")
    (constructs : convention.constructing target name = true) :
    Finds convention state target name (.ok ⟨name, .construct, "__init__"⟩)
  /-- The initializer is asked for otherwise. -/
  | needsClass (chosen : convention.Chooses state target name "__init__")
    (constructs : convention.constructing target name = false) :
    Finds convention state target name (.error (.invocation name .constructionNeedsClass))
  /-- Another attribute initializes a new object of a class. -/
  | initializer {field : Text} (chosen : convention.Chooses state target name field)
    (other : field ≠ "__init__") (constructs : convention.constructing target name = true) :
    Finds convention state target name (.ok ⟨name, .initializer, field⟩)
  /-- Another attribute is called. -/
  | call {field : Text} (chosen : convention.Chooses state target name field)
    (other : field ≠ "__init__") (constructs : convention.constructing target name = false) :
    Finds convention state target name (.ok ⟨name, .call, field⟩)
  /-- No attribute carries the operation out, and it assigns to one. -/
  | assign {field : Text} (unchosen : ∀ field, ¬ convention.Chooses state target name field)
    (assigned : convention.Assigns state target name field) :
    Finds convention state target name (.ok ⟨name, .assign, field⟩)
  /-- The operation is not found. -/
  | unknown {candidate : Text} (unchosen : ∀ field, ¬ convention.Chooses state target name field)
    (unassigned : ∀ field, ¬ convention.Assigns state target name field)
    (unfailing : ∀ fault, ¬ convention.Fails state target name fault)
    (named : conventionalName name convention.marker = .ok candidate) :
    Finds convention state target name
      (.error (.invocation name (.noOperation (state.targetName target) candidate)))
  /-- The search fails. -/
  | fails {fault : Fault} (unchosen : ∀ field, ¬ convention.Chooses state target name field)
    (fails : convention.Fails state target name fault) :
    Finds convention state target name (.error (.escaped fault))

section Search

variable {convention : Convention} {state : State} {target : Value} {name field : Text}

/-- At a marker that is not empty every operation has a conventional name. -/
theorem exists_conventionalName {marker : Text} (filled : marker ≠ []) (name : Text) :
    ∃ candidate, conventionalName name marker = .ok candidate := by
  have not_empty : ¬ marker.isEmpty = true := fun empty => filled (List.isEmpty_iff.mp empty)
  rw [conventionalName, keywords, if_neg not_empty]
  exact ⟨_, rfl⟩

/-- At a marker that is not empty every operation is named for an attribute or for none. -/
theorem exists_setterAttribute? {marker : Text} (filled : marker ≠ []) (name : Text) :
    ∃ field?, setterAttribute? name marker = .ok field? := by
  have not_empty : ¬ marker.isEmpty = true := fun empty => filled (List.isEmpty_iff.mp empty)
  rw [setterAttribute?, keywords, if_neg not_empty]
  split
  · simp only [Bind.bind, Except.bind]
    split <;> exact ⟨_, rfl⟩
  · exact ⟨_, rfl⟩

/-- The conventional name of an operation leads to what is offered, fails, or leads nowhere. -/
theorem Convention.conventional?_of_named {candidate : Text}
    (named : conventionalName name convention.marker = .ok candidate) (filled : candidate ≠ [])
    (shown : candidate.startsWith "_" = false) :
    convention.conventional? state target name =
      match state.attribute? target candidate with
      | .error fault => .error (.escaped fault)
      | .ok found => .ok (if found.any state.isCallable then some candidate else none) := by
  rw [Convention.conventional?, named]
  dsimp only
  rw [List.isEmpty_eq_false_iff.mpr filled, shown]
  rfl

/-- An empty or private name leads nowhere. -/
theorem Convention.conventional?_of_hidden {candidate : Text}
    (named : conventionalName name convention.marker = .ok candidate)
    (hidden : candidate = [] ∨ candidate.startsWith "_" = true) :
    convention.conventional? state target name = .ok none := by
  rw [Convention.conventional?, named]
  refine if_pos ?_
  rw [Bool.or_eq_true, List.isEmpty_iff]
  exact hidden

/-- An attribute that is offered is the one of the conventional name. -/
theorem Convention.conventional?_eq_some :
    convention.conventional? state target name = .ok (some field) ↔
      convention.Offers state target name field := by
  constructor
  · intro found
    cases named : conventionalName name convention.marker with
    | error fault =>
      rw [Convention.conventional?, named] at found
      contradiction
    | ok candidate =>
      by_cases hidden : candidate = [] ∨ candidate.startsWith "_" = true
      · rw [Convention.conventional?_of_hidden named hidden] at found
        cases found
      · obtain ⟨filled, shown⟩ := not_or.mp hidden
        have shown := Bool.eq_false_iff.mpr shown
        rw [Convention.conventional?_of_named named filled shown] at found
        split at found
        · contradiction
        · next held there =>
          have found := Except.ok.inj found
          split at found
          · next callable =>
            obtain rfl := Option.some.inj found
            cases held with
            | none => contradiction
            | some value => exact ⟨named, filled, shown, value, there, callable⟩
          · contradiction
  · rintro ⟨named, filled, shown, value, there, callable⟩
    rw [Convention.conventional?_of_named named filled shown, there]
    exact congrArg Except.ok (if_pos callable)

/-- Looking for the conventional name fails with the fault of reading the attribute. -/
theorem Convention.FailsByName.conventional?_eq {fault : Fault}
    (fails : convention.FailsByName state target name fault) :
    convention.conventional? state target name = .error (.escaped fault) := by
  obtain ⟨field, named, filled, shown, failed⟩ := fails
  rw [Convention.conventional?_of_named named filled shown, failed]

/-- Looking for the conventional name finds what is offered, fails, or finds nothing. -/
theorem Convention.conventional?_cases {candidate : Text}
    (named : conventionalName name convention.marker = .ok candidate) :
    (∃ field, convention.Offers state target name field) ∨
      (∃ fault, convention.FailsByName state target name fault) ∨
        convention.conventional? state target name = .ok none := by
  cases found : convention.conventional? state target name with
  | ok field? =>
    cases field? with
    | some field => exact .inl ⟨field, Convention.conventional?_eq_some.mp found⟩
    | none => exact .inr (.inr rfl)
  | error failure =>
    by_cases hidden : candidate = [] ∨ candidate.startsWith "_" = true
    · rw [Convention.conventional?_of_hidden named hidden] at found
      contradiction
    · obtain ⟨filled, shown⟩ := not_or.mp hidden
      have shown := Bool.eq_false_iff.mpr shown
      rw [Convention.conventional?_of_named named filled shown] at found
      cases there : state.attribute? target candidate with
      | error fault => exact .inr (.inl ⟨fault, candidate, named, filled, shown, there⟩)
      | ok held =>
        rw [there] at found
        contradiction

/-- An attribute carries an operation out exactly if the operation leads to it. -/
theorem Convention.chooses_iff_leads :
    convention.Chooses state target name field ↔ convention.Leads state target name field := by
  rw [Convention.Leads, Convention.declared?_eq_some, Convention.declared?_eq_none_iff,
    Convention.conventional?_eq_some]
  constructor
  · rintro (first | ⟨undeclared, offered⟩)
    · exact .inl first
    · exact .inr ⟨undeclared, offered⟩
  · rintro (first | ⟨undeclared, offered⟩)
    · exact .declared first
    · exact .conventional undeclared offered

/-- An operation that no attribute carries out is not declared. -/
theorem Convention.declared?_of_unchosen
    (unchosen : ∀ field, ¬ convention.Chooses state target name field) :
    Convention.declared? state target name = none :=
  Option.eq_none_iff_forall_ne_some.mpr fun field declared =>
    unchosen field (.declared (Convention.declared?_eq_some.mp declared))

/-- Where looking for the conventional name fails, the fault is passed on. -/
theorem Convention.resolve_of_failsByName {fault : Fault}
    (unchosen : ∀ field, ¬ convention.Chooses state target name field)
    (fails : convention.FailsByName state target name fault) :
    convention.resolve state target name = .error (.escaped fault) := by
  rw [Convention.resolve, Convention.declared?_of_unchosen unchosen]
  dsimp only
  rw [fails.conventional?_eq]
  rfl

/-- An operation that no attribute carries out is otherwise an assignment or is not found. -/
theorem Convention.resolve_of_unchosen {candidate : Text}
    (named : conventionalName name convention.marker = .ok candidate)
    (unchosen : ∀ field, ¬ convention.Chooses state target name field)
    (reached : ∀ fault, ¬ convention.FailsByName state target name fault) :
    convention.resolve state target name =
      convention.setter? state target name >>= fun field? =>
        match field? with
        | some field => .ok ⟨name, .assign, field⟩
        | none => .error (.invocation name (.noOperation (state.targetName target) candidate)) := by
  have undeclared := Convention.declared?_of_unchosen unchosen
  have unoffered : convention.conventional? state target name = .ok none := by
    rcases Convention.conventional?_cases named with ⟨field, offered⟩ | ⟨fault, fails⟩ | nothing
    · have undeclared := Convention.declared?_eq_none_iff.mp undeclared
      exact absurd (.conventional undeclared offered) (unchosen field)
    · exact absurd fails (reached fault)
    · exact nothing
  rw [Convention.resolve, undeclared]
  dsimp only
  rw [unoffered, named]
  rfl

/-- An operation that is named for an attribute is the assignment to it if it is there, and otherwise
if its class is known to annotate it. -/
theorem Convention.NamedFor.setter?_eq (named : convention.NamedFor target name field) :
    convention.setter? state target name =
      match state.attribute? target field with
      | .error fault => .error (.escaped fault)
      | .ok (some _) => .ok (some field)
      | .ok none =>
        match state.targetClass? target with
        | none => .ok none
        | some type => state.world.knownAttributeTypes type >>= fun types =>
          .ok (if (types.lookup field).isSome then some field else none) := by
  rw [Convention.setter?, named.no_class, named.named]
  rfl

/-- The assignment that an operation is, is found. -/
theorem Convention.Assigns.setter?_eq (assigned : convention.Assigns state target name field) :
    convention.setter? state target name = .ok (some field) := by
  rw [assigned.named.setter?_eq]
  rcases assigned.known with ⟨value, there⟩ | ⟨absent, type, class_of, types, evaluated, annotated⟩
  · rw [there]
  · rw [absent, class_of]
    dsimp only
    rw [World.knownAttributeTypes, evaluated]
    exact congrArg Except.ok (if_pos annotated)

/-- Looking for an assignment finds one, fails, or finds none. -/
theorem Convention.setter?_cases (filled : convention.marker ≠ [])
    (reached : ∀ fault, ¬ convention.FailsByName state target name fault) :
    (∃ field, convention.Assigns state target name field) ∨
      (∃ fault, convention.Fails state target name fault) ∨
        convention.setter? state target name = .ok none := by
  cases no_class : target.isClass with
  | true =>
    refine .inr (.inr ?_)
    rw [Convention.setter?, no_class]
    rfl
  | false =>
    obtain ⟨field?, named⟩ := exists_setterAttribute? filled name
    cases field? with
    | none =>
      refine .inr (.inr ?_)
      rw [Convention.setter?, no_class, named]
      rfl
    | some field =>
      have named : convention.NamedFor target name field := ⟨no_class, named⟩
      rw [named.setter?_eq]
      cases there : state.attribute? target field with
      | error fault => exact .inr (.inl ⟨fault, .byAttribute reached named there⟩)
      | ok held =>
        cases held with
        | some value => exact .inl ⟨field, reached, named, .inl ⟨value, there⟩⟩
        | none =>
          cases class_of : state.targetClass? target with
          | none => exact .inr (.inr rfl)
          | some type =>
            dsimp only
            unfold World.knownAttributeTypes
            cases evaluated : state.world.attributeTypes type with
            | ok types =>
              by_cases annotated : (types.lookup field).isSome = true
              · exact .inl ⟨field, reached, named,
                  .inr ⟨there, type, class_of, types, evaluated, annotated⟩⟩
              · exact .inr (.inr (congrArg Except.ok (if_neg annotated)))
            | error fault =>
              dsimp only
              cases recoverable : fault.isRecoverable with
              | true => exact .inr (.inr rfl)
              | false =>
                exact .inr (.inl ⟨fault,
                  .byEvaluation reached named there class_of evaluated recoverable⟩)

/-- Where the search fails, the fault is passed on. -/
theorem Convention.Fails.resolve_eq {candidate : Text} {fault : Fault}
    (named : conventionalName name convention.marker = .ok candidate)
    (unchosen : ∀ field, ¬ convention.Chooses state target name field)
    (fails : convention.Fails state target name fault) :
    convention.resolve state target name = .error (.escaped fault) := by
  cases fails with
  | byName fails => exact Convention.resolve_of_failsByName unchosen fails
  | byAttribute reached named_for fails =>
    rw [Convention.resolve_of_unchosen named unchosen reached, named_for.setter?_eq, fails]
    rfl
  | byEvaluation reached named_for absent class_of annotated unrecoverable =>
    rw [Convention.resolve_of_unchosen named unchosen reached, named_for.setter?_eq, absent, class_of]
    dsimp only
    unfold World.knownAttributeTypes
    rw [annotated]
    dsimp only
    rw [unrecoverable]
    rfl

/-- The search for an operation ends as it is listed. -/
theorem Convention.Finds.resolve_eq (filled : convention.marker ≠ [])
    {outcome : Outcome ResolvedOperation} (finds : convention.Finds state target name outcome) :
    convention.resolve state target name = outcome := by
  obtain ⟨candidate, named⟩ := exists_conventionalName filled name
  cases finds with
  | construct chosen constructs =>
    rw [Convention.resolve_of_leads (Convention.chooses_iff_leads.mp chosen), constructs]
    rfl
  | needsClass chosen constructs =>
    rw [Convention.resolve_of_leads (Convention.chooses_iff_leads.mp chosen), constructs]
    rfl
  | initializer chosen other constructs =>
    rw [Convention.resolve_of_leads (Convention.chooses_iff_leads.mp chosen), if_neg other,
      constructs]
    rfl
  | call chosen other constructs =>
    rw [Convention.resolve_of_leads (Convention.chooses_iff_leads.mp chosen), if_neg other,
      constructs]
    rfl
  | assign unchosen assigned =>
    rw [Convention.resolve_of_unchosen named unchosen assigned.reached, assigned.setter?_eq]
    rfl
  | unknown unchosen unassigned unfailing named =>
    have reached : ∀ fault, ¬ convention.FailsByName state target name fault :=
      fun fault fails => unfailing fault (.byName fails)
    rw [Convention.resolve_of_unchosen named unchosen reached]
    rcases Convention.setter?_cases filled reached with
      ⟨field, assigned⟩ | ⟨fault, fails⟩ | none_found
    · exact absurd assigned (unassigned field)
    · exact absurd fails (unfailing fault)
    · rw [none_found]
      rfl
  | fails unchosen fails => exact fails.resolve_eq named unchosen

variable (state target name) in
/-- The search for an operation ends in one of the listed ways. -/
theorem Convention.exists_finds (filled : convention.marker ≠ []) :
    ∃ outcome, convention.Finds state target name outcome := by
  by_cases chosen : ∃ field, convention.Chooses state target name field
  · obtain ⟨field, chosen⟩ := chosen
    by_cases initializer : field = "__init__"
    · subst initializer
      cases constructs : convention.constructing target name with
      | true => exact ⟨_, .construct chosen constructs⟩
      | false => exact ⟨_, .needsClass chosen constructs⟩
    · cases constructs : convention.constructing target name with
      | true => exact ⟨_, .initializer chosen initializer constructs⟩
      | false => exact ⟨_, .call chosen initializer constructs⟩
  · have unchosen := not_exists.mp chosen
    by_cases assigned : ∃ field, convention.Assigns state target name field
    · obtain ⟨field, assigned⟩ := assigned
      exact ⟨_, .assign unchosen assigned⟩
    · by_cases fails : ∃ fault, convention.Fails state target name fault
      · obtain ⟨fault, fails⟩ := fails
        exact ⟨_, .fails unchosen fails⟩
      · obtain ⟨candidate, named⟩ := exists_conventionalName filled name
        exact ⟨_, .unknown unchosen (not_exists.mp assigned) (not_exists.mp fails) named⟩

end Search

/-! ### Kinds -/

/-- The kind of an operation that is found suits its target, its name and its attribute. -/
structure Convention.Suits (convention : Convention) (state : State) (target : Value) (name : Text)
    (resolved : ResolvedOperation) : Prop where
  /-- It is the operation that was looked for. -/
  named : resolved.name = name
  /-- It makes an object exactly if its attribute is the initializer. -/
  construct_iff : resolved.kind = .construct ↔ resolved.field = "__init__"
  /-- It initializes an object exactly if it constructs and its attribute is another one. -/
  initializer_iff : resolved.kind = .initializer ↔
    convention.constructing target name = true ∧ resolved.field ≠ "__init__"
  /-- In both cases the target is a class, and the name begins as such names do. -/
  constructs : resolved.kind = .construct ∨ resolved.kind = .initializer →
    target.isClass = true ∧ name.startsWith convention.construction = true
  /-- It assigns to no class. -/
  no_class : resolved.kind = .assign → target.isClass = false
  /-- It has a private attribute only by declaration. -/
  declared : resolved.field.startsWith "_" = true →
    DeclaredFirst (state.targetLineage target) name resolved.field

section Kinds

variable {convention : Convention} {state : State} {target : Value} {name field : Text}
  {resolved : ResolvedOperation}

/-- No keyword assigns to a private attribute. -/
theorem setterKeyword?_public {keyword : Text} (named : setterKeyword? keyword = some field) :
    field.startsWith "_" = false := by
  unfold setterKeyword? at named
  split at named
  · split at named
    · dsimp only at named
      split at named
      · contradiction
      · next shown =>
        obtain rfl := Option.some.inj named
        exact Bool.eq_false_iff.mpr shown
    · contradiction
  · contradiction

/-- No operation is named for a private attribute. -/
theorem setterAttribute?_public {marker : Text}
    (named : setterAttribute? name marker = .ok (some field)) : field.startsWith "_" = false := by
  unfold setterAttribute? at named
  split at named
  · obtain ⟨found, -, named⟩ := bind_eq_ok.mp named
    split at named
    · exact setterKeyword?_public (Except.ok.inj named)
    · cases named
  · cases named

/-- An attribute that carries an operation out is public or declared for it. -/
theorem Convention.Chooses.declared_of_private
    (chosen : convention.Chooses state target name field) (hidden : field.startsWith "_" = true) :
    DeclaredFirst (state.targetLineage target) name field := by
  rcases chosen with first | ⟨-, offered⟩
  · exact first
  · exact absurd (hidden.symm.trans offered.shown) nofun

/-- The kind of an operation suits how it is found. -/
theorem Convention.Finds.suits (finds : convention.Finds state target name (.ok resolved)) :
    convention.Suits state target name resolved := by
  cases finds with
  | construct chosen constructs =>
    exact {
      named := rfl
      construct_iff := ⟨fun _ => rfl, fun _ => rfl⟩
      initializer_iff := ⟨nofun, fun other => absurd rfl other.2⟩
      constructs := fun _ => Bool.and_eq_true_iff.mp constructs
      no_class := nofun
      declared := chosen.declared_of_private }
  | initializer chosen other constructs =>
    exact {
      named := rfl
      construct_iff := ⟨nofun, fun same => absurd same other⟩
      initializer_iff := ⟨fun _ => ⟨constructs, other⟩, fun _ => rfl⟩
      constructs := fun _ => Bool.and_eq_true_iff.mp constructs
      no_class := nofun
      declared := chosen.declared_of_private }
  | call chosen other constructs =>
    exact {
      named := rfl
      construct_iff := ⟨nofun, fun same => absurd same other⟩
      initializer_iff := ⟨nofun, fun both => absurd (both.1.symm.trans constructs) nofun⟩
      constructs := nofun
      no_class := nofun
      declared := chosen.declared_of_private }
  | @assign field unchosen assigned =>
    have shown := setterAttribute?_public assigned.named.named
    have no_construction : convention.constructing target name = false := by
      rw [Convention.constructing, assigned.named.no_class, Bool.false_and]
    exact {
      named := rfl
      construct_iff := ⟨nofun, fun same => by
        rw [show field = "__init__" from same] at shown
        contradiction⟩
      initializer_iff := ⟨nofun, fun both => absurd (both.1.symm.trans no_construction) nofun⟩
      constructs := nofun
      no_class := fun _ => assigned.named.no_class
      declared := fun hidden => absurd (hidden.symm.trans shown) nofun }

end Kinds

/-- A method of objects that does nothing, declared for an operation. -/
def emptyMethod (owner name operation : Text) : Text × ClassMember :=
  (name, .method
    { owner := owner
      name := name
      operation := some operation
      kind := .ofObject
      parameters := [.self]
      result := none
      body := .steps [] })

/-- Four classes, the last of which inherits from two that inherit from the first; three of them
declare one operation, and the second does so twice. -/
def fourClasses : State where
  world := World.empty
    |>.declare "Base" [] [emptyMethod "Base" "begin" "initGo:"] []
    |>.declare "Left" ["Base"]
        [emptyMethod "Left" "_open" "initGo:", emptyMethod "Left" "_start" "initGo:"] []
    |>.declare "Right" ["Base"] [emptyMethod "Right" "init_go" "initGo:"] []
    |>.declare "Both" ["Left", "Right"] [] []
  heap := .ofObjects [⟨.declared "Both", [("init_go", .int 5)]⟩]

/-- An object without attributes, whose class annotates `x` with an attribute that its name does not
have. -/
def unreadableAnnotation : State where
  world := World.empty.declare "Thing" [] [] [("x", ⟨.attribute "n", true⟩)]
  heap := .ofObjects [⟨.declared "Thing", []⟩]

end Stencil
