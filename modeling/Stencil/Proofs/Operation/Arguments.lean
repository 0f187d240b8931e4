import Stencil.Operation.Invocation
import Stencil.Proofs.Outcome
import Stencil.Proofs.Text

/-!
# Arguments and parameters

How many arguments some parameters take (`Takes`) decides both whether a call binds them to values
(`Method.bindArguments_of_takes`) and whether a signature has types for them
(`Signature.argumentTypes_eq`). Which parameter an argument reaches is settled by its position
(`receiverAt?`), on both sides alike.
-/
namespace Stencil

/-! ### Positions -/

/-- The parameters that arguments reach by position. -/
def positionals (parameters : List Parameter) : List Parameter :=
  parameters.filter fun parameter => parameter.kind.isPositional

/-- The parameters that must be reached by position. -/
def required (parameters : List Parameter) : List Parameter :=
  (positionals parameters).filter fun parameter => parameter.default.isNone

/-- The parameter that takes what is left, if there is one. -/
def restOf? (parameters : List Parameter) : Option Parameter :=
  parameters.find? fun parameter => parameter.kind == .rest

/-- So many arguments reach all parameters that must be reached, and none is left over. -/
structure Takes (parameters : List Parameter) (count : Nat) : Prop where
  /-- No parameter is missed. -/
  enough : (required parameters).length ≤ count
  /-- What is left over is taken by a parameter. -/
  fitting : (positionals parameters).length < count → (restOf? parameters).isSome = true

/-- Arguments are not taken exactly if they are too few, or too many with none to take what is
left. -/
theorem not_takes_iff {parameters : List Parameter} {count : Nat} :
    ¬ Takes parameters count ↔ count < (required parameters).length ∨
      (positionals parameters).length < count ∧ (restOf? parameters).isNone = true := by
  constructor
  · intro not_taken
    by_contra neither
    rw [not_or, not_and, Nat.not_lt, Bool.not_eq_true, Option.isNone_eq_false_iff] at neither
    exact not_taken ⟨neither.1, neither.2⟩
  · rintro (few | ⟨more, no_rest⟩) takes
    · exact absurd takes.enough (Nat.not_le.mpr few)
    · have fitting := takes.fitting more
      rw [Option.isNone_iff_eq_none.mp no_rest] at fitting
      contradiction

/-- The parameter that the argument at a position reaches: the one at the position, or else the one
that takes what is left. -/
def receiverAt? (parameters : List Parameter) (position : Nat) : Option Parameter :=
  (positionals parameters)[position]?.or (restOf? parameters)

/-- What the declaration of a method satisfies. -/
structure Method.WellFormed (method : Method) : Prop where
  /-- No two parameters have one name. -/
  distinct : (method.parameters.map Parameter.name).Nodup
  /-- None is named as the result is among the annotations. -/
  unreserved : ∀ parameter ∈ method.parameters, parameter.name ≠ "return"
  /-- None is reached by position behind one that takes what is left. -/
  arranged : method.parameters.Pairwise fun before after =>
    before.kind = .rest → after.kind.isPositional = false
  /-- Behind a positional parameter with a value of its own all have one. -/
  ordered : (positionals method.parameters).Pairwise fun before after =>
    before.default.isSome = true → after.default.isSome = true

section Binding

/-- Where the items with a property come first, none is left behind a position exactly if there are
no more of them. -/
theorem filter_drop_eq_nil_iff {α : Type} {property : α → Bool} {items : List α}
    (first : items.Pairwise fun before after => property after = true → property before = true)
    (count : Nat) :
    (items.drop count).filter property = [] ↔ (items.filter property).length ≤ count := by
  induction items generalizing count with
  | nil => simp
  | cons item rest ih =>
    obtain ⟨before, first⟩ := List.pairwise_cons.mp first
    cases count with
    | zero => rw [List.drop_zero, Nat.le_zero, List.length_eq_zero_iff]
    | succ count =>
      rw [List.drop_succ_cons, ih first]
      cases holds : property item with
      | true => rw [List.filter_cons_of_pos holds, List.length_cons, Nat.succ_le_succ_iff]
      | false =>
        have none_left : rest.filter property = [] := by
          refine List.filter_eq_nil_iff.mpr fun other member also => ?_
          rw [before other member also] at holds
          contradiction
        rw [List.filter_cons_of_neg (by rw [holds]; exact Bool.false_ne_true), none_left]
        simp

variable {method : Method} {arguments : List Value}

/-- The values of the parameters of a method that takes the arguments. -/
def Method.bound (method : Method) (arguments : List Value) : List (Text × Value) :=
  let positional := positionals method.parameters
  let given := (positional.map Parameter.name).zip arguments
  method.parameters.map fun parameter =>
    (parameter.name,
      match parameter.kind with
      | .rest => .tuple (arguments.drop positional.length)
      | .keywordRest => .mapping []
      | _ => (given.lookup parameter.name).getD (parameter.default.getD .nothing))

/-- No parameter that must be reached is missed exactly if there are enough arguments. -/
theorem Method.WellFormed.unfilled_eq_nil (formed : method.WellFormed) (count : Nat) :
    unfilled ((positionals method.parameters).drop count) = [] ↔
      (required method.parameters).length ≤ count := by
  rw [unfilled, List.map_eq_nil_iff, required, filter_drop_eq_nil_iff]
  refine formed.ordered.imp fun {before after} valued missing => ?_
  cases own : before.default with
  | none => rfl
  | some value =>
    have also := valued (by rw [own]; rfl)
    rw [Option.isNone_iff_eq_none] at missing
    rw [missing] at also
    contradiction

/-- No named parameter is missed where each has a value of its own. -/
theorem unfilled_named {parameters : List Parameter}
    (valued : ∀ parameter ∈ parameters, parameter.kind = .keywordOnly →
      parameter.default.isSome = true) :
    unfilled (parameters.filter fun parameter => parameter.kind == .keywordOnly) = [] := by
  rw [unfilled, List.map_eq_nil_iff, List.filter_filter, List.filter_eq_nil_iff]
  intro parameter member missing
  rw [Bool.and_eq_true, beq_iff_eq, Option.isNone_iff_eq_none] at missing
  have own := valued parameter member missing.2
  rw [missing.1] at own
  contradiction

/-- A parameter takes what is left exactly if some parameter is of that kind. -/
theorem isSome_restOf? (parameters : List Parameter) :
    (restOf? parameters).isSome = parameters.any fun parameter => parameter.kind == .rest := by
  rw [Bool.eq_iff_iff, restOf?, List.find?_isSome, List.any_eq_true]

/-- Arguments that a method takes are bound to its parameters. -/
theorem Method.bindArguments_of_takes (formed : method.WellFormed)
    (valued : ∀ parameter ∈ method.parameters, parameter.kind = .keywordOnly →
      parameter.default.isSome = true)
    (takes : Takes method.parameters arguments.length) :
    method.bindArguments arguments = .ok (method.bound arguments) := by
  have no_surplus : ¬ (decide ((positionals method.parameters).length < arguments.length) &&
      !method.parameters.any fun parameter => parameter.kind == .rest) = true := by
    rw [← isSome_restOf?, Bool.and_eq_true, decide_eq_true_eq, Bool.not_eq_true']
    rintro ⟨more, no_rest⟩
    rw [takes.fitting more] at no_rest
    contradiction
  have none_missing := (formed.unfilled_eq_nil arguments.length).mpr takes.enough
  have none_named := unfilled_named valued
  rw [positionals] at no_surplus none_missing
  rw [Method.bindArguments]
  dsimp only
  rw [if_neg no_surplus, none_missing, none_named]
  rfl

/-- Arguments that a method does not take are refused. -/
theorem Method.bindArguments_of_not_takes (formed : method.WellFormed)
    (not_taken : ¬ Takes method.parameters arguments.length) :
    ∃ fault, method.bindArguments arguments = .error fault := by
  rw [Method.bindArguments]
  dsimp only
  split
  · exact ⟨_, rfl⟩
  · next no_surplus =>
    have missing : ¬ unfilled ((positionals method.parameters).drop arguments.length) = [] := by
      rw [formed.unfilled_eq_nil]
      intro enough
      refine not_taken ⟨enough, fun more => ?_⟩
      rw [← isSome_restOf?, Bool.and_eq_true, decide_eq_true_eq, Bool.not_eq_true', not_and,
        Bool.not_eq_false] at no_surplus
      exact no_surplus more
    rw [positionals, ← List.isEmpty_iff, Bool.not_eq_true] at missing
    rw [missing]
    exact ⟨_, rfl⟩

/-- Each parameter has its value among those bound. -/
theorem Method.WellFormed.lookup_bound (formed : method.WellFormed) {parameter : Parameter}
    (member : parameter ∈ method.parameters) (arguments : List Value) :
    (method.bound arguments).lookup parameter.name = some
      (match parameter.kind with
      | .rest => .tuple (arguments.drop (positionals method.parameters).length)
      | .keywordRest => .mapping []
      | _ => ((((positionals method.parameters).map Parameter.name).zip arguments).lookup
          parameter.name).getD (parameter.default.getD .nothing)) := by
  refine Text.lookup_of_mem ?_ (List.mem_map.mpr ⟨parameter, member, rfl⟩)
  rw [Method.bound, List.map_map]
  exact formed.distinct

/-- A parameter that an argument reaches by position is bound to it. -/
theorem Method.WellFormed.lookup_positional (formed : method.WellFormed) {position : Nat}
    {parameter : Parameter}
    (placed : (positionals method.parameters)[position]? = some parameter)
    (inside : position < arguments.length) :
    (method.bound arguments).lookup parameter.name = arguments[position]? := by
  obtain ⟨member, positional⟩ := List.mem_filter.mp (List.mem_of_getElem? placed)
  have distinct : ((positionals method.parameters).map Parameter.name).Nodup :=
    formed.distinct.sublist (List.filter_sublist.map _)
  have named : ((positionals method.parameters).map Parameter.name)[position]? =
      some parameter.name := by rw [List.getElem?_map, placed]; rfl
  have given := Text.lookup_zip arguments distinct named
  rw [formed.lookup_bound member, given, List.getElem?_eq_getElem inside]
  cases kind : parameter.kind <;> first | rfl | (rw [kind] at positional; contradiction)

/-- The parameter that takes what is left is bound to all arguments behind the positional ones. -/
theorem Method.WellFormed.lookup_rest (formed : method.WellFormed) {parameter : Parameter}
    (found : restOf? method.parameters = some parameter) (arguments : List Value) :
    parameter.kind = .rest ∧ (method.bound arguments).lookup parameter.name =
      some (.tuple (arguments.drop (positionals method.parameters).length)) := by
  have is_rest := List.find?_some found
  have kind : parameter.kind = .rest := beq_iff_eq.mp is_rest
  refine ⟨kind, ?_⟩
  rw [formed.lookup_bound (List.mem_of_find?_eq_some found), kind]

end Binding

/-! ### Types of arguments -/

/-- What a parameter expects: what its annotation denotes, or nothing in particular. -/
def Parameter.Expects (parameter : Parameter) (scope : Scope) (expected : Expected) : Prop :=
  match parameter.annotation with
  | some annotated => annotated.reference scope = .ok expected
  | none => expected = .plain .unspecified

section Types

variable {signature : Signature} {scope : Scope} {name : Text} {count : Nat}
  {expectations : List (Text × Expected)}

/-- What is known that a parameter expects. -/
def expectationAmong (expectations : List (Text × Expected)) (parameter : Parameter) : Expected :=
  (expectations.lookup parameter.name).getD (.plain .unspecified)

/-- A signature has types for arguments that are taken: those of the positional parameters, and
that of the one that takes what is left as often as needed. -/
theorem Signature.argumentTypes_of_takes (name : Text)
    (known : signature.expectations scope = .ok expectations)
    (takes : Takes signature.parameters count) :
    signature.argumentTypes scope name count = .ok
      (((positionals signature.parameters).take count).map (expectationAmong expectations) ++
        List.replicate (count - (positionals signature.parameters).length)
          (((restOf? signature.parameters).map (expectationAmong expectations)).getD .any)) := by
  have taken : ¬ (decide (count < (required signature.parameters).length) ||
      (decide ((positionals signature.parameters).length < count) &&
        (restOf? signature.parameters).isNone)) = true := by
    rw [Bool.or_eq_true, Bool.and_eq_true, decide_eq_true_eq, decide_eq_true_eq, ← not_takes_iff]
    exact not_not.mpr takes
  rw [Signature.argumentTypes, known]
  exact if_neg taken

/-- A signature refuses arguments that are not taken. -/
theorem Signature.argumentTypes_of_not_takes (name : Text)
    (known : signature.expectations scope = .ok expectations)
    (not_taken : ¬ Takes signature.parameters count) :
    signature.argumentTypes scope name count = .error
      (.invocation name (.argumentCount (positionals signature.parameters).length count)) := by
  have refused : (decide (count < (required signature.parameters).length) ||
      (decide ((positionals signature.parameters).length < count) &&
        (restOf? signature.parameters).isNone)) = true := by
    rw [Bool.or_eq_true, Bool.and_eq_true, decide_eq_true_eq, decide_eq_true_eq, ← not_takes_iff]
    exact not_taken
  rw [Signature.argumentTypes, known]
  exact if_pos refused

/-- A signature has as many types as there are arguments. -/
theorem Signature.length_argumentTypes {types : List Expected}
    (found : signature.argumentTypes scope name count = .ok types) : types.length = count := by
  obtain ⟨expectations, known, -⟩ := bind_eq_ok.mp found
  by_cases takes : Takes signature.parameters count
  · rw [Signature.argumentTypes_of_takes name known takes] at found
    obtain rfl := Except.ok.inj found
    rw [List.length_append, List.length_map, List.length_take, List.length_replicate]
    omega
  · rw [Signature.argumentTypes_of_not_takes name known takes] at found
    contradiction

/-- The type of an argument is what the parameter that it reaches is known to expect. -/
theorem Signature.getElem?_argumentTypes {types : List Expected} {position : Nat}
    {parameter : Parameter} (known : signature.expectations scope = .ok expectations)
    (found : signature.argumentTypes scope name count = .ok types) (inside : position < count)
    (received : receiverAt? signature.parameters position = some parameter) :
    types[position]? = some (expectationAmong expectations parameter) := by
  by_cases takes : Takes signature.parameters count
  · rw [Signature.argumentTypes_of_takes name known takes] at found
    obtain rfl := Except.ok.inj found
    rw [receiverAt?] at received
    by_cases placed : position < (positionals signature.parameters).length
    · rw [List.getElem?_eq_getElem placed, Option.some_or] at received
      have first : position < (((positionals signature.parameters).take count).map
          (expectationAmong expectations)).length := by
        rw [List.length_map, List.length_take]
        omega
      rw [List.getElem?_append_left first, List.getElem?_map, List.getElem?_take_of_lt inside,
        List.getElem?_eq_getElem placed, Option.some.inj received]
      rfl
    · rw [List.getElem?_eq_none (Nat.not_lt.mp placed), Option.none_or] at received
      have all_first : (((positionals signature.parameters).take count).map
          (expectationAmong expectations)).length = (positionals signature.parameters).length := by
        rw [List.length_map, List.length_take]
        omega
      rw [List.getElem?_append_right (by rw [all_first]; omega), all_first, received,
        List.getElem?_replicate_of_lt (by omega)]
      rfl
  · rw [Signature.argumentTypes_of_not_takes name known takes] at found
    contradiction

/-- Every argument that is taken reaches a parameter. -/
theorem Takes.exists_receiverAt? {parameters : List Parameter} {position : Nat}
    (takes : Takes parameters count) (inside : position < count) :
    ∃ parameter, receiverAt? parameters position = some parameter := by
  rw [receiverAt?]
  by_cases placed : position < (positionals parameters).length
  · exact ⟨_, by rw [List.getElem?_eq_getElem placed, Option.some_or]⟩
  · obtain ⟨parameter, found⟩ := Option.isSome_iff_exists.mp (takes.fitting (by omega))
    exact ⟨parameter, by rw [List.getElem?_eq_none (Nat.not_lt.mp placed), Option.none_or, found]⟩

/-- The types of the arguments of an operation that is no assignment are those of its signature. -/
theorem Convention.argumentTypes_of_signature
    {convention : Convention} {state : State} {target : Value} {resolved : ResolvedOperation}
    {callee : Attribute} (found : convention.resolve state target name = .ok resolved)
    (no_assignment : resolved.kind ≠ .assign)
    (held : state.callee target resolved.field = .ok callee)
    (shown : resolved.signature? callee = some signature) (count : Nat) :
    convention.argumentTypes state target name count =
      signature.argumentTypes (state.world.scope .outside) name count := by
  rw [argumentTypes, found]
  simp only [Bind.bind, Except.bind, held, Except.mapError, shown]

/-- The annotation of a parameter is found by its name, and that of another name is none of
them. -/
theorem lookup_parameterAnnotations {parameters : List Parameter}
    (distinct : (parameters.map Parameter.name).Nodup) {parameter : Parameter}
    (member : parameter ∈ parameters) :
    (parameters.filterMap fun parameter =>
        parameter.annotation.map fun annotated => (parameter.name, annotated)).lookup
      parameter.name = parameter.annotation := by
  induction parameters with
  | nil => contradiction
  | cons first rest ih =>
    obtain ⟨unique, distinct⟩ := List.nodup_cons.mp distinct
    rcases List.mem_cons.mp member with rfl | behind
    · cases noted : parameter.annotation with
      | none =>
        rw [List.filterMap_cons_none (by rw [noted]; rfl), List.lookup_eq_none_iff]
        intro entry among
        obtain ⟨other, other_member, same⟩ := List.mem_filterMap.mp among
        obtain ⟨annotated, -, rfl⟩ := Option.map_eq_some_iff.mp same
        exact bne_iff_ne.mpr fun named => unique (List.mem_map.mpr ⟨other, other_member, named.symm⟩)
      | some annotated =>
        rw [List.filterMap_cons_some (by rw [noted]; rfl), List.lookup_cons_self]
    · have other : parameter.name ≠ first.name := fun named =>
        unique (List.mem_map.mpr ⟨parameter, behind, named⟩)
      cases noted : first.annotation with
      | none => rw [List.filterMap_cons_none (by rw [noted]; rfl), ih distinct behind]
      | some annotated =>
        rw [List.filterMap_cons_some (by rw [noted]; rfl), List.lookup_cons,
          beq_false_of_ne other, ih distinct behind]

/-- Annotations are kept of all parameters, in an order of their own. -/
theorem Method.annotationOrder_perm (method : Method) :
    method.annotationOrder.Perm method.parameters := by
  rw [annotationOrder]
  simp only [ofKind]
  induction method.parameters with
  | nil => exact .nil
  | cons first rest ih =>
    refine .trans ?_ (ih.cons first)
    cases kind : first.kind with
    | positional => simp [kind]
    | _ =>
      simp only [List.filter_cons, kind, beq_self_eq_true, if_true, reduceCtorEq, if_false,
        beq_iff_eq, List.append_assoc, List.cons_append]
      simp only [← List.append_assoc]
      exact List.perm_middle.trans (.of_eq (by simp only [List.append_assoc]))

/-- Among the annotations of a method each parameter has its own. -/
theorem Method.WellFormed.lookup_annotations {method : Method} (formed : method.WellFormed)
    {parameter : Parameter} (member : parameter ∈ method.parameters) :
    method.annotations.lookup parameter.name = parameter.annotation := by
  have reordered := method.annotationOrder_perm
  have distinct : (method.annotationOrder.map Parameter.name).Nodup :=
    (reordered.map Parameter.name).nodup_iff.mpr formed.distinct
  have no_result : (method.result.map fun annotated => (("return" : Text), annotated)).toList.lookup
      parameter.name = none := by
    cases method.result with
    | none => rfl
    | some annotated =>
      have other := formed.unreserved parameter member
      rw [Option.map_some, Option.toList_some, List.lookup_cons, beq_false_of_ne other]
      rfl
  rw [Method.annotations, List.lookup_append, no_result, Option.or_none,
    lookup_parameterAnnotations distinct (reordered.mem_iff.mpr member)]

/-- Where all annotations of a method can be evaluated, what each of its parameters is known to
expect is what it expects. -/
theorem Method.WellFormed.expects {method : Method} (formed : method.WellFormed)
    (evaluated : ∀ entry ∈ method.annotations, ∃ expected, entry.2.reference scope = .ok expected) :
    ∃ expectations, (∀ shown parameters,
        (Signature.mk shown parameters method.annotations).expectations scope = .ok expectations) ∧
      ∀ parameter ∈ method.parameters,
        parameter.Expects scope (expectationAmong expectations parameter) := by
  have each : ∀ entry ∈ method.annotations.map fun entry =>
        (entry.1, PlacedAnnotation.mk entry.2 scope scope),
      ∃ result : Text × Expected,
        entry.2.reference.map (fun expected => (entry.1, expected)) = Except.ok result := by
    intro entry placed
    obtain ⟨own, member, rfl⟩ := List.mem_map.mp placed
    obtain ⟨expected, found⟩ := evaluated own member
    exact ⟨(own.1, expected), congrArg (Except.map _) found⟩
  obtain ⟨expectations, found⟩ := exists_mapM_eq_ok each
  refine ⟨expectations, fun shown parameters => ?_, fun parameter member => ?_⟩
  · rw [Signature.expectations, references, Signature.placed]
    dsimp only
    rw [found]
  · have own := formed.lookup_annotations member
    have known := lookup_of_mapM found parameter.name
    rw [Text.lookup_map_values parameter.name fun annotated => PlacedAnnotation.mk annotated scope scope,
      own] at known
    rw [Parameter.Expects, expectationAmong]
    rcases known with ⟨unannotated, unknown⟩ | ⟨placed, expected, held, denotes, known⟩
    · rw [Option.map_eq_none_iff.mp unannotated, unknown]
      rfl
    · obtain ⟨annotated, noted, rfl⟩ := Option.map_eq_some_iff.mp held
      rw [noted, known]
      exact denotes

end Types
end Stencil
