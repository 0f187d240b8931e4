import Stencil.Annotation.Evaluation
import Stencil.Proofs.Outcome

/-!
# Annotations that are read alike alone and in company

An annotation is read alone (`Annotated.denotes`) or as a type reference (`Annotated.reference`). In
one scope both readings fail alike (`Annotated.reference_eq_error`), and they agree on an annotation
that denotes something other than the absent value in which no text is left to be looked up
(`Annotated.eq_of_direct`).
-/
namespace Stencil

section Settling

variable {scope : Scope} {own expected : Expected} {fault : Fault}

/-- No text stands in an expected type that is one as a type reference too. -/
theorem Expected.holdsText_of_isDirect (direct : own.isDirect = true) : own.holdsText = false := by
  cases own with
  | nothing => contradiction
  | _ => simpa [isDirect] using direct

/-- A direct value refers to itself. -/
theorem Scope.eq_of_typeOf (direct : own.isDirect = true) (found : scope.typeOf own = .ok expected) :
    expected = own := by
  unfold typeOf at found
  split at found
  · contradiction
  · obtain ⟨type, stands, settled⟩ := bind_eq_ok.mp found
    obtain rfl := Expected.eq_of_asType direct stands
    have left : scope.settle type = .ok type :=
      if_neg (Bool.eq_false_iff.mp (Expected.holdsText_of_isDirect direct))
    exact Except.ok.inj (settled.symm.trans left)

/-- A value that denotes nothing refers to nothing, for the same fault. -/
theorem Scope.typeOf_eq_error (failed : scope.valueOf own = .error fault) :
    scope.typeOf own = .error fault := by
  unfold valueOf at failed
  split at failed
  · exact scope.refers_fails _ fault failed
  · contradiction

/-- What a value denotes is what it refers to, if that is direct. -/
theorem Scope.eq_of_valueOf {value : Expected} (denotes : scope.valueOf value = .ok own)
    (direct : own.isDirect = true) (found : scope.typeOf value = .ok expected) : expected = own := by
  unfold valueOf at denotes
  split at denotes
  · exact scope.refers_direct _ own expected denotes direct found
  · obtain rfl := Except.ok.inj denotes
    exact eq_of_typeOf direct found

end Settling

namespace Annotated

section Readings

variable {scope : Scope} {annotated : Annotated} {own expected : Expected} {fault : Fault}
  {source : Text}

/-- An annotation that is kept as a given text is kept as an expression of that text. -/
theorem eq_of_source? (kept : annotated.source? = some source) :
    annotated = ⟨.source source, true⟩ := by
  obtain ⟨expression, quoted⟩ := annotated
  unfold source? at kept
  cases expression with
  | source text =>
    cases quoted with
    | false => contradiction
    | true => rw [Option.some.inj kept]
  | _ => contradiction

/-- An expression that is a given text denotes what the text does. -/
theorem evaluate_source (scope : Scope) (source : Text) :
    evaluate scope ⟨.source source, true⟩ = scope.denotes source := by
  have spelled : Annotation.spelled (.source source) = source := rfl
  rw [evaluate, spelled, Annotation.isExpression, Annotation.evaluate, Annotation.evaluateLeaf,
    Bool.true_and]
  · cases compiles : scope.compiles source with
    | true => rfl
    | false => exact (scope.denotes_malformed source compiles).symm
  all_goals exact nofun

/-- An annotation that is kept as a given text denotes what the text does. -/
theorem denotes_of_source? (kept : annotated.source? = some source) :
    annotated.denotes scope = scope.denotes source := by
  have whole : denotes scope ⟨.source source, true⟩ = evaluate scope ⟨.source source, true⟩ :=
    if_pos rfl
  rw [eq_of_source? kept, whole, evaluate_source]

/-- An annotation that denotes nothing refers to nothing, for the same fault. -/
theorem reference_eq_error (failed : annotated.denotes scope = .error fault) :
    annotated.reference scope = .error fault := by
  cases kept : annotated.source? with
  | some source =>
    rw [denotes_of_source? kept] at failed
    rw [reference, kept]
    exact scope.refers_fails source fault failed
  | none =>
    have through : annotated.reference scope = annotated.evaluate scope >>= scope.typeOf := by
      rw [reference, kept]
    rw [through, bind_eq_error]
    rw [denotes] at failed
    split at failed
    · exact .inl failed
    · exact (bind_eq_error.mp failed).imp_right fun ⟨value, evaluated, late⟩ =>
        ⟨value, evaluated, Scope.typeOf_eq_error late⟩

/-- What an annotation denotes alone is what it refers to, unless that is the absent value or a text
is left in it. -/
theorem eq_of_direct (alone : annotated.denotes scope = .ok own) (direct : own.isDirect = true)
    (found : annotated.reference scope = .ok expected) : expected = own := by
  cases kept : annotated.source? with
  | some source =>
    rw [denotes_of_source? kept] at alone
    rw [reference, kept] at found
    exact scope.refers_direct source own expected alone direct found
  | none =>
    have through : annotated.reference scope = annotated.evaluate scope >>= scope.typeOf := by
      rw [reference, kept]
    obtain ⟨value, evaluated, refers⟩ := bind_eq_ok.mp (through.symm.trans found)
    rw [denotes, evaluated] at alone
    split at alone
    · obtain rfl := Except.ok.inj alone
      exact Scope.eq_of_typeOf direct refers
    · exact Scope.eq_of_valueOf alone direct refers

end Readings
end Annotated
end Stencil
