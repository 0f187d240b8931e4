import Stencil.Proofs.Operation.Precedence
import Stencil.Proofs.Operation.Words

/-!
# Methods by their conventional names

An operation whose keywords are written in camel case, each followed by the marker, has as its
conventional name all words of its keywords joined by underscores
(`conventionalName_operationName`). So a method of that name is found on every object of a class
that has it, however its words are split into keywords, unless a class declares the operation or the
object hides the method behind an attribute that cannot be called (`resolve_operationName`).
-/
namespace Stencil

/-! ### The conventional name -/

/-- The name of an operation, given the words of each keyword. -/
def operationName (marker : Text) (parts : List (List Text)) : Text :=
  parts.flatMap fun words => camelCase words ++ marker

section Name

variable {marker : Text} {parts : List (List Text)}

/-- Lists of pieces that are joined, and joined again, are joined as one list. -/
theorem Text.join_map_join (separator : Text) (filled : ∀ words ∈ parts, words ≠ []) :
    Text.join separator (parts.map (Text.join separator)) =
      Text.join separator parts.flatten := by
  have behind : ∀ parts : List (List Text), (∀ words ∈ parts, words ≠ []) →
      (parts.map (Text.join separator)).flatMap (separator ++ ·) =
        parts.flatten.flatMap (separator ++ ·) := by
    intro parts filled
    induction parts with
    | nil => rfl
    | cons words rest ih =>
      obtain ⟨has_word, later⟩ := List.forall_mem_cons.mp filled
      obtain ⟨first, others, rfl⟩ := List.exists_cons_of_ne_nil has_word
      rw [List.map_cons, List.flatMap_cons, ih later, Text.join_cons, List.flatten_cons,
        List.flatMap_append, List.flatMap_cons, ← List.append_assoc]
  cases parts with
  | nil => rfl
  | cons words rest =>
    obtain ⟨has_word, later⟩ := List.forall_mem_cons.mp filled
    obtain ⟨first, others, rfl⟩ := List.exists_cons_of_ne_nil has_word
    rw [List.map_cons, Text.join_cons, Text.join_cons, behind rest later, List.flatten_cons,
      List.cons_append, Text.join_cons, List.flatMap_append, List.append_assoc]

/-- A keyword is not empty. -/
theorem IsKeyword.camelCase_ne_nil {words : List Text} (is_keyword : IsKeyword words) :
    camelCase words ≠ [] := by
  obtain ⟨word, others, rfl⟩ := List.exists_cons_of_ne_nil is_keyword.filled
  obtain ⟨first, rest, rfl, -⟩ := (is_keyword.each word List.mem_cons_self).begins
  exact List.cons_ne_nil first _

/-- Keywords of letters and digits, each followed by the marker, are cut at the markers into
themselves, with nothing behind the last one. -/
theorem splitOn_marked {words : List Text} (filled : marker ≠ [])
    (plain : ∀ char ∈ marker, char.isAlphanum = false)
    (each : ∀ word ∈ words, ∀ char ∈ word, char.isAlphanum = true) :
    Text.splitOn marker (words.flatMap (· ++ marker)) = words ++ [[]] := by
  obtain ⟨mark, tail, rfl⟩ := List.exists_cons_of_ne_nil filled
  rw [Text.splitOn]
  induction words with
  | nil => rfl
  | cons word rest ih =>
    obtain ⟨alphanumeric, each⟩ := List.forall_mem_cons.mp each
    have absent : mark ∉ word := fun member =>
      Bool.noConfusion ((alphanumeric mark member).symm.trans (plain mark List.mem_cons_self))
    rw [List.flatMap_cons, Text.splitFrom_append absent, ih each]
    rfl

/-- Keywords of letters and digits, each followed by the marker, are found again. -/
theorem keywords_marked {words : List Text} (filled : marker ≠ [])
    (plain : ∀ char ∈ marker, char.isAlphanum = false)
    (each : ∀ word ∈ words, ∀ char ∈ word, char.isAlphanum = true)
    (none_empty : ∀ word ∈ words, word ≠ []) :
    keywords (words.flatMap (· ++ marker)) marker = .ok words := by
  have kept : words.filter (fun keyword => !keyword.isEmpty) = words :=
    List.filter_eq_self.mpr fun keyword member => by simpa using none_empty keyword member
  rw [keywords, splitOn_marked filled plain each, List.filter_append, kept]
  simp [filled]

/-- The keywords of an operation are found by its name. -/
theorem keywords_operationName (filled : marker ≠ [])
    (plain : ∀ char ∈ marker, char.isAlphanum = false) (each : ∀ words ∈ parts, IsKeyword words) :
    keywords (operationName marker parts) marker = .ok (parts.map camelCase) := by
  have written : operationName marker parts = (parts.map camelCase).flatMap (· ++ marker) := by
    rw [operationName, List.flatMap_map]
  rw [written, keywords_marked filled plain]
  · intro keyword member char among
    obtain ⟨words, held, rfl⟩ := List.mem_map.mp member
    exact (each words held).isAlphanum_camelCase among
  · intro keyword member
    obtain ⟨words, held, rfl⟩ := List.mem_map.mp member
    exact (each words held).camelCase_ne_nil

/-- The conventional name of an operation is all words of its keywords, joined by underscores. -/
theorem conventionalName_operationName (filled : marker ≠ [])
    (plain : ∀ char ∈ marker, char.isAlphanum = false) (each : ∀ words ∈ parts, IsKeyword words) :
    conventionalName (operationName marker parts) marker =
      .ok (Text.join "_" parts.flatten) := by
  have snake : (parts.map camelCase).map snakeCase = parts.map (Text.join "_") := by
    rw [List.map_map]
    exact List.map_congr_left fun words among => snakeCase_camelCase (each words among)
  rw [conventionalName, keywords_operationName filled plain each,
    ← Text.join_map_join "_" fun words among => (each words among).filled, ← snake]
  rfl

/-- All words of keywords, joined by underscores, begin with a small letter. -/
theorem exists_join_words (some_part : parts ≠ []) (each : ∀ words ∈ parts, IsKeyword words) :
    ∃ first rest, Text.join "_" parts.flatten = first :: rest ∧ Text.isSmall first = true := by
  obtain ⟨words, others, rfl⟩ := List.exists_cons_of_ne_nil some_part
  have is_keyword := each words List.mem_cons_self
  obtain ⟨word, behind, rfl⟩ := List.exists_cons_of_ne_nil is_keyword.filled
  obtain ⟨first, rest, rfl, small⟩ := (is_keyword.each word List.mem_cons_self).begins
  exact ⟨first, _, by rw [List.flatten_cons, List.cons_append, Text.join_cons]; rfl, small⟩

end Name

/-! ### Methods of objects -/

section Resolution

variable {state : State} {target : Value} {name field : Text}

/-- An operation that no class along the lineage declares is declared for no attribute. -/
theorem Convention.declared?_eq_none {type : Text} (class_of : state.targetClass? target = some type)
    (undeclared : ∀ info ∈ state.world.lineage type, ∀ entry ∈ info.members,
      entry.2.operation? ≠ some name) :
    Convention.declared? state target name = none := by
  rw [declared?_eq_none_iff, State.targetLineage, class_of]
  exact undeclared

/-- A member that can be called on the class is no property, and can be called on its objects. -/
theorem State.isCallable_ofObject {owner type : Text} {member : ClassMember} (reference : Nat)
    (callable : state.isCallable (member.ofClass owner field type) = true) :
    (∀ property, member ≠ .property property) ∧
      state.isCallable (member.ofObject owner field type reference) = true := by
  cases member with
  | method method =>
    refine ⟨fun _ => ClassMember.noConfusion, ?_⟩
    rw [ClassMember.ofObject]
    split <;> rfl
  | shared value _ => exact ⟨fun _ => ClassMember.noConfusion, callable⟩
  | property property => contradiction
  | greatest => exact ⟨fun _ => ClassMember.noConfusion, callable⟩

/-- What can be called on a class can be called on its objects, unless they hide it behind an
attribute of their own that cannot. -/
theorem State.isCallable_of_class {reference : Nat} {object : Instance} {owner type : Text}
    {member : ClassMember} (found : state.object? reference = some object)
    (typed : object.type = .declared type)
    (declared : state.world.declared? type field = some (owner, member))
    (callable : state.isCallable (member.ofClass owner field type) = true)
    (unhidden : ∀ own, object.attributes.lookup field = some own → state.isCallable own = true) :
    ∃ value, state.attribute? (.object reference) field = .ok (some value) ∧
      state.isCallable value = true := by
  obtain ⟨no_property, of_object⟩ := State.isCallable_ofObject reference callable
  have shown : state.ownAttribute? (.object reference) field = some (.ok
      ((object.attributes.lookup field).getD (member.ofObject owner field type reference))) := by
    rw [State.ownAttribute?, found, Option.bind_some, State.objectAttribute?, typed]
    dsimp only
    rw [declared]
    cases member with
    | property property => exact absurd rfl (no_property property)
    | _ => rfl
  refine ⟨_, State.attribute?_eq_ok_some.mpr (State.readAttribute_of_own shown), ?_⟩
  cases own : object.attributes.lookup field with
  | none => exact of_object
  | some value => exact unhidden value own

/-- An operation that is not declared and whose conventional name can be called on an object is a
call of the attribute of that name. -/
theorem Convention.resolve_of_callable {convention : Convention} {reference : Nat} {first : Char}
    {rest : Text} (undeclared : Convention.declared? state (.object reference) name = none)
    (named : conventionalName name convention.marker = .ok (first :: rest))
    (small : Text.isSmall first = true)
    (callable : ∃ value, state.attribute? (.object reference) (first :: rest) = .ok (some value) ∧
      state.isCallable value = true) :
    convention.resolve state (.object reference) name = .ok ⟨name, .call, first :: rest⟩ := by
  have offered : convention.Offers state (.object reference) name (first :: rest) :=
    ⟨named, List.cons_ne_nil first rest, Text.startsWith_underscore small rest, callable⟩
  have not_init : (first :: rest : Text) ≠ "__init__" :=
    fun same => Text.ne_underscore small (List.cons.inj same).1
  rw [resolve_of_leads (.inr ⟨undeclared, conventional?_eq_some.mpr offered⟩), if_neg not_init,
    constructing]
  rfl

end Resolution

/-- An operation whose keywords are words in camel case, each followed by the marker, has as its
conventional name all words joined by underscores. On every object whose class has a member of that name that can
be called, and no class of which declares the operation, it is a call of the attribute of that name,
unless the object hides it behind an attribute of its own that cannot be called. -/
theorem resolve_operationName (marker : Text) (parts : List (List Text)) (filled : marker ≠ [])
    (plain : ∀ char ∈ marker, char.isAlphanum = false) (some_part : parts ≠ [])
    (each : ∀ words ∈ parts, IsKeyword words) :
    conventionalName (operationName marker parts) marker =
        .ok (Text.join "_" parts.flatten) ∧
      ∀ (construction : Text) (state : State) (reference : Nat) (object : Instance) (type : Text),
        state.object? reference = some object → object.type = .declared type →
        (∀ info ∈ state.world.lineage type, ∀ entry ∈ info.members,
          entry.2.operation? ≠ some (operationName marker parts)) →
        (∃ owner member,
          state.world.declared? type (Text.join "_" parts.flatten) = some (owner, member) ∧
          state.isCallable (member.ofClass owner (Text.join "_" parts.flatten) type) = true) →
        (∀ own, object.attributes.lookup (Text.join "_" parts.flatten) = some own →
          state.isCallable own = true) →
        Convention.resolve ⟨marker, construction⟩ state (.object reference)
            (operationName marker parts) =
          .ok ⟨operationName marker parts, .call, Text.join "_" parts.flatten⟩ := by
  have named := conventionalName_operationName filled plain each
  refine ⟨named, ?_⟩
  intro construction state reference object type found typed undeclared callable unhidden
  have class_of : state.targetClass? (.object reference) = some type := by
    change state.declaredType? reference = some type
    rw [State.declaredType?, found, Option.map_some, typed]
  obtain ⟨owner, member, declared, callable⟩ := callable
  have on_object := State.isCallable_of_class found typed declared callable unhidden
  obtain ⟨first, rest, joined, small⟩ := exists_join_words some_part each
  rw [joined] at named on_object ⊢
  exact Convention.resolve_of_callable (Convention.declared?_eq_none class_of undeclared) named small
    on_object

/-- A class with a method, and an object of it with attributes of its own. -/
def oneMethod (name : Text) (attributes : List (Text × Value)) : State where
  world := World.empty.declare "Thing" []
    [(name, .method
      { owner := "Thing"
        name := name
        operation := none
        kind := .ofObject
        parameters := [.self]
        result := none
        body := .steps [] })]
    []
  heap := .ofObjects [⟨.declared "Thing", attributes⟩]

/-- A method is found by its words though they are split into two keywords, the first word is a
single letter, the second ends in a digit and the marker has two characters. -/
theorem resolve_operationName_two_keywords :
    (∀ words ∈ ([["x", "v2"], ["set", "by"]] : List (List Text)), IsKeyword words) ∧
      operationName "=>" [["x", "v2"], ["set", "by"]] = "xV2=>setBy=>" ∧
      conventionalName "xV2=>setBy=>" "=>" = .ok "x_v2_set_by" ∧
      Convention.resolve ⟨"=>", "init"⟩ (oneMethod "x_v2_set_by" [("size", .int 5)]) (.object 0)
          "xV2=>setBy=>" = .ok ⟨"xV2=>setBy=>", .call, "x_v2_set_by"⟩ := by
  have each : ∀ words ∈ ([["x", "v2"], ["set", "by"]] : List (List Text)), IsKeyword words := by
    decide
  have written : operationName "=>" [["x", "v2"], ["set", "by"]] = "xV2=>setBy=>" := by decide
  have plain : ∀ char ∈ ("=>" : Text), char.isAlphanum = false :=
    List.forall_mem_cons.mpr ⟨rfl, List.forall_mem_singleton.mpr rfl⟩
  obtain ⟨named, reached⟩ := resolve_operationName "=>" _ (by decide) plain (by decide) each
  have undeclared : ∀ info ∈ (oneMethod "x_v2_set_by" [("size", .int 5)]).world.lineage "Thing",
      ∀ entry ∈ info.members,
        entry.2.operation? ≠ some (operationName "=>" [["x", "v2"], ["set", "by"]]) := by decide
  have resolved := reached "init" (oneMethod "x_v2_set_by" [("size", .int 5)]) 0
    ⟨.declared "Thing", [("size", .int 5)]⟩ "Thing" rfl rfl undeclared ⟨_, _, rfl, rfl⟩ nofun
  rw [written] at named resolved
  exact ⟨each, written, named, resolved⟩

/-- A method of a class is not found on an object that hides it behind a number of the same name,
though its name is the conventional one and no class declares the operation. -/
theorem resolve_hidden_method :
    IsKeyword ["foo"] ∧ operationName ":" [["foo"]] = "foo:" ∧
      (oneMethod "foo" [("foo", .int 5)]).targetClass? (.object 0) = some "Thing" ∧
      (∀ info ∈ (oneMethod "foo" [("foo", .int 5)]).world.lineage "Thing",
        ∀ entry ∈ info.members, entry.2.operation? ≠ some "foo:") ∧
      (∃ owner member,
        (oneMethod "foo" [("foo", .int 5)]).world.declared? "Thing" "foo" = some (owner, member) ∧
        (oneMethod "foo" [("foo", .int 5)]).isCallable (member.ofClass owner "foo" "Thing") = true) ∧
      Convention.resolve ⟨":", "init"⟩ (oneMethod "foo" [("foo", .int 5)]) (.object 0) "foo:" =
        .error (.invocation "foo:" (.noOperation "Thing" "foo")) := by
  exact ⟨by decide, by decide, rfl, by decide, ⟨_, _, rfl, rfl⟩, rfl⟩

end Stencil
