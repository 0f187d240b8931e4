import Stencil.Proofs.KeyPath.Mapping
import Stencil.Proofs.Object.Attribute

/-!
# Erasing private data

What is private is named so: an attribute of an object, an entry of a mapping or of an object that
answers look-ups itself, whose name begins with an underscore. `Value.erased` and `State.erased`
leave all of that out, however deep it lies. Each look-up of a name has nothing for a private name
afterwards and the erasure of what it had before for any other (`lookup_erasedNamed`,
`entryOf?_erasedEntries`). So does a value for an attribute (`State.readAttribute_erased`), if what it
computes does not depend on private data (`State.Discreet`).
-/
namespace Stencil

/-! ### Values -/

/-- Whether a key of a mapping is private: a text that begins as private names do. -/
def Value.isPrivate : Value → Bool
  | .text name => name.startsWith "_"
  | _ => false

mutual

/-- The value without private entries. -/
def Value.erased : Value → Value
  | .list items => .list (erasedItems items)
  | .tuple items => .tuple (erasedItems items)
  | .set items => .set (erasedItems items)
  | .mapping entries => .mapping (erasedEntries entries)
  | .member enumeration identity name value => .member enumeration identity name value.erased
  | .keyed identity missing entries => .keyed identity missing (erasedNamed entries)
  | value => value

/-- The items without private entries. -/
def erasedItems : List Value → List Value
  | [] => []
  | item :: rest => item.erased :: erasedItems rest

/-- The entries of a mapping that are not private, without private entries inside. -/
def erasedEntries : List (Value × Value) → List (Value × Value)
  | [] => []
  | (key, value) :: rest =>
    if key.isPrivate then erasedEntries rest
    else (key.erased, value.erased) :: erasedEntries rest

/-- The entries of names that are not private, without private entries inside. -/
def erasedNamed : List (Text × Value) → List (Text × Value)
  | [] => []
  | (name, value) :: rest =>
    if name.startsWith "_" then erasedNamed rest else (name, value.erased) :: erasedNamed rest

end

section Values

variable {value : Value} {key : Text}

/-- Items are erased one by one. -/
theorem erasedItems_eq_map (items : List Value) : erasedItems items = items.map Value.erased := by
  induction items with
  | nil => rfl
  | cons item rest ih => rw [erasedItems, ih, List.map_cons]

/-- Erasing leaves a collection a collection of as many items, each erased. -/
theorem Value.items?_erased : value.erased.items? = value.items?.map (List.map Value.erased) := by
  cases value with
  | list items | tuple items | set items =>
    rw [Value.erased]
    exact congrArg some (erasedItems_eq_map items)
  | _ => rfl

/-- Erasing leaves the type of a value. -/
theorem Value.typeName_erased (classOf : Nat → Text) :
    value.erased.typeName classOf = value.typeName classOf := by
  cases value <;> rfl

/-- Erasing leaves the text of a value. -/
theorem Value.text?_erased : value.erased.text? = value.text? := by
  cases value <;> rfl

/-- A key that is a given text is private exactly if the text is. -/
theorem Value.isPrivate_of_text (is_text : value.text? = some key) :
    value.isPrivate = key.startsWith "_" := by
  cases value with
  | text content => rw [← Option.some.inj is_text, Value.isPrivate]
  | _ => contradiction

/-- Among the entries that are left, a private name has none, and any other has what it had,
erased. -/
theorem lookup_erasedNamed (entries : List (Text × Value)) :
    (erasedNamed entries).lookup key =
      if key.startsWith "_" then none else (entries.lookup key).map Value.erased := by
  induction entries with
  | nil => rw [erasedNamed, List.lookup_nil, Option.map_none, ite_self]
  | cons entry rest ih =>
    obtain ⟨name, value⟩ := entry
    rw [erasedNamed, List.lookup_cons]
    by_cases same : key = name
    · subst same
      cases hidden : key.startsWith "_" with
      | true => rw [if_pos rfl, if_pos rfl, ih, if_pos hidden]
      | false =>
        rw [if_neg Bool.false_ne_true, if_neg Bool.false_ne_true, List.lookup_cons_self, beq_self_eq_true,
          Option.map_some]
    · rw [beq_false_of_ne same, ← ih]
      split
      · rfl
      · rw [List.lookup_cons, beq_false_of_ne same]

/-- In the mapping that is left, a private text has no entry, and any other has what it had,
erased. -/
theorem entryOf?_erasedEntries (entries : List (Value × Value)) :
    entryOf? (.text key) (erasedEntries entries) =
      if key.startsWith "_" then .ok none
      else (entryOf? (.text key) entries).map (Option.map Value.erased) := by
  have left : ((erasedEntries entries).find? fun entry => entry.1.text? == some key).map Prod.snd =
      if key.startsWith "_" then none
      else ((entries.find? fun entry => entry.1.text? == some key).map Prod.snd).map Value.erased := by
    induction entries with
    | nil => rw [erasedEntries, List.find?_nil, Option.map_none, Option.map_none, ite_self]
    | cons entry rest ih =>
      obtain ⟨other, value⟩ := entry
      rw [erasedEntries, List.find?_cons]
      by_cases same : other.text? = some key
      · rw [Value.isPrivate_of_text same, beq_iff_eq.mpr same]
        cases hidden : key.startsWith "_" with
        | true => rw [if_pos rfl, if_pos rfl, ih, if_pos hidden]
        | false =>
          rw [if_neg Bool.false_ne_true, if_neg Bool.false_ne_true, List.find?_cons,
            Value.text?_erased, beq_iff_eq.mpr same]
          rfl
      · rw [beq_false_of_ne same, ← ih]
        split
        · rfl
        · rw [List.find?_cons, Value.text?_erased, beq_false_of_ne same]
  rw [entryOf?_text, entryOf?_text, left]
  split <;> rfl

end Values

/-! ### Objects -/

/-- The member of a class without private entries in its value. What it computes stays as it is. -/
def ClassMember.erased : ClassMember → ClassMember
  | shared value operation => .shared value.erased operation
  | member => member

/-- The class without private entries in its values. -/
def ClassInfo.erased (info : ClassInfo) : ClassInfo :=
  { info with members := info.members.map fun entry => (entry.1, entry.2.erased) }

/-- The member of an enumeration without private entries in its value. -/
def Member.erased (member : Member) : Member := { member with value := member.value.erased }

/-- The enumeration without private entries in its values. -/
def Enumeration.erased (enumeration : Enumeration) : Enumeration :=
  { enumeration with members := enumeration.members.map Member.erased }

/-- What is known, without private entries in its values. -/
def World.erased (world : World) : World :=
  { world with
    enumerations := world.enumerations.map Enumeration.erased
    classes := world.classes.map ClassInfo.erased }

/-- The object without private attributes, and without private entries in the others. -/
def Instance.erased (object : Instance) : Instance :=
  { object with attributes := erasedNamed object.attributes }

/-- The objects without private attributes, and without private entries in the others. -/
def Heap.erased (heap : Heap) : Heap := { heap with objects := heap.objects.map Instance.erased }

/-- The state without private attributes of its objects and without private entries anywhere. -/
def State.erased (state : State) : State := ⟨state.world.erased, state.heap.erased⟩

/-- What a value computes for names that are not private does not depend on private data: when that
is left out, the value computes the same, erased. -/
structure State.Discreet (state : State) (value : Value) : Prop where
  /-- So do the properties of its class. -/
  properties : ∀ reference type owner property name, value = .object reference →
    state.declaredType? reference = some type →
    state.world.declared? type name = some (owner, .property property) →
    name.startsWith "_" = false →
    property.read state.erased.heap reference =
      (property.read state.heap reference).map Value.erased
  /-- So does its method that answers look-ups. -/
  answers : ∀ name, name.startsWith "_" = false → state.answersLookups value = .ok true →
    state.erased.answer value.erased name = (state.answer value name).map Value.erased
  /-- So does the language. -/
  language : ∀ name, name.startsWith "_" = false →
    state.world.language.attribute? value.erased name =
      (state.world.language.attribute? value name).map Value.erased

section Objects

variable {state : State} {world : World} {value : Value} {key name : Text}

/-- What the standard language adds to a value is the same, erased. -/
theorem Language.standard_erased (value : Value) (name : Text) :
    Language.standard.attribute? value.erased name =
      (Language.standard.attribute? value name).map Value.erased := by
  cases value with
  | moment time =>
    change (time.part? name).map (fun part => Value.int part) =
      ((time.part? name).map fun part => Value.int part).map Value.erased
    rw [Option.map_map]
    rfl
  | type type =>
    change (if name = "mro" then some (Value.routine (lineageRoutine type)) else none) =
      Option.map _ (if name = "mro" then _ else none)
    split <;> rfl
  | _ => rfl

/-- With the standard language a value that answers no look-ups itself, where no property is declared,
computes nothing from private data. -/
theorem State.Discreet.of_plain (standard : state.world.language = .standard)
    (plain : ∀ type owner property name,
      state.world.declared? type name ≠ some (owner, .property property))
    (silent : state.answersLookups value ≠ .ok true) : state.Discreet value where
  properties _ _ _ _ _ _ _ declared := absurd declared (plain _ _ _ _)
  answers _ _ told := absurd told silent
  language name _ := by
    rw [standard]
    exact Language.standard_erased value name

/-- The classes that are searched are the same, erased. -/
theorem World.lineage_erased : world.erased.lineage name = (world.lineage name).map ClassInfo.erased := by
  have found : ∀ name, world.erased.find? name = (world.find? name).map ClassInfo.erased :=
    fun name => List.find?_map ..
  rw [World.lineage, World.lineage, found]
  cases world.find? name with
  | none => rfl
  | some info =>
    rw [Option.map_some]
    dsimp only
    rw [List.map_filterMap]
    exact congrArg (List.filterMap · _) (funext found)

/-- The member that is declared for a class is the same, erased. -/
theorem World.declared?_erased (type : Text) :
    world.erased.declared? type name =
      (world.declared? type name).map fun declared => (declared.1, declared.2.erased) := by
  rw [World.declared?, World.lineage_erased, List.findSome?_map, World.declared?, List.map_findSome?]
  refine congrArg (List.findSome? · _) (funext fun info => ?_)
  have looked_up : info.erased.members.lookup name =
      (info.members.lookup name).map ClassMember.erased := Text.lookup_map_values name _ info.members
  change (info.erased.members.lookup name).map _ = Option.map _ ((info.members.lookup name).map _)
  rw [looked_up, Option.map_map, Option.map_map]
  rfl

/-- What a member is for an object is the same, erased. -/
theorem ClassMember.ofObject_erased (member : ClassMember) (owner name type : Text)
    (reference : Nat) :
    member.erased.ofObject owner name type reference =
      (member.ofObject owner name type reference).erased := by
  cases member with
  | method method =>
    rw [ClassMember.erased, ClassMember.ofObject]
    · split <;> rfl
    · exact nofun
  | shared _ _ | property _ | greatest => rfl

/-- What a member is for its class is the same, erased. -/
theorem ClassMember.ofClass_erased (member : ClassMember) (owner type : Text) :
    member.erased.ofClass owner name type = (member.ofClass owner name type).erased := by
  cases member with
  | method method =>
    rw [ClassMember.erased, ClassMember.ofClass]
    · split <;> rfl
    · exact nofun
  | shared _ _ | property _ | greatest => rfl

/-- The object at a reference is the same, erased. -/
theorem State.object?_erased (reference : Nat) :
    state.erased.object? reference = (state.object? reference).map Instance.erased :=
  Array.getElem?_map ..

/-- Erasing leaves the classes of objects. -/
theorem State.classOf_erased : state.erased.classOf = state.classOf := by
  funext reference
  rw [State.classOf, State.classOf, State.object?_erased]
  cases state.object? reference <;> rfl

/-- Erasing leaves the classes of the world that objects are instances of. -/
theorem State.declaredType?_erased (reference : Nat) :
    state.erased.declaredType? reference = state.declaredType? reference := by
  rw [State.declaredType?, State.declaredType?, State.object?_erased]
  cases state.object? reference <;> rfl

/-- Erasing leaves the type of a value. -/
theorem State.typeName_erased : state.erased.typeName value.erased = state.typeName value := by
  rw [State.typeName, State.typeName, State.classOf_erased, Value.typeName_erased]

/-- Erasing leaves the fault of a missing attribute. -/
theorem State.lacks_erased : state.erased.lacks value.erased name = state.lacks value name := by
  have operand : state.erased.operandName value.erased = state.operandName value := by
    rw [State.operandName, State.operandName, State.classOf_erased]
    cases value <;> rfl
  cases value <;> first | rfl | exact congrArg (Fault.noAttribute · name) operand

/-- The attribute that an object has for a name that is not private is the same, erased. -/
theorem State.objectAttribute?_erased {reference : Nat} {object : Instance}
    (discreet : state.Discreet (.object reference)) (shown : key.startsWith "_" = false)
    (here : state.object? reference = some object) :
    state.erased.objectAttribute? reference object.erased key =
      (state.objectAttribute? reference object key).map (Except.map Value.erased) := by
  have own : object.erased.attributes.lookup key =
      (object.attributes.lookup key).map Value.erased := by
    rw [Instance.erased, lookup_erasedNamed, shown, if_neg Bool.false_ne_true]
  have of_own : (object.erased.attributes.lookup key).map Except.ok =
      ((object.attributes.lookup key).map Except.ok).map
        (Except.map Value.erased : Except Fault Value → _) := by
    rw [own, Option.map_map, Option.map_map]
    rfl
  have same_type : object.erased.type = object.type := rfl
  have declared : ∀ type, object.type = .declared type → state.declaredType? reference = some type :=
    fun type is => by rw [State.declaredType?, here, Option.map_some, is]
  unfold State.objectAttribute?
  rw [same_type]
  cases is : object.type with
  | plain _ => exact of_own
  | declared type =>
    have searched : state.erased.world.declared? type key =
        (state.world.declared? type key).map fun declared => (declared.1, declared.2.erased) :=
      World.declared?_erased type
    dsimp only
    rw [searched]
    rcases found : state.world.declared? type key with _ | ⟨owner, member⟩
    · exact of_own
    · have otherwise := member.ofObject_erased owner key type reference
      cases member with
      | property property =>
        exact congrArg some
          (discreet.properties _ _ _ property _ rfl (declared type is) found shown)
      | method _ | shared _ _ | greatest =>
        change some (Except.ok ((object.erased.attributes.lookup key).getD _)) = _
        rw [own]
        cases object.attributes.lookup key with
        | some value => rfl
        | none => exact congrArg (some ∘ Except.ok) otherwise

/-- The attribute that a member of an enumeration has is the same, erased. -/
theorem World.memberAttribute?_erased (enumeration : Text) (identity : Nat) (member : Member) :
    world.erased.memberAttribute? enumeration identity member.erased key =
      (world.memberAttribute? enumeration identity member key).map Value.erased := by
  have known : world.erased.enumerations.find? (fun known => known.identity == identity) =
      (world.enumerations.find? fun known => known.identity == identity).map Enumeration.erased :=
    List.find?_map ..
  rw [World.memberAttribute?, World.memberAttribute?, known]
  split
  · rfl
  · split
    · rfl
    · cases world.enumerations.find? fun known => known.identity == identity with
      | none =>
        change (if key = member.name then some (Value.member _ _ member.name member.erased.value)
          else none) = Option.map _ (if key = member.name then _ else _)
        split <;> rfl
      | some enumeration =>
        dsimp only [Option.map_some]
        have found : enumeration.erased.find? key =
            (enumeration.find? key).map Member.erased := List.find?_map ..
        rw [found]
        cases enumeration.find? key <;> rfl

/-- What reading an attribute of a name that is not private comes to is the same, erased. -/
theorem State.found?_erased (discreet : state.Discreet value) (shown : key.startsWith "_" = false) :
    state.erased.found? value.erased key =
      (state.found? value key).map (Except.map Value.erased) := by
  have own : state.erased.ownAttribute? value.erased key =
      (state.ownAttribute? value key).map (Except.map Value.erased) := by
    cases value with
    | object reference =>
      change (state.erased.object? reference).bind _ = Option.map _ ((state.object? reference).bind _)
      rw [State.object?_erased]
      cases here : state.object? reference with
      | none => rfl
      | some object => exact State.objectAttribute?_erased discreet shown here
    | member enumeration identity own inner =>
      have inside : state.erased.world.memberAttribute? enumeration identity ⟨own, inner.erased⟩ key =
          (state.world.memberAttribute? enumeration identity ⟨own, inner⟩ key).map Value.erased :=
        World.memberAttribute?_erased enumeration identity ⟨own, inner⟩
      change Option.map _ _ = Option.map _ (Option.map _ _)
      rw [inside, Option.map_map, Option.map_map]
      rfl
    | type type =>
      have searched : state.erased.world.declared? type key =
          (state.world.declared? type key).map fun declared => (declared.1, declared.2.erased) :=
        World.declared?_erased type
      change Option.map _ _ = Option.map _ (Option.map _ _)
      rw [searched, Option.map_map, Option.map_map]
      refine congrArg (Option.map · _) (funext fun declared => ?_)
      exact congrArg Except.ok (declared.2.ofClass_erased declared.1 type)
    | _ => rfl
  have added : (state.erased.world.language.attribute? value.erased key).map Except.ok =
      ((state.world.language.attribute? value key).map Except.ok).map
        (Except.map Value.erased : Except Fault Value → _) := by
    change (state.world.language.attribute? value.erased key).map _ = _
    rw [discreet.language key shown, Option.map_map, Option.map_map]
    rfl
  rw [State.found?, State.found?, own, added]
  cases state.ownAttribute? value key <;> rfl

/-- Reading an attribute of a name that is not private ends in the same way, erased. -/
theorem State.readAttribute_erased (discreet : state.Discreet value)
    (shown : key.startsWith "_" = false) :
    state.erased.readAttribute value.erased key =
      (state.readAttribute value key).map Value.erased := by
  rw [State.readAttribute, State.readAttribute, State.found?_erased discreet shown, State.lacks_erased]
  cases state.found? value key <;> rfl

/-- The attribute of a name that is not private is the same, erased. -/
theorem State.attribute?_erased (discreet : state.Discreet value)
    (shown : key.startsWith "_" = false) :
    state.erased.attribute? value.erased key =
      (state.attribute? value key).map (Option.map Value.erased) := by
  rw [State.attribute?, State.attribute?, State.readAttribute_erased discreet shown]
  cases state.readAttribute value key with
  | ok own => rfl
  | error fault =>
    change (if fault.isA missingClass then Except.ok none else _) = Except.map _ (if _ then _ else _)
    split <;> rfl

end Objects
end Stencil
