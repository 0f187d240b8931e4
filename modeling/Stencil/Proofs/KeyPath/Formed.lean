import Stencil.Proofs.KeyPath.Escape
import Stencil.Proofs.Value.Alike

/-!
# Key paths keep collections formed

Where all values that a state stores are formed (`State.Formed`), reading a key from a formed value
gives a formed one, an operator makes a formed value of formed items, and so a path leads from a
formed value to a formed one (`State.Formed.follow`).
-/
namespace Stencil

/-- The value that a member of a class holds. -/
def ClassMember.value? : ClassMember → Option Value
  | shared value _ => some value
  | _ => none

/-- All values that a state stores, and those that are computed from them, are formed. -/
structure State.Formed (state : State) : Prop where
  /-- Those of the attributes of objects. -/
  attributes : ∀ object ∈ state.heap.objects, ∀ entry ∈ object.attributes, entry.2.Formed
  /-- Those of the members of classes. -/
  members : ∀ info ∈ state.world.classes, ∀ member ∈ info.members, ∀ value,
    member.2.value? = some value → value.Formed
  /-- Those of the properties of classes. -/
  properties : ∀ info ∈ state.world.classes, ∀ member ∈ info.members, ∀ property,
    member.2 = .property property → ∀ reference value,
      property.read state.heap reference = .ok value → value.Formed
  /-- Those of the members of enumerations. -/
  enumerations : ∀ enumeration ∈ state.world.enumerations, ∀ member ∈ enumeration.members,
    member.value.Formed
  /-- Those that the language adds to values. -/
  added : ∀ value name result, value.Formed →
    state.world.language.attribute? value name = some result → result.Formed
  /-- Those that values answer look-ups with. -/
  answers : ∀ value key result, value.Formed → state.answer value key = .ok result →
    result.Formed

/-! ### Formed values -/

namespace Value

variable {value : Value} {items : List Value}

/-- What a value tells apart is among its parts, in their order. -/
theorem distinguished_sublist_parts (value : Value) : value.distinguished.Sublist value.parts := by
  cases value with
  | set items => exact .refl items
  | mapping entries => exact List.sublist_append_left _ _
  | _ => exact List.nil_sublist _

/-- A value without parts is formed. -/
theorem Formed.of_no_parts (none : value.parts = []) : value.Formed := by
  have nothing_apart : value.distinguished = [] :=
    List.eq_nil_of_sublist_nil (none ▸ distinguished_sublist_parts value)
  refine .intro ?_ ?_
  · rw [none]
    exact nofun
  · rw [nothing_apart]
    exact .nil

/-- A list of formed items is formed. -/
theorem Formed.list (formed : ∀ item ∈ items, item.Formed) : (Value.list items).Formed :=
  .intro formed .nil

/-- A tuple of formed items is formed. -/
theorem Formed.tuple (formed : ∀ item ∈ items, item.Formed) : (Value.tuple items).Formed :=
  .intro formed .nil

/-- The items of a formed collection are formed. -/
theorem Formed.of_items (formed : value.Formed) (held : value.items? = some items) :
    ∀ item ∈ items, item.Formed := by
  cases value with
  | list own | tuple own | set own =>
    obtain rfl := Option.some.inj held
    exact fun item member => formed.of_mem_parts member
  | _ => contradiction

end Value

/-! ### Reading -/

section Reading

variable {state : State} {value result : Value} {key : Text}

/-- A routine is formed. -/
theorem Value.Formed.routine (held : Routine) : (Value.routine held).Formed := .of_no_parts rfl

/-- What a member of a class is for an object is formed. -/
theorem ClassMember.ofObject_formed {member : ClassMember}
    (formed : ∀ value, member.value? = some value → value.Formed) (owner name type : Text)
    (reference : Nat) : (member.ofObject owner name type reference).Formed := by
  cases member with
  | method member =>
    rw [ClassMember.ofObject]
    split <;> exact .routine _
  | shared value _ => exact formed value rfl
  | property | greatest => exact .routine _

/-- What a member of a class is for the class is formed. -/
theorem ClassMember.ofClass_formed {member : ClassMember}
    (formed : ∀ value, member.value? = some value → value.Formed) (owner name type : Text) :
    (member.ofClass owner name type).Formed := by
  cases member with
  | method member =>
    rw [ClassMember.ofClass]
    split <;> exact .routine _
  | shared value _ => exact formed value rfl
  | property | greatest => exact .routine _

/-- What a member found for a class holds is formed. -/
theorem State.Formed.of_declared? (world : state.Formed) {type name owner : Text}
    {member : ClassMember} (found : state.world.declared? type name = some (owner, member))
    (value : Value) (held : member.value? = some value) : value.Formed := by
  obtain ⟨info, known, own, among, rfl⟩ := World.exists_mem_of_declared? found
  exact world.members info known own among value held

/-- An attribute of an object is formed. -/
theorem State.Formed.objectAttribute? (world : state.Formed) {reference : Nat} {object : Instance}
    (known : object ∈ state.heap.objects)
    (found : state.objectAttribute? reference object key = some (.ok result)) : result.Formed := by
  have own_formed : ∀ value, object.attributes.lookup key = some value → value.Formed := by
    intro value looked_up
    obtain ⟨entry, among, rfl⟩ := exists_mem_of_lookup looked_up
    exact world.attributes object known entry among
  have of_own : (object.attributes.lookup key).map Except.ok = some (.ok result : Except Fault Value) →
      result.Formed := by
    intro held
    obtain ⟨value, looked_up, same⟩ := Option.map_eq_some_iff.mp held
    obtain rfl := Except.ok.inj same
    exact own_formed value looked_up
  unfold State.objectAttribute? at found
  dsimp only at found
  split at found
  · exact of_own found
  · split at found
    · next owner property held =>
      obtain ⟨info, known, own, among, same⟩ := World.exists_mem_of_declared? held
      exact world.properties info known own among property same reference result
        (Option.some.inj found)
    · next owner member _ held =>
      obtain rfl := Except.ok.inj (Option.some.inj found)
      cases own : object.attributes.lookup key with
      | some value => exact own_formed value own
      | none => exact ClassMember.ofObject_formed (world.of_declared? held) _ _ _ _
    · exact of_own found

/-- An attribute of a member of an enumeration is formed. -/
theorem State.Formed.memberAttribute? (world : state.Formed) {enumeration own : Text} {identity : Nat}
    (formed : (Value.member enumeration identity own value).Formed)
    (found : state.world.memberAttribute? enumeration identity ⟨own, value⟩ key = some result) :
    result.Formed := by
  rw [World.memberAttribute?] at found
  split at found
  · obtain rfl := Option.some.inj found
    exact .of_no_parts rfl
  · split at found
    · obtain rfl := Option.some.inj found
      exact formed.of_mem_parts (List.mem_singleton_self _)
    · split at found
      · next known known_found =>
        obtain ⟨member, member_found, rfl⟩ := Option.map_eq_some_iff.mp found
        have among : member ∈ known.members := List.mem_of_find?_eq_some member_found
        have member_formed : member.value.Formed :=
          world.enumerations known (List.mem_of_find?_eq_some known_found) member among
        exact .intro (List.forall_mem_singleton.mpr member_formed) .nil
      · split at found
        · obtain rfl := Option.some.inj found
          exact formed
        · contradiction

/-- An attribute of a formed value is formed. -/
theorem State.Formed.readAttribute (world : state.Formed) (formed : value.Formed)
    (read : state.readAttribute value key = .ok result) : result.Formed := by
  have found : state.found? value key = some (.ok result) := by
    cases here : state.found? value key with
    | some outcome => rw [← State.readAttribute_of_found here, read]
    | none =>
      rw [State.readAttribute_of_lacking here] at read
      contradiction
  rw [State.found?, Option.or_eq_some_iff] at found
  rcases found with own | ⟨-, added⟩
  · cases value with
    | object reference =>
      obtain ⟨object, known, has⟩ := Option.bind_eq_some_iff.mp own
      exact world.objectAttribute? (Array.mem_of_getElem? known) has
    | member =>
      obtain ⟨found, has, same⟩ := Option.map_eq_some_iff.mp own
      obtain rfl := Except.ok.inj same
      exact world.memberAttribute? formed has
    | type name =>
      obtain ⟨⟨owner, member⟩, known, same⟩ := Option.map_eq_some_iff.mp own
      obtain rfl := Except.ok.inj same
      exact ClassMember.ofClass_formed (world.of_declared? known) _ _ _
    | _ => contradiction
  · obtain ⟨value, has, same⟩ := Option.map_eq_some_iff.mp added
    obtain rfl := Except.ok.inj same
    exact world.added _ key value formed has

/-- An answered look-up has a value only if it is answered with it. -/
theorem answeredLookup_eq_ok {answer : Except Fault Value}
    (found : answeredLookup key answer = .ok result) : answer = .ok result := by
  cases answer with
  | ok value => rw [Except.ok.inj found]
  | error fault =>
    rw [answeredLookup] at found
    split at found <;> contradiction

/-- What a formed value that is no collection has for a key is formed. -/
theorem State.Formed.attributeForKey (world : state.Formed) (formed : value.Formed)
    (found : state.attributeForKey key value = .ok result) : result.Formed := by
  unfold State.attributeForKey at found
  split at found
  · contradiction
  · exact world.answers value key result formed (answeredLookup_eq_ok found)
  · split at found
    · next read =>
      obtain rfl := Except.ok.inj found
      exact world.readAttribute formed read
    · split at found <;> contradiction

/-- What an object that answers look-ups itself has for a key is formed if the object is. -/
theorem Value.Formed.keyedValue {identity : Nat} {missing : MissingKey} {entries : List (Text × Value)}
    (formed : (Value.keyed identity missing entries).Formed)
    (found : Stencil.keyedValue missing entries key = .ok result) : result.Formed := by
  unfold Stencil.keyedValue at found
  split at found
  · next value looked_up =>
    obtain rfl := Except.ok.inj found
    obtain ⟨entry, among, rfl⟩ := exists_mem_of_lookup looked_up
    exact formed.of_mem_parts (List.mem_map_of_mem among)
  · cases answeredLookup_eq_ok found

/-- What a mapping has for a key is formed if the mapping is. -/
theorem Value.Formed.mappingValue {entries : List (Value × Value)} (formed : (mapping entries).Formed)
    (found : Stencil.mappingValue entries key = .ok result) : result.Formed := by
  unfold Stencil.mappingValue at found
  split at found
  · next value looked_up =>
    obtain rfl := Except.ok.inj found
    rcases first_entry_eq_ok looked_up with
      ⟨none_found, -⟩ | ⟨before, other, own, after, same, rfl, -⟩
    · contradiction
    · obtain rfl := Option.some.inj same
      have among : (other, value) ∈ before ++ (other, value) :: after := by simp
      exact formed.of_mem_parts (Value.value_mem_parts among)
  · contradiction
  · contradiction

/-- What a formed value has for a key is formed, and so is what each of some formed items has. -/
theorem State.Formed.reads (world : state.Formed) (key : Text) :
    (∀ value : Value, value.Formed → ∀ result, state.read key value = .ok result → result.Formed) ∧
      ∀ items : List Value, (∀ item ∈ items, item.Formed) → ∀ results,
        state.readAll key items = .ok results → ∀ result ∈ results, result.Formed := by
  apply State.read.mutual_induct state key
  case case1 =>
    intro identity missing entries formed result found
    rw [State.read] at found
    exact formed.keyedValue found
  case case2 =>
    intro entries formed result found
    rw [State.read] at found
    exact formed.mappingValue found
  case case3 | case4 | case5 =>
    intro items each formed result found
    rw [State.read] at found
    obtain ⟨values, read, rfl⟩ := map_eq_ok.mp found
    exact .list (each (fun item member => formed.of_mem_parts member) values read)
  case case6 =>
    intro _ result found
    rw [State.read] at found
    contradiction
  case case7 =>
    intro value _ _ _ _ _ _ formed result found
    rw [State.read] at found
    · exact world.attributeForKey formed found
    all_goals assumption
  case case8 =>
    intro _ results found
    rw [State.readAll] at found
    obtain rfl := Except.ok.inj found
    exact fun result member => absurd member List.not_mem_nil
  case case9 =>
    intro item rest hidden _ _ formed results found
    rw [State.readAll, if_pos hidden] at found
    contradiction
  case case10 =>
    intro item rest shown here behind formed results found
    obtain ⟨formed_item, formed_rest⟩ := List.forall_mem_cons.mp formed
    rw [State.readAll, if_neg shown] at found
    obtain ⟨value, read, later⟩ := bind_eq_ok.mp found
    obtain ⟨values, read_rest, collected⟩ := bind_eq_ok.mp later
    obtain rfl := Except.ok.inj collected
    exact List.forall_mem_cons.mpr ⟨here formed_item value read, behind formed_rest values read_rest⟩

/-- What a formed value has for any key is formed. -/
theorem State.Formed.valueForKey (world : state.Formed) (formed : value.Formed)
    (found : state.valueForKey key value = .ok result) : result.Formed := by
  rw [State.valueForKey] at found
  split at found
  · contradiction
  · exact (world.reads key).1 value formed result found

end Reading

/-! ### Operators -/

section Operators

variable {state : State} {items : List Value} {result : Value} {classOf : Nat → Text}

/-- The sum of two numbers has no parts. -/
theorem Number.parts_of_add? {a b : Number} (found : a.add? b = some (.ok result)) :
    result.parts = [] := by
  cases a <;> cases b
  case int.int | double.double =>
    obtain rfl := Except.ok.inj (Option.some.inj found)
    rfl
  case double.decimal | decimal.double => contradiction
  all_goals
    obtain ⟨_, -, rfl⟩ := map_eq_ok.mp (Option.some.inj found)
    rfl

/-- The sum of formed values is formed. -/
theorem Value.Formed.add {a b : Value} (first : a.Formed) (second : b.Formed)
    (added : a.add classOf b = .ok result) : result.Formed := by
  unfold Value.add at added
  split at added
  · obtain rfl := Except.ok.inj added
    exact .of_no_parts rfl
  · obtain rfl := Except.ok.inj added
    exact .of_no_parts rfl
  · obtain rfl := Except.ok.inj added
    exact .list (List.forall_mem_append.mpr ⟨first.of_items rfl, second.of_items rfl⟩)
  · obtain rfl := Except.ok.inj added
    exact .tuple (List.forall_mem_append.mpr ⟨first.of_items rfl, second.of_items rfl⟩)
  · split at added
    · next x y _ _ =>
      cases found : x.add? y with
      | none =>
        rw [found] at added
        contradiction
      | some sum =>
        rw [found] at added
        obtain rfl : sum = .ok result := added
        exact .of_no_parts (Number.parts_of_add? found)
    · contradiction

/-- The sum of formed items is formed. -/
theorem Value.Formed.sum (formed : ∀ item ∈ items, item.Formed)
    (added : Value.sum classOf items = .ok result) : result.Formed := by
  apply foldlM_eq_ok_of_kept Value.Formed added
  · intro total item next member formed_total stepped
    exact formed_total.add (formed item member) stepped
  · exact .of_no_parts rfl

/-- A quotient has no parts. -/
theorem Value.parts_of_dividedBy {count : Nat} {total : Value}
    (divided : total.dividedBy classOf count = .ok result) : result.parts = [] := by
  unfold Value.dividedBy at divided
  split at divided
  · split at divided
    · obtain rfl := Except.ok.inj divided
      rfl
    · contradiction
  · obtain rfl := Except.ok.inj divided
    rfl
  · obtain ⟨_, -, rfl⟩ := map_eq_ok.mp divided
    rfl
  · contradiction

/-- The least or greatest of some items is one of them. -/
theorem mem_of_extremeFrom {sign : OrderSign} {best : Value}
    (found : extremeFrom classOf sign best items = .ok result) : result ∈ best :: items := by
  induction items generalizing best with
  | nil =>
    obtain rfl := Except.ok.inj found
    exact List.mem_singleton_self _
  | cons item rest ih =>
    rw [extremeFrom] at found
    obtain ⟨before, -, later⟩ := bind_eq_ok.mp found
    cases before with
    | true => exact List.mem_cons_of_mem best (ih later)
    | false =>
      rcases List.mem_cons.mp (ih later) with rfl | behind
      · exact List.mem_cons_self
      · exact List.mem_cons_of_mem best (List.mem_cons_of_mem item behind)

/-- The different items of some are among them. -/
theorem State.mem_of_distinctItems {kept : List Value} (found : state.distinctItems items = .ok kept) :
    ∀ item ∈ kept, item ∈ items := by
  apply foldlM_eq_ok_of_kept (fun kept => ∀ item ∈ kept, item ∈ items) found
  · intro before item next member among stepped
    obtain ⟨again, -, same⟩ := bind_eq_ok.mp stepped
    obtain rfl := Except.ok.inj same
    cases again with
    | true => exact among
    | false => exact List.forall_mem_append.mpr ⟨among, List.forall_mem_singleton.mpr member⟩
  · exact nofun

/-- What an operator makes of formed items is formed. -/
theorem Value.Formed.aggregate {operator : Aggregate} (formed : ∀ item ∈ items, item.Formed)
    (computed : state.aggregate items operator = .ok result) : result.Formed := by
  cases operator with
  | count =>
    obtain rfl := Except.ok.inj computed
    exact .of_no_parts rfl
  | sum => exact .sum formed computed
  | average =>
    rw [State.aggregate] at computed
    split at computed
    · obtain rfl := Except.ok.inj computed
      exact .of_no_parts rfl
    · obtain ⟨total, -, divided⟩ := bind_eq_ok.mp computed
      exact .of_no_parts (Value.parts_of_dividedBy divided)
  | least | greatest =>
    cases items with
    | nil =>
      obtain rfl := Except.ok.inj computed
      exact .of_no_parts rfl
    | cons first rest => exact formed result (mem_of_extremeFrom computed)
  | union =>
    obtain rfl := Except.ok.inj computed
    exact .list formed
  | distinct =>
    obtain ⟨kept, found, rfl⟩ := map_eq_ok.mp computed
    exact .list fun item member => formed item (State.mem_of_distinctItems found item member)

end Operators

/-- Where all values that a state stores are formed, keys lead from a formed value to a formed one. -/
theorem State.Formed.follow {state : State} (world : state.Formed) {keys : List Text}
    {value result : Value} (formed : value.Formed) (found : state.follow keys value = .ok result) :
    result.Formed := by
  induction keys, value using State.follow.induct generalizing result with
  | case1 value =>
    obtain rfl := Except.ok.inj found
    exact formed
  | case2 rest value name unknown =>
    rw [State.follow, unknown] at found
    cases found
  | case3 rest value name operator no_items named =>
    rw [State.follow, named, no_items] at found
    cases found
  | case4 rest value name items held named =>
    rw [State.follow, named, held] at found
    obtain rfl := Except.ok.inj found
    exact .of_no_parts rfl
  | case5 rest value name operator items follows held named ended =>
    rw [State.follow, named, held] at found
    cases operator with
    | count => exact absurd rfl follows
    | _ =>
      dsimp only at found
      rw [if_pos ended] at found
      cases found
  | case6 rest value name operator items follows held named more ih =>
    have more : rest ≠ [] := fun ended => more (List.isEmpty_iff.mpr ended)
    rw [State.follow_operator named follows held more] at found
    obtain ⟨values, followed, computed⟩ := bind_eq_ok.mp found
    have all_formed : ∀ one ∈ values, one.Formed := by
      intro one member
      obtain ⟨item, among, from_item⟩ := exists_of_mem_mapM followed member
      exact ih item (formed.of_items held item among) from_item
    exact .aggregate all_formed (mapError_eq_ok.mp computed)
  | case7 rest value key plain ih =>
    rw [State.follow_key fun name same => plain name same] at found
    obtain ⟨next, read, later⟩ := bind_eq_ok.mp found
    exact ih next (world.valueForKey formed read) later

end Stencil
