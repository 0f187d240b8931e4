import Stencil.Proofs.KeyPath.Escape

/-!
# Key paths over collections

A key is read from every item of a collection, so that keys can be followed in two ways: each key
through the whole collection before the next one, which is what a plain path does, or all keys from
each item before the next item, which is what `@unionOfObjects` does. Both come to the same list
(`State.follow_list`, `resolvePath_unionOfObjects`), however deep the collections lie in one
another.
-/
namespace Stencil

/-- The operator that collects what a path leads to from each item. -/
def unionOperator : Text := "unionOfObjects"

/-- A path behind that operator. -/
def unionPath (path : Text) : Text := '@' :: unionOperator ++ "." ++ path

/-- What a component of a path must satisfy to be read from the items of a collection: it is no
operator, and it is not private. -/
structure ReadKey (key : Text) : Prop where
  /-- It is no operator. -/
  noOperator : key.startsWith "@" = false
  /-- It is not private. -/
  unhidden : key.startsWith "_" = false

section Following

variable {state : State} {key : Text} {keys : List Text} {value : Value} {items : List Value}

/-- A key that is read is not spelled as an operator. -/
theorem ReadKey.ne_operator (plain : ReadKey key) (name : Text) : key ≠ '@' :: name := by
  rintro rfl
  exact absurd plain.noOperator nofun

/-- What a collection has for a key is the list of what each of its items has for it. -/
theorem State.valueForKey_items (plain : ReadKey key) (held : value.items? = some items) :
    state.valueForKey key value = (items.mapM (state.valueForKey key)).map .list := by
  have public_key : ¬ key.startsWith "_" = true := Bool.eq_false_iff.mp plain.unhidden
  have each : ∀ item, state.valueForKey key item = state.read key item :=
    fun item => if_neg public_key
  have all : state.readAll key items = items.mapM (state.valueForKey key) := by
    clear held
    induction items with
    | nil => rfl
    | cons item rest ih =>
      rw [State.readAll, if_neg public_key, List.mapM_cons, ← ih, each]
  rw [each, ← all]
  cases value with
  | list own | tuple own | set own =>
    obtain rfl := Option.some.inj held
    rw [State.read]
  | _ => contradiction

/-- Keys behind a first one are followed from any collection as from the list of its items. -/
theorem State.follow_items (plain : ReadKey key) (held : value.items? = some items) :
    state.follow (key :: keys) value = state.follow (key :: keys) (.list items) := by
  have same : state.valueForKey key value = state.valueForKey key (.list items) :=
    (State.valueForKey_items plain held).trans (State.valueForKey_items plain rfl).symm
  rw [State.follow_key plain.ne_operator, State.follow_key plain.ne_operator, same]

/-- Following keys through a list, one key after another, leads to the list of what all keys lead to
from each item, and to nothing else. -/
theorem State.follow_list (plain : ∀ key ∈ keys, ReadKey key) (items : List Value)
    (result : Value) :
    state.follow keys (.list items) = .ok result ↔
      (items.mapM (state.follow keys)).map .list = .ok result := by
  -- The keys are taken one by one; what the first one makes of the items is again a list.
  induction keys generalizing items with
  | nil =>
    have unchanged : items.mapM (state.follow []) = .ok items := by
      rw [mapM_eq_ok]
      exact List.forall₂_same.mpr fun item _ => rfl
    rw [unchanged]
    rfl
  | cons key rest ih =>
    obtain ⟨first, behind⟩ := List.forall_mem_cons.mp plain
    have from_each : state.follow (key :: rest) =
        fun item => state.valueForKey key item >>= state.follow rest :=
      funext fun item => State.follow_key first.ne_operator
    rw [from_each, map_eq_ok]
    dsimp only
    rw [State.valueForKey_items first rfl, bind_eq_ok]
    constructor
    · rintro ⟨next, read, followed⟩
      obtain ⟨values, values_read, rfl⟩ := map_eq_ok.mp read
      obtain ⟨found, values_followed, collected⟩ := map_eq_ok.mp ((ih behind values).mp followed)
      exact ⟨found, mapM_bind_eq_ok.mpr ⟨values, values_read, values_followed⟩, collected⟩
    · rintro ⟨found, each, collected⟩
      obtain ⟨values, values_read, values_followed⟩ := mapM_bind_eq_ok.mp each
      refine ⟨.list values, map_eq_ok.mpr ⟨values, values_read, rfl⟩, (ih behind values).mpr ?_⟩
      exact map_eq_ok.mpr ⟨found, values_followed, collected⟩

end Following

section Resolution

variable {state : State} {value result : Value} {path : Text}

/-- A path that is resolved has no empty component, and following its components leads to the same
value. -/
theorem State.resolvePath_eq_ok :
    state.resolvePath value path = .ok result ↔
      [] ∉ Text.splitOn "." path ∧ state.follow (Text.splitOn "." path) value = .ok result := by
  rw [State.resolvePath, mapError_eq_ok]
  by_cases empty : [] ∈ Text.splitOn "." path
  · obtain ⟨cause, refused⟩ := state.resolve_of_empty value empty
    rw [refused]
    refine iff_of_false ?_ fun both => both.1 empty
    simp
  · rw [State.resolve_of_filled empty]
    exact (and_iff_right empty).symm

/-- The components of a path behind the operator are the operator and those of the path. -/
theorem splitOn_unionPath (path : Text) :
    Text.splitOn "." (unionPath path) = ('@' :: unionOperator) :: Text.splitOn "." path := by
  have no_point : '.' ∉ '@' :: unionOperator := by decide
  exact Text.splitFrom_append no_point [] path

/-- The operator collects what the components behind it lead to from each item. -/
theorem State.follow_unionOperator {keys : List Text} {items : List Value}
    (held : value.items? = some items) (more : keys ≠ []) :
    state.follow (('@' :: unionOperator) :: keys) value =
      (items.mapM (state.follow keys)).map .list := by
  have named : Aggregate.ofName? unionOperator = some .union := by decide
  rw [State.follow_operator named (by decide) held more]
  cases items.mapM (state.follow keys) with
  | error failure => rfl
  | ok found => rfl

end Resolution

/-- On a collection, a path that only reads public keys leads to the same list, in the same order,
whether each key is read from all items before the next one or, behind `@unionOfObjects`, all keys
are read from each item; and it leads nowhere in the one way if it does so in the other. The list
holds what the path leads to from each item by itself. -/
theorem resolvePath_unionOfObjects (state : State) (value : Value) (items : List Value) (path : Text)
    (held : value.items? = some items) (plain : ∀ key ∈ Text.splitOn "." path, ReadKey key)
    (result : Value) :
    (state.resolvePath value path = .ok result ↔
        state.resolvePath value (unionPath path) = .ok result) ∧
      (state.resolvePath value path = .ok result ↔
        [] ∉ Text.splitOn "." path ∧ ∃ found, result = .list found ∧
          List.Forall₂ (fun item one => state.resolvePath item path = .ok one) items found) := by
  have components : Text.splitOn "." path ≠ [] := Text.splitFrom_ne_nil _ _ _ _
  have key_by_key : state.follow (Text.splitOn "." path) value = .ok result ↔
      (items.mapM (state.follow (Text.splitOn "." path))).map .list = .ok result := by
    obtain ⟨key, rest, split⟩ := List.exists_cons_of_ne_nil components
    rw [split] at plain ⊢
    rw [State.follow_items (plain key List.mem_cons_self) held]
    exact State.follow_list plain items result
  have item_by_item : state.follow (('@' :: unionOperator) :: Text.splitOn "." path) value =
      (items.mapM (state.follow (Text.splitOn "." path))).map .list :=
    State.follow_unionOperator held components
  have no_more_empty : [] ∉ ('@' :: unionOperator) :: Text.splitOn "." path ↔
      [] ∉ Text.splitOn "." path := by simp
  constructor
  · rw [State.resolvePath_eq_ok, State.resolvePath_eq_ok, splitOn_unionPath, item_by_item,
      key_by_key, no_more_empty]
  · rw [State.resolvePath_eq_ok, key_by_key, map_eq_ok]
    apply and_congr_right
    intro filled
    have of_item : ∀ item one, state.resolvePath item path = .ok one ↔
        state.follow (Text.splitOn "." path) item = .ok one :=
      fun item one => State.resolvePath_eq_ok.trans (and_iff_right filled)
    simp only [of_item, ← mapM_eq_ok]
    constructor
    · rintro ⟨found, each, collected⟩
      exact ⟨found, collected.symm, each⟩
    · rintro ⟨found, collected, each⟩
      exact ⟨found, each, collected.symm⟩

/-- An object that answers look-ups itself, with such an object for `x` that has a number for `n`. -/
def twoLevels (number : Int) : Value := .keyed 0 .key [("x", .keyed 1 .key [("n", .int number)])]

/-- From collections inside a collection both ways lead to a list of lists. -/
theorem resolvePath_unionOfObjects_nested :
    (Value.tuple [.list [twoLevels 1, twoLevels 2], .set []]).items? =
        some [.list [twoLevels 1, twoLevels 2], .set []] ∧
      (∀ key ∈ Text.splitOn "." "x.n", ReadKey key) ∧
      State.resolvePath ⟨.empty, .empty⟩ (.tuple [.list [twoLevels 1, twoLevels 2], .set []]) "x.n" =
        .ok (.list [.list [.int 1, .int 2], .list []]) ∧
      unionPath "x.n" = "@unionOfObjects.x.n" ∧
      State.resolvePath ⟨.empty, .empty⟩ (.tuple [.list [twoLevels 1, twoLevels 2], .set []])
          "@unionOfObjects.x.n" = .ok (.list [.list [.int 1, .int 2], .list []]) := by
  have components : Text.splitOn "." "x.n" = (["x", "n"] : List Text) := rfl
  have plain : ∀ key ∈ Text.splitOn "." "x.n", ReadKey key := by
    rw [components]
    exact List.forall_mem_cons.mpr ⟨⟨rfl, rfl⟩, List.forall_mem_singleton.mpr ⟨rfl, rfl⟩⟩
  have direct : State.resolvePath ⟨.empty, .empty⟩
      (.tuple [.list [twoLevels 1, twoLevels 2], .set []]) "x.n" =
        .ok (.list [.list [.int 1, .int 2], .list []]) := by
    rw [State.resolvePath_eq_ok, components]
    exact ⟨by decide, rfl⟩
  have held : (Value.tuple [.list [twoLevels 1, twoLevels 2], .set []]).items? =
      some [.list [twoLevels 1, twoLevels 2], .set []] := rfl
  obtain ⟨same, -⟩ := resolvePath_unionOfObjects ⟨.empty, .empty⟩ _ _ "x.n" held plain
    (.list [.list [.int 1, .int 2], .list []])
  exact ⟨held, plain, direct, rfl, same.mp direct⟩

end Stencil
