import Stencil.Proofs.KeyPath.Collection

/-!
# Key paths one behind another

A path without operators leads to a value from which the rest of a longer path is followed as a
path of its own: `State.follow_append` for the components, `resolvePath_append` for whole paths. An
operator ends this, since what stands behind it is followed from each item of a collection.
-/
namespace Stencil

section Following

variable {state : State} {first : List Text}

/-- A component that is no operator is not spelled as one. -/
theorem ne_operator_of_startsWith {key : Text} (plain : key.startsWith "@" = false) (name : Text) :
    key ≠ '@' :: name := by
  rintro rfl
  exact absurd plain nofun

/-- Components without operators are followed first, and those behind them from where they lead. -/
theorem State.follow_append (plain : ∀ key ∈ first, key.startsWith "@" = false) (last : List Text)
    (value : Value) :
    state.follow (first ++ last) value = state.follow first value >>= state.follow last := by
  induction first generalizing value with
  | nil => rfl
  | cons key rest ih =>
    obtain ⟨here, behind⟩ := List.forall_mem_cons.mp plain
    have read : ∀ keys, state.follow (key :: keys) value =
        state.valueForKey key value >>= state.follow keys :=
      fun keys => State.follow_key (ne_operator_of_startsWith here)
    rw [List.cons_append, read, read, bind_assoc]
    exact bind_congr fun next => ih behind next

end Following

section Resolution

variable {state : State} {value : Value} {path first last : Text}

/-- A path fails as one that leads nowhere exactly if resolving it does, and it is reported as a
whole. -/
theorem State.resolvePath_eq_refused {cause : PathFault} :
    state.resolvePath value path = .error (.resolution path cause) ↔
      state.resolve value path = .error (.refused cause) := by
  rw [State.resolvePath]
  rcases state.resolve value path with (other | fault) | result
  · simp [Except.mapError]
  · simp [Except.mapError]
  · simp [Except.mapError]

/-- The components of a path behind another are those of the one and then those of the other. -/
theorem splitOn_pathBehind (first last : Text) :
    Text.splitOn "." (first ++ "." ++ last) = Text.splitOn "." first ++ Text.splitOn "." last := by
  have marked : first ++ "." ++ last = first ++ '.' :: last := by simp
  rw [marked]
  exact Text.splitFrom_mark '.' first last []

/-- Resolving a path without operators and another one behind it is resolving the one, and the other
from the value it leads to. -/
theorem State.resolve_append (filled : [] ∉ Text.splitOn "." first)
    (filled_behind : [] ∉ Text.splitOn "." last)
    (plain : ∀ key ∈ Text.splitOn "." first, key.startsWith "@" = false) :
    state.resolve value (first ++ "." ++ last) =
      state.resolve value first >>= fun middle => state.resolve middle last := by
  have filled_whole : [] ∉ Text.splitOn "." (first ++ "." ++ last) := by
    rw [splitOn_pathBehind, List.mem_append, not_or]
    exact ⟨filled, filled_behind⟩
  have from_middle : (fun middle => state.resolve middle last) =
      state.follow (Text.splitOn "." last) :=
    funext fun middle => State.resolve_of_filled filled_behind
  rw [State.resolve_of_filled filled_whole, State.resolve_of_filled filled, from_middle,
    splitOn_pathBehind]
  exact State.follow_append plain _ value

end Resolution

/-- Behind a path without operators that leads to a value, another path, with operators or without,
ends as it does from that value: with the same result, for the same cause but reported with the
whole path, or with the same fault that passes. Where the first path leads nowhere, or lets a fault
pass, the whole path does so for the same cause. -/
theorem resolvePath_append (state : State) (value : Value) (first last : Text)
    (filled : [] ∉ Text.splitOn "." first) (filled_behind : [] ∉ Text.splitOn "." last)
    (plain : ∀ key ∈ Text.splitOn "." first, key.startsWith "@" = false) :
    (∀ middle, state.resolvePath value first = .ok middle →
      (∀ result, state.resolvePath value (first ++ "." ++ last) = .ok result ↔
        state.resolvePath middle last = .ok result) ∧
      (∀ cause, state.resolvePath value (first ++ "." ++ last) =
          .error (.resolution (first ++ "." ++ last) cause) ↔
        state.resolvePath middle last = .error (.resolution last cause)) ∧
      ∀ fault, state.resolvePath value (first ++ "." ++ last) = .error (.escaped fault) ↔
        state.resolvePath middle last = .error (.escaped fault)) ∧
    (∀ cause, state.resolvePath value first = .error (.resolution first cause) →
      state.resolvePath value (first ++ "." ++ last) =
        .error (.resolution (first ++ "." ++ last) cause)) ∧
    ∀ fault, state.resolvePath value first = .error (.escaped fault) →
      state.resolvePath value (first ++ "." ++ last) = .error (.escaped fault) := by
  have whole : state.resolve value (first ++ "." ++ last) =
      state.resolve value first >>= fun middle => state.resolve middle last :=
    State.resolve_append filled filled_behind plain
  refine ⟨fun middle found => ?_, fun cause failed => ?_, fun fault passed => ?_⟩
  · have leads : state.resolve value first = .ok middle := mapError_eq_ok.mp found
    have same : state.resolve value (first ++ "." ++ last) = state.resolve middle last := by
      rw [whole, leads]
      rfl
    refine ⟨fun result => ?_, fun cause => ?_, fun fault => ?_⟩
    · rw [State.resolvePath, State.resolvePath, mapError_eq_ok, mapError_eq_ok, same]
    · rw [State.resolvePath_eq_refused, State.resolvePath_eq_refused, same]
    · rw [State.resolvePath_eq_escaped, State.resolvePath_eq_escaped, same]
  · have refused : state.resolve value first = .error (.refused cause) :=
      State.resolvePath_eq_refused.mp failed
    apply State.resolvePath_eq_refused.mpr
    rw [whole, refused]
    rfl
  · have escaped : state.resolve value first = .error (.escaped fault) :=
      State.resolvePath_eq_escaped.mp passed
    apply State.resolvePath_eq_escaped.mpr
    rw [whole, escaped]
    rfl

/-- An object that answers look-ups itself and has a list of lists of numbered objects. -/
def grouped : Value :=
  .keyed 2 .key [("g", .list [.list [twoLevels 1, twoLevels 2], .tuple []])]

/-- Behind the way to the list, an operator within another one ends as it does from the list. -/
theorem resolvePath_append_grouped :
    [] ∉ Text.splitOn "." "g" ∧ [] ∉ Text.splitOn "." "@unionOfObjects.@sum.x.n" ∧
      (∀ key ∈ Text.splitOn "." "g", key.startsWith "@" = false) ∧
      State.resolvePath ⟨.empty, .empty⟩ grouped "g" =
        .ok (.list [.list [twoLevels 1, twoLevels 2], .tuple []]) ∧
      State.resolvePath ⟨.empty, .empty⟩ grouped "g.@unionOfObjects.@sum.x.n" =
        .ok (.list [.int 3, .int 0]) := by
  have components : Text.splitOn "." "g" = (["g"] : List Text) := rfl
  have components_behind : Text.splitOn "." "@unionOfObjects.@sum.x.n" =
      (["@unionOfObjects", "@sum", "x", "n"] : List Text) := rfl
  have filled : [] ∉ Text.splitOn "." "g" := by
    rw [components]
    decide
  have filled_behind : [] ∉ Text.splitOn "." "@unionOfObjects.@sum.x.n" := by
    rw [components_behind]
    decide
  have plain : ∀ key ∈ Text.splitOn "." "g", key.startsWith "@" = false := by
    rw [components]
    decide
  have leads : State.resolvePath ⟨.empty, .empty⟩ grouped "g" =
      .ok (.list [.list [twoLevels 1, twoLevels 2], .tuple []]) := by
    rw [State.resolvePath_eq_ok, components]
    exact ⟨by decide, rfl⟩
  have from_there : State.resolvePath ⟨.empty, .empty⟩
      (.list [.list [twoLevels 1, twoLevels 2], .tuple []]) "@unionOfObjects.@sum.x.n" =
        .ok (.list [.int 3, .int 0]) := by
    rw [State.resolvePath_eq_ok, components_behind]
    exact ⟨by decide, rfl⟩
  have whole : ("g" : Text) ++ "." ++ "@unionOfObjects.@sum.x.n" =
      "g.@unionOfObjects.@sum.x.n" := by decide
  obtain ⟨behind, -, -⟩ :=
    resolvePath_append ⟨.empty, .empty⟩ grouped "g" "@unionOfObjects.@sum.x.n" filled
      filled_behind plain
  rw [whole] at behind
  exact ⟨filled, filled_behind, plain, leads, ((behind _ leads).1 _).mpr from_there⟩

end Stencil
