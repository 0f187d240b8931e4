import Mathlib.Data.List.Dedup
import Stencil.Text.Basic

/-!
# Recency

Items are listed in the order in which they were used last. Using an item moves it to the end
(`dedup_snoc`), and `newest` keeps the last ones up to a limit. What is kept after a use depends
only on what was kept before: the item moves to the end if it is there (`newest_used_of_mem`), and
otherwise it is added, in place of the oldest one if the limit is reached
(`newest_used_of_not_mem`).
-/
namespace Stencil

variable {α : Type} [DecidableEq α]

/-- The items in the order of their last use when one of them is used. -/
def used (item : α) (items : List α) : List α := items.filter (· ≠ item) ++ [item]

/-- The last items up to a limit; zero sets none. -/
def newest (limit : Int) (items : List α) : List α :=
  if limit = 0 then items else items.drop (items.length - limit.toNat)

omit [DecidableEq α] in
/-- Nothing is kept of nothing. -/
theorem newest_nil (limit : Int) : newest limit ([] : List α) = [] := by
  rw [newest, List.drop_nil, ite_self]

/-- The items with the oldest one dropped if there are more than a limit other than zero. -/
def trimmed (limit : Int) (items : List α) : List α :=
  if limit ≠ 0 ∧ limit < (items.length : Int) then items.drop 1 else items

/-- In a list that is followed by an item, the last occurrences are those of the list, with the item
moved to the end. -/
theorem dedup_snoc (items : List α) (item : α) :
    (items ++ [item]).dedup = used item items.dedup := by
  induction items with
  | nil => rfl
  | cons first items ih =>
    rw [List.cons_append]
    by_cases later : first ∈ items
    · rw [List.dedup_cons_of_mem later, List.dedup_cons_of_mem (List.mem_append_left _ later), ih]
    by_cases same : first = item
    · subst same
      rw [List.dedup_cons_of_notMem later, List.dedup_cons_of_mem (by simp), ih, used, used,
        List.filter_cons_of_neg (by simp)]
    · rw [List.dedup_cons_of_notMem later, List.dedup_cons_of_notMem (by simp [later, same]), ih,
        used, used, List.filter_cons_of_pos (by simpa using same), List.cons_append]

section Cuts

variable {limit : Int} {older recent : List α} {item : α}

/-- A list is cut into older items and recent ones by a limit: nothing is older as long as the
limit is not exceeded, and as many items are recent as the limit allows once there are older
ones. -/
def CutAt (limit : Int) (older recent : List α) : Prop :=
  older = [] ∧ (limit = 0 ∨ recent.length ≤ limit.toNat) ∨
    limit ≠ 0 ∧ recent.length = limit.toNat

omit [DecidableEq α] in
/-- The newest items are the recent ones of the list cut by the limit. -/
theorem newest_append (cut : CutAt limit older recent) :
    newest limit (older ++ recent) = recent := by
  rw [newest, List.length_append]
  rcases cut with ⟨rfl, unlimited | few⟩ | ⟨limited, full⟩
  · rw [if_pos unlimited, List.nil_append]
  · have none_older : ([] : List α).length + recent.length - limit.toNat = 0 := by
      rw [List.length_nil]
      omega
    rw [none_older, List.drop_zero, List.nil_append, ite_self]
  · have all_older : older.length + recent.length - limit.toNat = older.length := by omega
    rw [if_neg limited, all_older, List.drop_left]

omit [DecidableEq α] in
/-- Every list is cut by a limit. -/
theorem cutAt_newest (limit : Int) (items : List α) :
    ∃ older, items = older ++ newest limit items ∧ CutAt limit older (newest limit items) := by
  by_cases unlimited : limit = 0
  · have all : newest limit items = items := if_pos unlimited
    rw [all]
    exact ⟨[], rfl, .inl ⟨rfl, .inl unlimited⟩⟩
  have kept : newest limit items = items.drop (items.length - limit.toNat) := if_neg unlimited
  rw [kept]
  refine ⟨items.take (items.length - limit.toNat), (List.take_append_drop _ _).symm, ?_⟩
  rw [CutAt, List.length_drop]
  by_cases few : items.length ≤ limit.toNat
  · left
    have none_older : items.length - limit.toNat = 0 := by omega
    rw [none_older]
    exact ⟨List.take_zero, .inr (by omega)⟩
  · exact .inr ⟨unlimited, by omega⟩

/-- A recent item that is used stays among the recent ones. -/
theorem CutAt.used_of_mem (cut : CutAt limit older recent) (single : recent.Nodup)
    (held : item ∈ recent) : CutAt limit (older.filter (· ≠ item)) (used item recent) := by
  have same_length : (used item recent).length = recent.length := by
    have erased : recent.filter (· ≠ item) = recent.erase item := by
      rw [single.erase_eq_filter]
      exact List.filter_congr fun other _ =>
        Bool.eq_iff_iff.mpr (decide_eq_true_iff.trans bne_iff_ne.symm)
    have filled := List.length_pos_of_mem held
    rw [used, erased, List.length_append, List.length_erase_of_mem held, List.length_singleton]
    omega
  rw [CutAt, same_length]
  rcases cut with ⟨rfl, few⟩ | full
  · exact .inl ⟨rfl, few⟩
  · exact .inr full

end Cuts

/-- What is kept of a list after the use of an item that was kept. -/
theorem newest_used_of_mem {limit : Int} {items : List α} {item : α} (single : items.Nodup)
    (held : item ∈ newest limit items) :
    newest limit (used item items) = used item (newest limit items) := by
  obtain ⟨older, whole, cut⟩ := cutAt_newest limit items
  have behind : used item items = older.filter (· ≠ item) ++ used item (newest limit items) := by
    conv_lhs => rw [used, whole, List.filter_append, List.append_assoc]
    rfl
  rw [whole] at single
  rw [behind]
  exact newest_append (cut.used_of_mem (List.nodup_append.mp single).2.1 held)

/-- What is kept of a list after the use of an item that was not kept. -/
theorem newest_used_of_not_mem {limit : Int} {items : List α} {item : α} (bounded : 0 ≤ limit)
    (missed : item ∉ newest limit items) :
    newest limit (used item items) = trimmed limit (newest limit items ++ [item]) := by
  obtain ⟨older, whole, cut⟩ := cutAt_newest limit items
  have behind : used item items = older.filter (· ≠ item) ++ (newest limit items ++ [item]) := by
    have unchanged : (newest limit items).filter (· ≠ item) = newest limit items := by
      rw [List.filter_eq_self]
      intro other member
      have different : other ≠ item := by
        rintro rfl
        exact missed member
      simpa using different
    conv_lhs => rw [used, whole, List.filter_append, unchanged, List.append_assoc]
  rw [behind, trimmed, List.length_append, List.length_singleton]
  generalize newest limit items = recent at *
  split
  case isFalse room =>
    refine newest_append ?_
    rw [CutAt, List.length_append, List.length_singleton]
    rcases cut with ⟨rfl, few⟩ | ⟨limited, full⟩
    · exact .inl ⟨rfl, by omega⟩
    · omega
  case isTrue exceeded =>
    -- The limit is reached, so that the first of the recent items becomes an older one.
    cases recent with
    | nil => simp at exceeded; omega
    | cons first recent =>
      have further : older.filter (· ≠ item) ++ (first :: recent ++ [item]) =
          (older.filter (· ≠ item) ++ [first]) ++ (recent ++ [item]) := by simp
      rw [further]
      refine newest_append (.inr ⟨exceeded.1, ?_⟩)
      rw [CutAt, List.length_cons] at cut
      rw [List.length_append, List.length_singleton]
      have := exceeded.2
      rw [List.length_cons] at this
      omega

end Stencil
