import Mathlib.Data.List.Nodup
import Stencil.Text.Basic

/-!
# Texts

`Text.firstFrom` finds the leftmost position at which a needle stands: the needle stands at no
position passed over, and when nothing is found it stands nowhere. A text without the separator is
not cut, and entries with different names are kept as they are.
-/
namespace Stencil.Text

/-- The position found is a position of the text, and the needle stands at none before it. -/
theorem firstFrom_leftmost {needle text : Text} {base stop : Nat}
    (found : firstFrom needle text base = some stop) :
    base ≤ stop ∧ stop ≤ base + text.length ∧
      ∀ offset, base + offset < stop → ¬ needle <+: text.drop offset := by
  induction text generalizing base with
  | nil =>
    rw [firstFrom] at found
    split at found
    · obtain rfl := Option.some.inj found
      exact ⟨Nat.le_refl _, Nat.le_add_right _ _, fun offset earlier => by omega⟩
    · contradiction
  | cons char rest ih =>
    rw [firstFrom] at found
    split at found
    · obtain rfl := Option.some.inj found
      exact ⟨Nat.le_refl _, Nat.le_add_right _ _, fun offset earlier => by omega⟩
    · rename_i elsewhere
      obtain ⟨lower, upper, nowhere⟩ := ih found
      refine ⟨by omega, by simp only [List.length_cons]; omega, fun offset earlier => ?_⟩
      cases offset with
      | zero => exact fun stands => elsewhere (List.isPrefixOf_iff_prefix.mpr stands)
      | succ offset => exact nowhere offset (by omega)

/-- When no position is found, the needle stands at none. -/
theorem firstFrom_nowhere {needle text : Text} {base : Nat}
    (missing : firstFrom needle text base = none) (offset : Nat) (inside : offset ≤ text.length) :
    ¬ needle <+: text.drop offset := by
  induction text generalizing base offset with
  | nil =>
    rw [firstFrom] at missing
    split at missing
    · contradiction
    · rename_i filled
      simpa [List.isEmpty_iff] using filled
  | cons char rest ih =>
    rw [firstFrom] at missing
    split at missing
    · contradiction
    · rename_i elsewhere
      cases offset with
      | zero => exact fun stands => elsewhere (List.isPrefixOf_iff_prefix.mpr stands)
      | succ offset => exact ih missing offset (by simpa using inside)

/-- Nothing is cut off where the separating character does not occur. -/
theorem splitFrom_of_not_mem {mark : Char} {text : Text} (absent : mark ∉ text) (piece : Text) :
    splitFrom [mark] text piece 0 = [piece.reverse ++ text] := by
  induction text generalizing piece with
  | nil => rw [splitFrom, List.append_nil]
  | cons char rest ih =>
    rw [List.mem_cons, not_or] at absent
    have elsewhere : ¬ List.isPrefixOf [mark] (char :: rest) = true := by
      simpa using absent.1
    rw [splitFrom, if_neg elsewhere, ih absent.2]
    simp

/-- A text without the separating character is not cut. -/
theorem splitOn_of_not_mem {mark : Char} {text : Text} (absent : mark ∉ text) :
    splitOn [mark] text = [text] :=
  splitFrom_of_not_mem absent []

/-- The rest of a separator is passed over. -/
theorem splitFrom_skip (separator passed text piece : Text) :
    splitFrom separator (passed ++ text) piece passed.length =
      splitFrom separator text piece 0 := by
  induction passed with
  | nil => rfl
  | cons char passed ih => exact ih

/-- A text is cut at the separator behind it if the separator's first character does not occur in
it. -/
theorem splitFrom_append {mark : Char} {tail text : Text} (absent : mark ∉ text)
    (piece rest : Text) :
    splitFrom (mark :: tail) (text ++ (mark :: tail) ++ rest) piece 0 =
      (piece.reverse ++ text) :: splitFrom (mark :: tail) rest [] 0 := by
  induction text generalizing piece with
  | nil =>
    have stands : List.isPrefixOf (mark :: tail) (mark :: tail ++ rest) = true :=
      List.isPrefixOf_iff_prefix.mpr (List.prefix_append _ _)
    have skipped := splitFrom_skip (mark :: tail) tail rest []
    rw [List.cons_append] at stands
    rw [List.nil_append, List.cons_append, splitFrom, if_pos stands, List.append_nil]
    exact congrArg _ skipped
  | cons char text ih =>
    rw [List.mem_cons, not_or] at absent
    have elsewhere : ¬ List.isPrefixOf (mark :: tail)
        (char :: (text ++ (mark :: tail) ++ rest)) = true := by
      simp [absent.1]
    rw [List.cons_append, List.cons_append, splitFrom, if_neg elsewhere, ih absent.2]
    simp

/-- A text is cut at a separating character as what stands before it is, and what stands behind
it. -/
theorem splitFrom_mark (mark : Char) (first last piece : Text) :
    splitFrom [mark] (first ++ mark :: last) piece 0 =
      splitFrom [mark] first piece 0 ++ splitOn [mark] last := by
  induction first generalizing piece with
  | nil =>
    have stands : List.isPrefixOf [mark] (mark :: last) = true := by simp
    show splitFrom [mark] (mark :: last) piece 0 = piece.reverse :: splitOn [mark] last
    rw [splitFrom, if_pos stands]
    rfl
  | cons char rest ih =>
    have same : List.isPrefixOf [mark] (char :: (rest ++ mark :: last)) =
        List.isPrefixOf [mark] (char :: rest) := by simp [List.isPrefixOf]
    rw [List.cons_append, splitFrom, splitFrom, same]
    split
    · exact congrArg (piece.reverse :: ·) (ih [])
    · exact ih (char :: piece)

/-- Texts are joined by a separator before each but the first. -/
theorem join_cons (separator piece : Text) (rest : List Text) :
    join separator (piece :: rest) = piece ++ rest.flatMap fun next => separator ++ next := by
  induction rest generalizing piece with
  | nil => exact (List.append_nil piece).symm
  | cons next rest ih => rw [join, ih, List.flatMap_cons, List.append_assoc, List.append_assoc]

section Entries

variable {α : Type} {name : Text} {value : α} {entries : List (Text × α)}

/-- A value for a new name is put at the end. -/
theorem putEntry_of_not_mem (new : name ∉ entries.map Prod.fst) :
    putEntry name value entries = entries ++ [(name, value)] := by
  induction entries with
  | nil => rfl
  | cons entry rest ih =>
    obtain ⟨other, held⟩ := entry
    rw [List.map_cons, List.mem_cons, not_or] at new
    rw [putEntry, if_neg (Ne.symm new.1), ih new.2, List.cons_append]

/-- Entries with new and different names are put behind those kept so far. -/
theorem foldl_putEntry_of_nodup (kept : List (Text × α))
    (distinct : ((kept ++ entries).map Prod.fst).Nodup) :
    entries.foldl (fun kept (name, value) => putEntry name value kept) kept = kept ++ entries := by
  induction entries generalizing kept with
  | nil => exact (List.append_nil kept).symm
  | cons entry rest ih =>
    obtain ⟨name, value⟩ := entry
    have new : name ∉ kept.map Prod.fst := by
      rw [List.map_append, List.nodup_append'] at distinct
      exact fun old => distinct.2.2 old List.mem_cons_self
    rw [List.append_cons] at distinct
    rw [List.foldl_cons]
    dsimp only
    rw [putEntry_of_not_mem new, ih _ distinct, ← List.append_cons]

/-- Entries with different names are all kept in place. -/
theorem lastEntries_of_nodup (distinct : (entries.map Prod.fst).Nodup) :
    lastEntries entries = entries :=
  foldl_putEntry_of_nodup [] distinct

/-- A value put in place is found by its name, and the others as before. -/
theorem lookup_putEntry (name other : Text) (value : α) (entries : List (Text × α)) :
    (putEntry name value entries).lookup other =
      if other = name then some value else entries.lookup other := by
  induction entries with
  | nil =>
    rw [putEntry, List.lookup_cons]
    by_cases same : other = name
    · rw [if_pos same, beq_iff_eq.mpr same]
    · rw [if_neg same, beq_false_of_ne same]
  | cons entry rest ih =>
    obtain ⟨held, kept⟩ := entry
    rw [putEntry]
    by_cases found : held = name
    · rw [if_pos found, List.lookup_cons, List.lookup_cons, found]
      by_cases same : other = name
      · rw [if_pos same, beq_iff_eq.mpr same]
      · rw [if_neg same, beq_false_of_ne same]
    · rw [if_neg found, List.lookup_cons, List.lookup_cons, ih]
      by_cases same : other = name
      · rw [if_pos same, if_pos same, same, beq_false_of_ne (Ne.symm found)]
      · rw [if_neg same, if_neg same]

/-- Among entries the last one of a name is found. -/
theorem lookup_lastEntries (name : Text) (entries : List (Text × α)) :
    (lastEntries entries).lookup name = entries.reverse.lookup name := by
  have after : ∀ kept : List (Text × α),
      (entries.foldl (fun kept (name, value) => putEntry name value kept) kept).lookup name =
        (entries.reverse.lookup name).or (kept.lookup name) := by
    induction entries with
    | nil => exact fun kept => rfl
    | cons entry rest ih =>
      intro kept
      obtain ⟨held, value⟩ := entry
      rw [List.foldl_cons, ih, lookup_putEntry, List.reverse_cons, List.lookup_append,
        Option.or_assoc, List.lookup_cons]
      by_cases same : name = held
      · rw [if_pos same, beq_iff_eq.mpr same, Option.some_or]
      · rw [if_neg same, beq_false_of_ne same, List.lookup_nil, Option.none_or]
  exact (after []).trans Option.or_none

/-- An entry with a name of its own is found by its name. -/
theorem lookup_of_mem (distinct : (entries.map Prod.fst).Nodup) (member : (name, value) ∈ entries) :
    entries.lookup name = some value := by
  induction entries with
  | nil => exact absurd member List.not_mem_nil
  | cons entry rest ih =>
    rw [List.map_cons, List.nodup_cons] at distinct
    rcases List.mem_cons.mp member with rfl | member
    · exact List.lookup_cons_self
    · have other : name ≠ entry.1 := by
        rintro rfl
        exact distinct.1 (List.mem_map.mpr ⟨_, member, rfl⟩)
      rw [List.lookup_cons, beq_false_of_ne other]
      exact ih distinct.2 member

/-- Beside different names, a name is found with what stands at its position. -/
theorem lookup_zip {names : List Text} (values : List α) {position : Nat}
    (distinct : names.Nodup) (placed : names[position]? = some name) :
    (names.zip values).lookup name = values[position]? := by
  induction names generalizing values position with
  | nil => contradiction
  | cons first names ih =>
    rw [List.nodup_cons] at distinct
    cases values with
    | nil => rfl
    | cons value values =>
      rw [List.zip_cons_cons, List.lookup_cons]
      cases position with
      | zero =>
        obtain rfl := Option.some.inj placed
        rw [beq_self_eq_true]
        rfl
      | succ position =>
        have other : name ≠ first := by
          rintro rfl
          exact distinct.1 (List.mem_of_getElem? placed)
        rw [beq_false_of_ne other]
        exact ih values distinct.2 placed

/-- Among the entries of several lists, a name is looked for list by list. -/
theorem lookup_flatMap {β : Type} (name : Text) (lists : β → List (Text × α)) (items : List β) :
    (items.flatMap lists).lookup name = items.findSome? fun item => (lists item).lookup name := by
  induction items with
  | nil => rfl
  | cons item rest ih =>
    rw [List.flatMap_cons, List.lookup_append, List.findSome?_cons, ih]
    cases (lists item).lookup name <;> rfl

/-- Among values that are changed one by one, a name has what it had, changed. -/
theorem lookup_map_values {β : Type} (name : Text) (change : α → β) (entries : List (Text × α)) :
    (entries.map fun entry => (entry.1, change entry.2)).lookup name =
      (entries.lookup name).map change := by
  induction entries with
  | nil => rfl
  | cons entry rest ih =>
    rw [List.map_cons, List.lookup_cons, List.lookup_cons, ih]
    cases name == entry.1 <;> rfl

/-- A name is found among entries exactly if one of them has it. -/
theorem isSome_lookup : (entries.lookup name).isSome = true ↔ name ∈ entries.map Prod.fst := by
  rw [List.lookup_isSome_iff, List.mem_map]
  constructor
  · rintro ⟨entry, member, same⟩
    exact ⟨entry, member, (beq_iff_eq.mp same).symm⟩
  · rintro ⟨entry, member, same⟩
    exact ⟨entry, member, beq_iff_eq.mpr same.symm⟩

/-- Among entries with different names it does not matter from which end a name is looked for. -/
theorem lookup_reverse (distinct : (entries.map Prod.fst).Nodup) (name : Text) :
    entries.reverse.lookup name = entries.lookup name := by
  rw [← lookup_lastEntries, lastEntries_of_nodup distinct]

end Entries
end Stencil.Text
