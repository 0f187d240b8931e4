import Stencil.Proofs.Outcome
import Stencil.Yaml.Document

/-!
# What documents give

A YAML document gives values of its own types only (`Value.IsDocument`): scalars, lists, pairs, sets
of scalars and mappings whose keys are scalars (`Yaml.isDocument_of_read`).
-/
namespace Stencil

/-- A value that a scalar of a document can have. -/
inductive Value.IsScalar : Value → Prop
  /-- The absent value. -/
  | nothing : IsScalar .nothing
  /-- A boolean. -/
  | flag (truth : Bool) : IsScalar (.flag truth)
  /-- An integer. -/
  | int (number : Int) : IsScalar (.int number)
  /-- A floating number. -/
  | double (number : Double) : IsScalar (.double number)
  /-- A text. -/
  | text (content : Text) : IsScalar (.text content)
  /-- Bytes. -/
  | bytes (content : List UInt8) : IsScalar (.bytes content)
  /-- A date, or a date with a time. -/
  | moment (moment : Moment) : IsScalar (.moment moment)

/-- A value that a document can have. -/
inductive Value.IsDocument : Value → Prop
  /-- A scalar. -/
  | scalar {value : Value} (plain : value.IsScalar) : IsDocument value
  /-- A list of such values. -/
  | list {items : List Value} (each : ∀ item ∈ items, IsDocument item) : IsDocument (.list items)
  /-- A tuple of such values. -/
  | tuple {items : List Value} (each : ∀ item ∈ items, IsDocument item) : IsDocument (.tuple items)
  /-- A set of scalars. -/
  | set {items : List Value} (each : ∀ item ∈ items, item.IsScalar) : IsDocument (.set items)
  /-- A mapping of scalars to such values. -/
  | mapping {entries : List (Value × Value)} (keys : ∀ entry ∈ entries, entry.1.IsScalar)
    (values : ∀ entry ∈ entries, IsDocument entry.2) : IsDocument (.mapping entries)

namespace Yaml

variable {value : Value}

/-- A scalar of a document has the value of a scalar. -/
theorem isScalar_of_scalarValue {tag : Tag} {content : Text}
    (given : scalarValue tag content = .ok value) : value.IsScalar := by
  cases tag
  case nothing =>
    obtain rfl := Except.ok.inj given
    exact .nothing
  case text =>
    obtain rfl := Except.ok.inj given
    exact .text content
  case flag =>
    obtain ⟨truth, -, rfl⟩ := map_eq_ok.mp given
    exact .flag truth
  case int =>
    obtain ⟨number, -, rfl⟩ := map_eq_ok.mp given
    exact .int number
  case float =>
    obtain ⟨number, -, rfl⟩ := map_eq_ok.mp given
    exact .double number
  case moment =>
    obtain ⟨moment, -, rfl⟩ := map_eq_ok.mp given
    exact .moment moment
  case bytes =>
    obtain ⟨content, -, rfl⟩ := map_eq_ok.mp given
    exact .bytes content
  all_goals contradiction

/-- A key of a document is a scalar. -/
theorem isScalar_of_keyValue {node : Node} (given : keyValue node = .ok value) :
    value.IsScalar := by
  cases node with
  | scalar tag content => exact isScalar_of_scalarValue given
  | _ => contradiction

/-- Two judgements at once have a value exactly if both have one. -/
theorem Judged.both_eq_ok {α β : Type} {first : Judged α} {second : Judged β} {pair : α × β} :
    first.both second = .ok pair ↔ first = .ok pair.1 ∧ second = .ok pair.2 := by
  obtain ⟨a, b⟩ := pair
  cases first <;> cases second <;> simp [Judged.both]

/-- A scalar on a level has the value of a scalar. -/
theorem isDocument_of_onLevel {depth : Nat} {tag : Tag} {content : Text}
    (given : Judged.onLevel depth (scalarValue tag content) = .ok value) : value.IsDocument :=
  .scalar (isScalar_of_scalarValue (mapError_eq_ok.mp given))

/-- An entry of a document: a scalar, and a value that a document can have. -/
def IsEntry (entry : Value × Value) : Prop := entry.1.IsScalar ∧ entry.2.IsDocument

/-- Entries of a document make a mapping of a document. -/
theorem isDocument_mapping {entries : List (Value × Value)} (each : ∀ entry ∈ entries, IsEntry entry) :
    (Value.mapping entries).IsDocument :=
  .mapping (fun entry member => (each entry member).1) fun entry member => (each entry member).2

/-- Entries stay entries of a document where one is put among them. -/
theorem isEntry_of_mem_putKey {entries : List (Value × Value)}
    (each : ∀ entry ∈ entries, IsEntry entry) {new : Value × Value} (entered : IsEntry new) :
    ∀ entry ∈ putKey new.1 new.2 entries, IsEntry entry := by
  induction entries with
  | nil =>
    intro entry member
    rw [List.mem_singleton.mp member]
    exact entered
  | cons first rest ih =>
    obtain ⟨here, behind⟩ := List.forall_mem_cons.mp each
    rw [putKey]
    split
    · exact List.forall_mem_cons.mpr ⟨⟨here.1, entered.2⟩, behind⟩
    · exact List.forall_mem_cons.mpr ⟨here, ih behind⟩

/-- The entries of a document by their keys are entries of a document. -/
theorem isEntry_of_mem_distinctEntries {entries : List (Value × Value)}
    (each : ∀ entry ∈ entries, IsEntry entry) : ∀ entry ∈ distinctEntries entries, IsEntry entry := by
  unfold distinctEntries
  apply List.foldlRecOn (motive := fun kept => ∀ entry ∈ kept, IsEntry entry)
  · exact fun _ member => absurd member List.not_mem_nil
  · intro kept fine entry member
    exact isEntry_of_mem_putKey fine (each entry member)

/-- The nodes of a document give values that a document can have, the entries of mappings give
entries, and the pairs and items of sequences such values. -/
theorem nodes_give :
    (∀ depth node, ∀ value, Node.valueAt depth node = .ok value → value.IsDocument) ∧
      (∀ depth nodes, ∀ entries, entryValues depth nodes = .ok entries →
        ∀ entry ∈ entries, IsEntry entry) ∧
      (∀ depth nodes, ∀ items, pairValues depth nodes = .ok items →
        ∀ item ∈ items, item.IsDocument) ∧
      ∀ depth nodes, ∀ items, itemValues depth nodes = .ok items →
        ∀ item ∈ items, item.IsDocument := by
  -- The cases are those of the reading: a tag that does not fit the node gives no value.
  apply Node.valueAt.mutual_induct
  case case5 =>
    intro depth content tag no_sequence no_mapping no_set no_pairs value given
    rw [Node.valueAt] at given
    · exact isDocument_of_onLevel given
    all_goals assumption
  case case6 =>
    intro depth items each value given
    rw [Node.valueAt] at given
    obtain ⟨found, items_given, rfl⟩ := map_eq_ok.mp given
    exact .list (each found items_given)
  case case7 =>
    intro depth items each value given
    rw [Node.valueAt] at given
    obtain ⟨found, items_given, rfl⟩ := map_eq_ok.mp given
    exact .list (each found items_given)
  case case11 =>
    intro depth entries each value given
    rw [Node.valueAt] at given
    obtain ⟨found, entries_given, rfl⟩ := map_eq_ok.mp given
    exact isDocument_mapping (isEntry_of_mem_distinctEntries (each found entries_given))
  case case13 =>
    intro depth entries each value given
    rw [Node.valueAt] at given
    obtain ⟨found, entries_given, rfl⟩ := map_eq_ok.mp given
    have entered := isEntry_of_mem_distinctEntries (each found entries_given)
    apply Value.IsDocument.set
    intro key member
    obtain ⟨entry, among, rfl⟩ := List.mem_map.mp member
    exact (entered entry among).1
  case case17 =>
    intro depth entries whole tag no_mapping no_set no_sequence no_pairs content found value given
    rw [Node.valueAt] at given
    · rw [found] at given
      exact isDocument_of_onLevel given
    all_goals assumption
  case case19 =>
    intro depth items given
    rw [pairValues] at given
    obtain rfl := Except.ok.inj given
    exact fun _ member => absurd member List.not_mem_nil
  case case20 =>
    intro depth tag key value whole rest from_key from_value behind items given
    rw [pairValues] at given
    obtain ⟨⟨⟨key', value'⟩, rest'⟩, all_given, rfl⟩ := map_eq_ok.mp given
    obtain ⟨pair_given, rest_given⟩ := Judged.both_eq_ok.mp all_given
    obtain ⟨key_given, value_given⟩ := Judged.both_eq_ok.mp pair_given
    refine List.forall_mem_cons.mpr ⟨.tuple ?_, behind rest' rest_given⟩
    exact List.forall_mem_cons.mpr ⟨from_key key' key_given,
      List.forall_mem_singleton.mpr (from_value value' value_given)⟩
  case case22 =>
    intro depth items given
    rw [itemValues] at given
    obtain rfl := Except.ok.inj given
    exact fun _ member => absurd member List.not_mem_nil
  case case23 =>
    intro depth item rest from_item behind items given
    rw [itemValues] at given
    obtain ⟨⟨item', rest'⟩, all_given, rfl⟩ := map_eq_ok.mp given
    obtain ⟨item_given, rest_given⟩ := Judged.both_eq_ok.mp all_given
    exact List.forall_mem_cons.mpr ⟨from_item item' item_given, behind rest' rest_given⟩
  case case24 =>
    intro depth entries given
    rw [entryValues] at given
    obtain rfl := Except.ok.inj given
    exact fun _ member => absurd member List.not_mem_nil
  case case25 =>
    intro depth key value rest from_value behind entries given
    rw [entryValues] at given
    obtain ⟨⟨⟨key', value'⟩, rest'⟩, all_given, rfl⟩ := map_eq_ok.mp given
    obtain ⟨entry_given, rest_given⟩ := Judged.both_eq_ok.mp all_given
    obtain ⟨key_given, value_given⟩ := Judged.both_eq_ok.mp entry_given
    have scalar := isScalar_of_keyValue (mapError_eq_ok.mp key_given)
    exact List.forall_mem_cons.mpr ⟨⟨scalar, from_value value' value_given⟩,
      behind rest' rest_given⟩
  case case12 | case14 =>
    intro depth entries whole broken value given
    rw [Node.valueAt, if_neg broken] at given
    contradiction
  case case18 =>
    intro depth entries whole tag no_mapping no_set no_sequence no_pairs none value given
    rw [Node.valueAt] at given
    · rw [none] at given
      contradiction
    all_goals assumption
  case case10 =>
    intro depth tag items no_sequence no_pairs no_mapping no_set value given
    rw [Node.valueAt] at given
    · contradiction
    all_goals assumption
  case case21 =>
    intro nodes depth filled no_pair items given
    rw [pairValues] at given
    · contradiction
    all_goals assumption
  all_goals
    intros
    next given =>
      rw [Node.valueAt] at given
      contradiction

/-- A document gives a value that a document can have. -/
theorem isDocument_of_read {document : Text} (given : read document = .ok value) :
    value.IsDocument := by
  rw [read] at given
  by_cases permitted : (unifyBreaks document).all isPermitted = true
  · rw [if_pos permitted] at given
    obtain ⟨root, -, from_root⟩ := bind_eq_ok.mp given
    cases root with
    | none =>
      obtain rfl := Except.ok.inj from_root
      exact .scalar .nothing
    | some node => exact nodes_give.1 0 node value (mapError_eq_ok.mp from_root)
  · rw [if_neg permitted] at given
    contradiction

end Yaml

end Stencil
