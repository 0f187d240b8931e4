import Stencil.Conversion
import Stencil.Rendering
import Stencil.Proofs.Outcome

/-!
# Members of enumerations as text

A member fills a template with the text of its value, and is read back by what its value is shown
as, or else by its name. The two texts of a value agree unless it is absent, a boolean or itself a
member (`Value.stringify_of_isVerbatim`). So the members of an enumeration that fill templates with
texts of their own are read back where all values are of the other kinds, and in general a member is
read back exactly from the texts that lead to it (`convert_stringify_member`).
-/
namespace Stencil

/-! ### The two texts of a value -/

/-- Whether a value is of a kind that fills a template with what it is shown as. -/
def Value.isVerbatim : Value → Bool
  | .nothing | .flag _ | .member .. => false
  | _ => true

/-- A value fills a template with what it is shown as, unless it is absent, a boolean or a
member. -/
theorem Value.stringify_of_isVerbatim {value : Value} (verbatim : value.isVerbatim = true) :
    value.stringify = value.shown := by
  cases value <;> first | rfl | contradiction

/-! ### Reading a member -/

/-- A member's value is shown as another text. -/
def Member.ShownOtherwise (text : Text) (member : Member) : Prop :=
  ∃ shown, member.value.shown = .ok shown ∧ shown ≠ text

/-- A text leads to a member: it is the first one whose value is shown as the text, or no value is
and the text is a name of it. -/
def Enumeration.Leads (enumeration : Enumeration) (text : Text) (member : Member) : Prop :=
  (∃ before after, enumeration.members = before ++ member :: after ∧
      (∀ other ∈ before, other.ShownOtherwise text) ∧ member.value.shown = .ok text) ∨
    (∀ other ∈ enumeration.members, other.ShownOtherwise text) ∧
      enumeration.find? text = some member

section Reading

variable {text : Text} {member : Member} {members : List Member} {enumeration : Enumeration}

/-- No member is found by its value exactly when every value is shown as another text. -/
theorem memberOfText?_eq_none :
    memberOfText? text members = .ok none ↔ ∀ other ∈ members, other.ShownOtherwise text := by
  induction members with
  | nil => exact iff_of_true rfl fun _ member => absurd member List.not_mem_nil
  | cons first rest ih =>
    rw [memberOfText?, bind_eq_ok, List.forall_mem_cons, ← ih]
    constructor
    · rintro ⟨shown, found, chosen⟩
      by_cases same : shown = text
      · rw [if_pos same] at chosen
        exact absurd (Except.ok.inj chosen) (Option.some_ne_none first)
      · rw [if_neg same] at chosen
        exact ⟨⟨shown, found, same⟩, chosen⟩
    · rintro ⟨⟨shown, found, other⟩, missing⟩
      exact ⟨shown, found, (if_neg other).trans missing⟩

/-- The member found by its value is the first one whose value is shown as the text. -/
theorem memberOfText?_eq_some :
    memberOfText? text members = .ok (some member) ↔
      ∃ before after, members = before ++ member :: after ∧
        (∀ other ∈ before, other.ShownOtherwise text) ∧ member.value.shown = .ok text := by
  induction members with
  | nil =>
    refine iff_of_false nofun ?_
    rintro ⟨before, after, same, -⟩
    cases before <;> contradiction
  | cons first rest ih =>
    rw [memberOfText?, bind_eq_ok]
    constructor
    · rintro ⟨shown, found, chosen⟩
      by_cases same : shown = text
      · rw [if_pos same] at chosen
        obtain rfl := Option.some.inj (Except.ok.inj chosen)
        exact ⟨[], rest, rfl, fun _ member => absurd member List.not_mem_nil, same ▸ found⟩
      · rw [if_neg same] at chosen
        obtain ⟨before, after, rfl, others, shown_so⟩ := ih.mp chosen
        exact ⟨first :: before, after, rfl,
          List.forall_mem_cons.mpr ⟨⟨shown, found, same⟩, others⟩, shown_so⟩
    · rintro ⟨before, after, same, others, shown_so⟩
      cases before with
      | nil =>
        obtain ⟨rfl, rfl⟩ := List.cons_eq_cons.mp same
        exact ⟨text, shown_so, if_pos rfl⟩
      | cons other before =>
        obtain ⟨rfl, rfl⟩ := List.cons_eq_cons.mp same
        obtain ⟨⟨shown, found, different⟩, others⟩ := List.forall_mem_cons.mp others
        have later := ih.mpr ⟨before, after, rfl, others, shown_so⟩
        exact ⟨shown, found, (if_neg different).trans later⟩

/-- Members of one enumeration are told apart by their values in it. -/
theorem Enumeration.valueOf_injective (enumeration : Enumeration) :
    Function.Injective enumeration.valueOf := by
  rintro ⟨name, value⟩ ⟨name', value'⟩ same
  obtain ⟨-, -, rfl, rfl⟩ := Value.member.inj same
  rfl

/-- A member is read exactly from the texts that lead to it. -/
theorem Enumeration.read_eq_ok :
    enumeration.read text = .ok (enumeration.valueOf member) ↔ enumeration.Leads text member := by
  rw [read, bind_eq_ok, Leads, ← memberOfText?_eq_some, ← memberOfText?_eq_none]
  constructor
  · rintro ⟨found?, found, chosen⟩
    cases found? with
    | some first =>
      obtain rfl := enumeration.valueOf_injective (Except.ok.inj chosen)
      exact .inl found
    | none =>
      cases named : enumeration.find? text with
      | none =>
        rw [named] at chosen
        contradiction
      | some first =>
        rw [named] at chosen
        obtain rfl := enumeration.valueOf_injective (Except.ok.inj chosen)
        exact .inr ⟨found, rfl⟩
  · rintro (found | ⟨missing, named⟩)
    · exact ⟨_, found, rfl⟩
    · refine ⟨_, missing, ?_⟩
      dsimp only
      rw [named]
      rfl

/-- From the beginning, a text is converted to a member exactly if it leads to it. -/
theorem convert_memberOf_eq_ok :
    ConversionTable.initial.convert text (.memberOf enumeration) =
        .ok (enumeration.valueOf member) ↔ enumeration.Leads text member := by
  have converted : ConversionTable.initial.convert text (.memberOf enumeration) =
      (enumeration.read text).mapError fun fault => .conversion (.notMember fault) := rfl
  rw [converted, mapError_eq_ok, Enumeration.read_eq_ok]

end Reading

/-! ### The round trip -/

/-- The members of an enumeration fill templates with texts of their own. -/
structure Enumeration.Distinct (enumeration : Enumeration) : Prop where
  /-- Every member fills a template. -/
  filled : ∀ member ∈ enumeration.members, ∃ text,
    stringify (enumeration.valueOf member) = .ok text
  /-- No two members fill a template with the same text. -/
  apart : enumeration.members.Pairwise fun member other =>
    stringify (enumeration.valueOf member) ≠ stringify (enumeration.valueOf other)

section RoundTrip

variable {enumeration : Enumeration} {member : Member} {text : Text}

/-- A member fills a template with what its value does. -/
theorem stringify_valueOf : stringify (enumeration.valueOf member) = .ok text ↔
    member.value.stringify = .ok text := mapError_eq_ok

/-- The text of a member leads to it if its value and those before it are of the kinds that fill
templates with what they are shown as. -/
theorem Enumeration.Distinct.leads {before after : List Member} (distinct : enumeration.Distinct)
    (split : enumeration.members = before ++ member :: after)
    (verbatim : ∀ other ∈ before ++ [member], other.value.isVerbatim = true)
    (filling : stringify (enumeration.valueOf member) = .ok text) :
    enumeration.Leads text member := by
  have shown : ∀ other ∈ before ++ [member], ∀ text,
      stringify (enumeration.valueOf other) = .ok text → other.value.shown = .ok text := by
    intro other among text filling
    rw [← Value.stringify_of_isVerbatim (verbatim other among)]
    exact stringify_valueOf.mp filling
  refine .inl ⟨before, after, split, fun other earlier => ?_, shown member (by simp) text filling⟩
  have apart := distinct.apart
  rw [split, List.pairwise_append] at apart
  obtain ⟨text', filling'⟩ := distinct.filled other (by simp [split, earlier])
  refine ⟨text', shown other (List.mem_append_left _ earlier) text' filling', ?_⟩
  rintro rfl
  exact apart.2.2 other earlier member List.mem_cons_self (filling'.trans filling.symm)

end RoundTrip

/-- Where the members of an enumeration fill templates with texts of their own, a member is read
back from its text exactly if the text leads to it: if its value is the first that is shown as the
text, or no value is and the text is its name. That is so for every member whose value, like those
before it, is neither absent nor a boolean nor a member. -/
theorem convert_stringify_member (enumeration : Enumeration) (distinct : enumeration.Distinct) :
    (∀ member ∈ enumeration.members, ∃ text,
      stringify (enumeration.valueOf member) = .ok text ∧
        (ConversionTable.initial.convert text (.memberOf enumeration) =
          .ok (enumeration.valueOf member) ↔ enumeration.Leads text member)) ∧
      ∀ before member after, enumeration.members = before ++ member :: after →
        (∀ other ∈ before ++ [member], other.value.isVerbatim = true) →
          ∃ text, stringify (enumeration.valueOf member) = .ok text ∧
            ConversionTable.initial.convert text (.memberOf enumeration) =
              .ok (enumeration.valueOf member) := by
  constructor
  · intro member among
    obtain ⟨text, filling⟩ := distinct.filled member among
    exact ⟨text, filling, convert_memberOf_eq_ok⟩
  · intro before member after split verbatim
    obtain ⟨text, filling⟩ := distinct.filled member (by simp [split])
    exact ⟨text, filling, convert_memberOf_eq_ok.mpr (distinct.leads split verbatim filling)⟩

/-- A member is read back from the text of its value, though the text is the name of an earlier
one. -/
theorem convert_stringify_second_member :
    Enumeration.Distinct ⟨"Level", 0, [⟨"high", .int 1⟩, ⟨"low", .text "high"⟩], []⟩ ∧
      ∃ text, stringify (.member "Level" 0 "low" (.text "high")) = .ok text ∧
        ConversionTable.initial.convert text
            (.memberOf ⟨"Level", 0, [⟨"high", .int 1⟩, ⟨"low", .text "high"⟩], []⟩) =
          .ok (.member "Level" 0 "low" (.text "high")) := by
  have distinct :
      Enumeration.Distinct ⟨"Level", 0, [⟨"high", .int 1⟩, ⟨"low", .text "high"⟩], []⟩ := by
    constructor
    case filled =>
      intro member among
      rcases List.mem_pair.mp among with rfl | rfl
      · exact ⟨"1", rfl⟩
      · exact ⟨"high", rfl⟩
    case apart =>
      refine List.pairwise_pair.mpr fun same => ?_
      exact absurd (Except.ok.inj same) (show ("1" : Text) ≠ "high" by decide)
  exact ⟨distinct, (convert_stringify_member _ distinct).2 [⟨"high", .int 1⟩]
    ⟨"low", .text "high"⟩ [] rfl (by decide)⟩

/-- A boolean is not read back: it fills templates with its word in small letters and is shown with
a capital one. -/
theorem convert_stringify_flag_member :
    (Enumeration.ofDeclared "E" 0 [("A", .flag true)]).Distinct ∧
      stringify (.member "E" 0 "A" (.flag true)) = .ok "true" ∧
        ConversionTable.initial.convert "true"
            (.memberOf (.ofDeclared "E" 0 [("A", .flag true)])) =
          .error (.conversion (.notMember (.notMember "E" "true"))) := by
  refine ⟨⟨fun member among => ?_, List.pairwise_singleton _ _⟩, rfl, rfl⟩
  obtain rfl := List.mem_singleton.mp among
  exact ⟨"true", rfl⟩

end Stencil
