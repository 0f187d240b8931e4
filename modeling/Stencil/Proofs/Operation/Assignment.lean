import Stencil.Proofs.Operation.Naming

/-!
# Assignments by name

The operation `setX` has a conventional name, and as an assignment it is named for an attribute. The
words of the conventional name are found in the whole keyword, those of the attribute in what
follows `set`, the first letter of which is made small before. So the conventional name is `set_`
before the attribute unless what follows `set` begins with two capitals that belong to one word
(`snakeCase_assignment`): then the first letter is cut off the attribute. An object carries the
operation out as the assignment to that attribute (`resolve_assignmentName`).
-/
namespace Stencil

/-- The name of an operation that assigns. -/
def assignmentName (marker word : Text) : Text := "set" ++ word ++ marker

/-- Whether what follows a capital continues an acronym that the capital begins: another capital,
which does not begin a word of its own. -/
def continuesAcronym : Text → Bool
  | [] => false
  | second :: later => Text.isCapital second && !later.head?.any Text.isSmall

section Words

variable {first letter : Char} {rest : Text}

/-- A small letter in the place of a capital is separated from an acronym that the capital begins,
and from nothing else that the capital is not separated from. -/
theorem separate_small (capital : Text.isCapital first = true) (small : Text.isSmall letter = true)
    (rest : Text) : ∃ tail, separate beginsWord (first :: rest) = first :: tail ∧
      separate beginsWord (letter :: rest) =
        letter :: if continuesAcronym rest then '_' :: tail else tail := by
  cases rest with
  | nil => exact ⟨[], rfl, rfl⟩
  | cons second later =>
    cases of_second : Text.isCapital second with
    | false =>
      refine ⟨_, separate_together (beginsWord_of_second of_second), ?_⟩
      rw [separate_together (beginsWord_of_second of_second), continuesAcronym, of_second]
      rfl
    | true =>
      have no_end : endsWord first = false := by
        rw [← Bool.not_eq_true]
        exact fun ends => absurd (capital.symm.trans (isCapital_of_endsWord ends)) nofun
      have begins : beginsWord first second later = later.head?.any Text.isSmall := by
        rw [beginsWord, closesAcronym, no_end, capital, of_second]
        rfl
      have apart : beginsWord letter second later = true := by
        rw [beginsWord, endsWord, small, of_second]
        rfl
      rw [continuesAcronym, of_second, separate_apart apart]
      cases ends : later.head?.any Text.isSmall with
      | true => exact ⟨_, separate_apart (begins.trans ends), rfl⟩
      | false => exact ⟨_, separate_together (begins.trans ends), rfl⟩

/-- The words of `setX` are `set` and those of `X`. Making the first letter of `X` small keeps them,
unless `X` begins with an acronym: then that letter becomes a word. -/
theorem snakeCase_assignment (capital : Text.isCapital first = true)
    (alphanumeric : ∀ char ∈ rest, char.isAlphanum = true) :
    ∃ letter tail, Text.isSmall letter = true ∧
      snakeCase ("set" ++ first :: rest) = "set_" ++ letter :: tail ∧
      snakeCase (Text.lowerChar first ++ rest) =
        letter :: if continuesAcronym rest then '_' :: tail else tail := by
  obtain ⟨letter, lower, small⟩ := Text.exists_small capital
  obtain ⟨tail, whole, behind⟩ := separate_small capital small rest
  have plain : ∀ char ∈ ("set" : Text), endsWord char = true := List.all_eq_true.mp rfl
  have of_set : ("set" : Text).flatMap Text.lowerChar = "set" := flatMap_lowerChar plain
  have ends : endsWord letter = true := endsWord_iff.mpr (.inl small)
  have of_letter : Text.lowerChar letter = [letter] :=
    Text.lowerChar_eq_self (by have := Text.isSmall_iff.mp small; omega) (isCapital_of_endsWord ends)
  refine ⟨letter, tail.flatMap Text.lowerChar, small, ?_, ?_⟩
  · rw [snakeCase_alphanumeric, separate_plain_append (by decide) plain capital, whole,
      List.flatMap_append, of_set, List.flatMap_cons, List.flatMap_cons, lower]
    · rfl
    · intro char member
      rcases List.mem_append.mp member with member | member
      · exact Text.isAlphanum_iff.mpr (.inr (endsWord_iff.mp (plain char member)))
      · rcases List.mem_cons.mp member with rfl | member
        · exact Text.isAlphanum_iff.mpr (.inl capital)
        · exact alphanumeric char member
  · rw [lower, List.singleton_append, snakeCase_alphanumeric, behind, List.flatMap_cons, of_letter]
    · cases continuesAcronym rest <;> rfl
    · intro char member
      rcases List.mem_cons.mp member with rfl | member
      · exact Text.isAlphanum_iff.mpr (.inr (.inl small))
      · exact alphanumeric char member

end Words

section Search

variable {marker word field : Text}

/-- The keyword of an assignment is what stands before the marker. -/
theorem keywords_assignmentName (filled : marker ≠ [])
    (plain : ∀ char ∈ marker, char.isAlphanum = false)
    (alphanumeric : ∀ char ∈ word, char.isAlphanum = true) :
    keywords (assignmentName marker word) marker = .ok ["set" ++ word] := by
  have written : assignmentName marker word = [("set" ++ word : Text)].flatMap (· ++ marker) := by
    rw [List.flatMap_singleton, assignmentName]
  rw [written, keywords_marked filled plain]
  · intro keyword member char among
    rw [List.mem_singleton.mp member] at among
    rcases List.mem_append.mp among with among | among
    · exact List.all_eq_true.mp (show ("set" : Text).all Char.isAlphanum = true from rfl) char among
    · exact alphanumeric char among
  · intro keyword member
    rw [List.mem_singleton.mp member]
    exact List.cons_ne_nil _ _

/-- The conventional name of an assignment is that of its keyword. -/
theorem conventionalName_assignmentName (filled : marker ≠ [])
    (plain : ∀ char ∈ marker, char.isAlphanum = false)
    (alphanumeric : ∀ char ∈ word, char.isAlphanum = true) :
    conventionalName (assignmentName marker word) marker = .ok (snakeCase ("set" ++ word)) := by
  rw [conventionalName, keywords_assignmentName filled plain alphanumeric]
  rfl

/-- An assignment is named for the attribute of its keyword. -/
theorem setterAttribute?_assignmentName (filled : marker ≠ [])
    (plain : ∀ char ∈ marker, char.isAlphanum = false)
    (alphanumeric : ∀ char ∈ word, char.isAlphanum = true) :
    setterAttribute? (assignmentName marker word) marker =
      .ok (setterKeyword? ("set" ++ word)) := by
  have ends : (assignmentName marker word).endsWith marker = true :=
    List.isSuffixOf_iff_suffix.mpr (List.suffix_append _ _)
  rw [setterAttribute?, if_pos ends, keywords_assignmentName filled plain alphanumeric]
  rfl

/-- A keyword `setX` assigns to the attribute that `X` names with a small letter first. -/
theorem setterKeyword?_set {first : Char} {rest : Text} (capital : Text.isCapital first = true)
    (named : snakeCase (Text.lowerChar first ++ rest) = field)
    (shown : field.startsWith "_" = false) :
    setterKeyword? ("set" ++ first :: rest) = some field := by
  have upper : Text.isUpperCase first = true := by
    have bounds := Text.isCapital_iff.mp capital
    rw [Text.isUpperCase, if_pos (by omega), capital]
  change (if Text.isUpperCase first then _ else _) = _
  rw [if_pos upper, named, shown, if_neg Bool.false_ne_true]

/-- What stands at an attribute of a target, if anything, cannot be called. -/
def State.Uncallable (state : State) (target : Value) (field : Text) : Prop :=
  ∃ found, state.attribute? target field = .ok found ∧ found.any state.isCallable = false

/-- An operation that is named for an attribute that an object has is the assignment to it, if no
class declares it and nothing that has its conventional name can be called. -/
theorem Convention.resolve_of_present {convention : Convention} {state : State} {target value : Value}
    {name candidate : Text} (filled : convention.marker ≠ [])
    (conventional : conventionalName name convention.marker = .ok candidate)
    (undeclared : ∀ info ∈ state.targetLineage target, info.Undeclared name)
    (uncallable : state.Uncallable target candidate) (named : convention.NamedFor target name field)
    (present : state.attribute? target field = .ok (some value)) :
    convention.resolve state target name = .ok ⟨name, .assign, field⟩ := by
  obtain ⟨found, there, no_call⟩ := uncallable
  have reached : ∀ fault, ¬ convention.FailsByName state target name fault := by
    rintro fault ⟨other, other_named, -, -, fails⟩
    obtain rfl := Except.ok.inj (conventional.symm.trans other_named)
    cases there.symm.trans fails
  refine Convention.Finds.resolve_eq filled
    (.assign (fun other chosen => ?_) ⟨reached, named, .inl ⟨value, present⟩⟩)
  rcases chosen with first | ⟨-, offered⟩
  · rw [← Convention.declared?_eq_some, Convention.declared?_eq_none_iff.mpr undeclared] at first
    contradiction
  · obtain rfl := Except.ok.inj (conventional.symm.trans offered.named)
    obtain ⟨value, held, callable⟩ := offered.callable
    obtain rfl := Except.ok.inj (there.symm.trans held)
    exact absurd (no_call.symm.trans callable) nofun

end Search

/-- The operation `setX` of a capital, further letters and digits, and a marker without any is named
for an attribute and has a conventional name, which is `set_` and the attribute exactly if the
capital does not begin an acronym that goes on; otherwise the attribute has the first letter as a
word of its own. An object that has the attribute carries the operation out as the assignment to it,
if no class declares it and nothing that has its conventional name can be called. -/
theorem resolve_assignmentName (marker rest : Text) (first : Char) (filled : marker ≠ [])
    (plain : ∀ char ∈ marker, char.isAlphanum = false) (capital : Text.isCapital first = true)
    (alphanumeric : ∀ char ∈ rest, char.isAlphanum = true) :
    ∃ field candidate,
      setterAttribute? (assignmentName marker (first :: rest)) marker = .ok (some field) ∧
      conventionalName (assignmentName marker (first :: rest)) marker = .ok candidate ∧
      (candidate = "set_" ++ field ↔ continuesAcronym rest = false) ∧
      (continuesAcronym rest = true →
        ∃ letter tail, field = letter :: '_' :: tail ∧ candidate = "set_" ++ letter :: tail) ∧
      ∀ (construction : Text) (state : State) (target : Value), target.isClass = false →
        (∀ info ∈ state.targetLineage target,
          info.Undeclared (assignmentName marker (first :: rest))) →
        state.Uncallable target candidate →
        (∃ value, state.attribute? target field = .ok (some value)) →
        Convention.resolve ⟨marker, construction⟩ state target
            (assignmentName marker (first :: rest)) =
          .ok ⟨assignmentName marker (first :: rest), .assign, field⟩ := by
  have word : ∀ char ∈ first :: rest, char.isAlphanum = true :=
    List.forall_mem_cons.mpr ⟨Text.isAlphanum_iff.mpr (.inl capital), alphanumeric⟩
  obtain ⟨letter, tail, small, whole, behind⟩ := snakeCase_assignment capital alphanumeric
  have conventional := conventionalName_assignmentName filled plain word
  have setter := setterAttribute?_assignmentName filled plain word
  rw [whole] at conventional
  rw [setterKeyword?_set capital behind (Text.startsWith_underscore small _)] at setter
  refine ⟨_, _, setter, conventional, ?_, ?_, ?_⟩
  · rw [List.append_cancel_left_eq, List.cons_inj_right]
    cases continuesAcronym rest with
    | false => exact ⟨fun _ => rfl, fun _ => rfl⟩
    | true =>
      refine ⟨fun same => ?_, nofun⟩
      have longer := congrArg List.length same
      rw [if_pos rfl, List.length_cons] at longer
      omega
  · intro continues
    exact ⟨letter, tail, by rw [if_pos continues], rfl⟩
  · rintro construction state target no_class undeclared uncallable ⟨value, present⟩
    exact Convention.resolve_of_present filled conventional undeclared uncallable
      ⟨no_class, setter⟩ present

/-- An object of a class that declares nothing, with one attribute. -/
def oneAttribute (name : Text) : State where
  world := World.empty.declare "Thing" [] [] []
  heap := .ofObjects [⟨.declared "Thing", [(name, .text "x")]⟩]

/-- An acronym of digits and capitals behind the first word is kept, with a marker of two
characters. -/
theorem resolve_assignmentName_later_acronym :
    ("=>" : Text) ≠ [] ∧ (∀ char ∈ ("=>" : Text), char.isAlphanum = false) ∧
      Text.isCapital 'R' = true ∧ (∀ char ∈ ("epo2URLPath" : Text), char.isAlphanum = true) ∧
      assignmentName "=>" ('R' :: "epo2URLPath") = "setRepo2URLPath=>" ∧
      setterAttribute? "setRepo2URLPath=>" "=>" = .ok (some "repo2_url_path") ∧
      conventionalName "setRepo2URLPath=>" "=>" = .ok "set_repo2_url_path" ∧
      Convention.resolve ⟨"=>", "init"⟩ (oneAttribute "repo2_url_path") (.object 0)
          "setRepo2URLPath=>" = .ok ⟨"setRepo2URLPath=>", .assign, "repo2_url_path"⟩ := by
  have filled : ("=>" : Text) ≠ [] := by decide
  have plain : ∀ char ∈ ("=>" : Text), char.isAlphanum = false :=
    List.forall_mem_cons.mpr ⟨rfl, List.forall_mem_singleton.mpr rfl⟩
  have rest : ∀ char ∈ ("epo2URLPath" : Text), char.isAlphanum = true := List.all_eq_true.mp rfl
  have setter : setterAttribute? "setRepo2URLPath=>" "=>" = .ok (some "repo2_url_path") := by decide
  have conventional : conventionalName "setRepo2URLPath=>" "=>" = .ok "set_repo2_url_path" := by
    decide
  obtain ⟨field, candidate, named, written, -, -, reached⟩ :=
    resolve_assignmentName "=>" "epo2URLPath" 'R' filled plain rfl rest
  obtain rfl := Option.some.inj (Except.ok.inj (named.symm.trans setter))
  obtain rfl := Except.ok.inj (written.symm.trans conventional)
  exact ⟨filled, plain, rfl, rest, rfl, setter, conventional,
    reached "init" (oneAttribute "repo2_url_path") (.object 0) rfl (by decide) ⟨_, rfl, rfl⟩
      ⟨_, rfl⟩⟩

/-- An acronym behind `set` loses its first letter: the operation is named for `u_rl`, though its
conventional name is that of `url`, and an object that has the attribute `url` does not carry it
out. -/
theorem resolve_setURL :
    (":" : Text) ≠ [] ∧ (∀ char ∈ (":" : Text), char.isAlphanum = false) ∧
      Text.isCapital 'U' = true ∧ (∀ char ∈ ("RL" : Text), char.isAlphanum = true) ∧
      assignmentName ":" ('U' :: "RL") = "setURL:" ∧
      setterAttribute? "setURL:" ":" = .ok (some "u_rl") ∧
      conventionalName "setURL:" ":" = .ok "set_url" ∧
      ("set_url" : Text) ≠ "set_" ++ "u_rl" ∧
      (oneAttribute "url").attribute? (.object 0) "url" = .ok (some (.text "x")) ∧
      (oneAttribute "url").attribute? (.object 0) "set_url" = .ok none ∧
      (∀ info ∈ (oneAttribute "url").targetLineage (.object 0), info.Undeclared "setURL:") ∧
      Convention.resolve ⟨":", "init"⟩ (oneAttribute "url") (.object 0) "setURL:" =
        .error (.invocation "setURL:" (.noOperation "Thing" "set_url")) := by
  exact ⟨by decide, List.forall_mem_singleton.mpr rfl, rfl, List.all_eq_true.mp rfl, rfl, by decide,
    by decide, by decide, rfl, rfl, by decide, rfl⟩

end Stencil
