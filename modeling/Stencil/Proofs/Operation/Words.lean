import Stencil.Proofs.Text
import Stencil.Proofs.Text.Letters

/-!
# Words of a keyword

`snakeCase` marks acronyms first and capitals after them, each in a pass of its own. Both passes
together are one local rule (`snakeCase_eq_separate`): a word begins at a capital after a small
letter or a digit, and at the last capital of several before a small letter. Words written in camel
case are found again by that rule (`snakeCase_camelCase`).
-/
namespace Stencil

/-! ### Both passes as one -/

/-- Whether the second of two neighbours is the last capital of an acronym and begins a word, given
what follows it. -/
def closesAcronym (first second : Char) (rest : Text) : Bool :=
  Text.isCapital first && Text.isCapital second && rest.head?.any Text.isSmall

/-- Whether the second of two neighbours begins a word, given what follows it. -/
def beginsWord (first second : Char) (rest : Text) : Bool :=
  endsWord first && Text.isCapital second || closesAcronym first second rest

/-- Put an underscore between neighbours by a rule on them and on what follows them. -/
def separate (rule : Char → Char → Text → Bool) : Text → Text
  | first :: second :: rest =>
    if rule first second rest then first :: '_' :: separate rule (second :: rest)
    else first :: separate rule (second :: rest)
  | text => text

section Passes

variable {rule : Char → Char → Text → Bool} {first second char : Char} {rest run word : Text}

/-- Neighbours that are not separated stay together. -/
theorem separate_together (together : rule first second rest = false) :
    separate rule (first :: second :: rest) = first :: separate rule (second :: rest) := by
  rw [separate, together, if_neg Bool.false_ne_true]

/-- Neighbours that are separated get an underscore between them. -/
theorem separate_apart (apart : rule first second rest = true) :
    separate rule (first :: second :: rest) = first :: '_' :: separate rule (second :: rest) := by
  rw [separate, if_pos apart]

/-- Nothing is put before the first character. -/
theorem exists_separate_cons (rule : Char → Char → Text → Bool) (first : Char) (rest : Text) :
    ∃ tail, separate rule (first :: rest) = first :: tail := by
  cases rest with
  | nil => exact ⟨[], rfl⟩
  | cons second rest =>
    rw [separate]
    split
    · exact ⟨_, rfl⟩
    · exact ⟨_, rfl⟩

/-- A capital is no small letter. -/
theorem isSmall_of_isCapital (capital : Text.isCapital char = true) :
    Text.isSmall char = false := by
  rw [Text.isCapital_iff] at capital
  rw [← Bool.not_eq_true, Text.isSmall_iff]
  omega

/-- No acronym is closed before a character other than a capital. -/
theorem closesAcronym_of_second (other : Text.isCapital second = false) :
    closesAcronym first second rest = false := by
  rw [closesAcronym, other, Bool.and_false, Bool.false_and]

/-- An acronym goes on before two capitals. -/
theorem closesAcronym_of_third (capital : Text.isCapital char = true) :
    closesAcronym first second (char :: rest) = false := by
  rw [closesAcronym, List.head?_cons, Option.any_some, isSmall_of_isCapital capital, Bool.and_false]

/-- Before the last two capitals of a run nothing is separated. -/
theorem separate_front {before last : Char} {front : Text}
    (capitals : ∀ char ∈ front, Text.isCapital char = true)
    (before_last : Text.isCapital before = true) (at_last : Text.isCapital last = true) :
    separate closesAcronym (front ++ before :: last :: rest) =
      front ++ separate closesAcronym (before :: last :: rest) := by
  induction front with
  | nil => rfl
  | cons first front ih =>
    obtain ⟨at_first, capitals⟩ := List.forall_mem_cons.mp capitals
    obtain ⟨second, third, tail, same, capital⟩ : ∃ second third tail,
        front ++ before :: last :: rest = second :: third :: tail ∧
          Text.isCapital third = true := by
      match front with
      | [] => exact ⟨before, last, rest, rfl, at_last⟩
      | [second] => exact ⟨second, before, _, rfl, before_last⟩
      | second :: third :: front =>
        exact ⟨second, third, _, rfl, capitals third (by simp)⟩
    rw [List.cons_append, List.cons_append, ← ih capitals, same]
    exact separate_together (closesAcronym_of_third capital)

/-- Capitals alone are not separated. -/
theorem separate_capitals (capitals : ∀ char ∈ run, Text.isCapital char = true) :
    separate closesAcronym run.reverse = run.reverse := by
  match run with
  | [] => rfl
  | [_] => rfl
  | last :: before :: front =>
    obtain ⟨at_last, capitals⟩ := List.forall_mem_cons.mp capitals
    obtain ⟨before_last, capitals⟩ := List.forall_mem_cons.mp capitals
    have whole : (last :: before :: front).reverse = front.reverse ++ [before, last] := by simp
    have ends : separate closesAcronym [before, last] = [before, last] :=
      separate_together (Bool.and_false _)
    rw [whole, separate_front (by simpa using capitals) before_last at_last, ends]

/-- A run of capitals, given in reverse, is marked before a character that is none as the rule for
acronyms says. -/
theorem separate_run (capitals : ∀ char ∈ run, Text.isCapital char = true)
    (other : Text.isCapital char = false) :
    separate closesAcronym (run.reverse ++ char :: rest) =
      (if Text.isSmall char then closeAcronym run else run.reverse) ++
        separate closesAcronym (char :: rest) := by
  have ends : ∀ last, separate closesAcronym (last :: char :: rest) =
      last :: separate closesAcronym (char :: rest) :=
    fun last => separate_together (closesAcronym_of_second other)
  match run with
  | [] => cases Text.isSmall char <;> rfl
  | [last] => cases Text.isSmall char <;> exact ends last
  | last :: before :: front =>
    obtain ⟨at_last, capitals⟩ := List.forall_mem_cons.mp capitals
    obtain ⟨before_last, capitals⟩ := List.forall_mem_cons.mp capitals
    have whole : (last :: before :: front).reverse ++ char :: rest =
        front.reverse ++ before :: last :: char :: rest := by simp
    have closes : closesAcronym before last (char :: rest) = Text.isSmall char := by
      rw [closesAcronym, before_last, at_last]
      rfl
    rw [whole, separate_front (by simpa using capitals) before_last at_last]
    cases small : Text.isSmall char with
    | true =>
      rw [separate_apart (closes.trans small), ends, if_pos rfl, closeAcronym]
      simp
    | false =>
      rw [separate_together (closes.trans small), ends, if_neg Bool.false_ne_true]
      simp

/-- Behind a character other than a capital, what follows is marked on its own. -/
theorem separate_other (other : Text.isCapital char = false) :
    separate closesAcronym (char :: rest) = char :: separate closesAcronym rest := by
  cases rest with
  | nil => rfl
  | cons second rest => exact separate_together (by rw [closesAcronym, other]; rfl)

/-- Acronyms are marked by their rule; the run holds the capitals just read, in reverse. -/
theorem markAcronyms_eq_separate (text : Text)
    (capitals : ∀ char ∈ run, Text.isCapital char = true) :
    markAcronyms run text = separate closesAcronym (run.reverse ++ text) := by
  induction text generalizing run with
  | nil => rw [markAcronyms, List.append_nil, separate_capitals capitals]
  | cons char rest ih =>
    rw [markAcronyms]
    by_cases capital : Text.isCapital char = true
    · rw [if_pos capital, ih (List.forall_mem_cons.mpr ⟨capital, capitals⟩)]
      simp
    · have other := (Bool.not_eq_true _).mp capital
      have rest_alone : markAcronyms [] rest = separate closesAcronym rest :=
        ih fun char member => absurd member List.not_mem_nil
      rw [if_neg capital, separate_run capitals other, separate_other other, rest_alone]

/-- Where acronyms are marked already, marking capitals gives what both rules say. -/
theorem markCapitals_separate (text : Text) :
    markCapitals (separate closesAcronym text) = separate beginsWord text := by
  match text with
  | [] => rfl
  | [_] => rfl
  | first :: second :: rest =>
    have behind := markCapitals_separate (second :: rest)
    obtain ⟨tail, same⟩ := exists_separate_cons closesAcronym second rest
    rw [same] at behind
    cases closing : closesAcronym first second rest with
    | true =>
      have begins : beginsWord first second rest = true := by
        rw [beginsWord, closing, Bool.or_true]
      have mark : ∀ before next, markCapitals (before :: '_' :: next) =
          before :: markCapitals ('_' :: next) := fun before next => by
        rw [markCapitals, show Text.isCapital '_' = false from rfl, Bool.and_false,
          if_neg Bool.false_ne_true]
      have under : markCapitals ('_' :: second :: tail) = '_' :: markCapitals (second :: tail) := by
        rw [markCapitals, show endsWord '_' = false from rfl, Bool.false_and,
          if_neg Bool.false_ne_true]
      rw [separate_apart closing, separate_apart begins, same, mark, under, behind]
    | false =>
      have begins : beginsWord first second rest = (endsWord first && Text.isCapital second) := by
        rw [beginsWord, closing, Bool.or_false]
      rw [separate_together closing, separate, same, markCapitals, begins, behind]

/-- The characters of a separated text are its own and underscores. -/
theorem mem_separate (member : char ∈ separate rule word) : char ∈ word ∨ char = '_' := by
  induction word with
  | nil => exact .inl member
  | cons first rest ih =>
    cases rest with
    | nil => exact .inl member
    | cons second rest =>
      have behind : char ∈ separate rule (second :: rest) →
          char ∈ first :: second :: rest ∨ char = '_' :=
        fun later => (ih later).imp_left (List.mem_cons_of_mem first)
      rw [separate] at member
      split at member
      · rcases List.mem_cons.mp member with rfl | member
        · exact .inl List.mem_cons_self
        · rcases List.mem_cons.mp member with rfl | member
          · exact .inr rfl
          · exact behind member
      · rcases List.mem_cons.mp member with rfl | member
        · exact .inl List.mem_cons_self
        · exact behind member

/-- A keyword is cut into words where the rule says that one begins, and put in lower case. -/
theorem snakeCase_eq_separate (word : Text) :
    snakeCase word = Text.lower (separate beginsWord word) := by
  rw [snakeCase, markAcronyms_eq_separate word fun char member => absurd member List.not_mem_nil]
  exact congrArg Text.lower (markCapitals_separate word)

/-- The words of letters and digits are put in lower case character by character. -/
theorem snakeCase_alphanumeric (alphanumeric : ∀ char ∈ word, char.isAlphanum = true) :
    snakeCase word = (separate beginsWord word).flatMap Text.lowerChar := by
  rw [snakeCase_eq_separate, Text.lower_eq_flatMap]
  intro char member
  rcases mem_separate member with member | rfl
  · exact Text.ne_sigma (alphanumeric char member)
  · decide

end Passes

/-! ### Words in camel case -/

/-- What a word of a keyword is. -/
structure IsWord (word : Text) : Prop where
  /-- It begins with a small letter. -/
  begins : ∃ first rest, word = first :: rest ∧ Text.isSmall first = true
  /-- It consists of small letters and digits. -/
  plain : ∀ char ∈ word, endsWord char = true

/-- What the words of a keyword are. -/
structure IsKeyword (words : List Text) : Prop where
  /-- There is one. -/
  filled : words ≠ []
  /-- Each is a word. -/
  each : ∀ word ∈ words, IsWord word
  /-- Behind the first, none is a single letter. -/
  long : ∀ word ∈ words.tail, 2 ≤ word.length

/-- Whether a text is a word can be tested. -/
instance IsWord.decidable (word : Text) : Decidable (IsWord word) :=
  decidable_of_iff
    (word.head?.any Text.isSmall = true ∧ word.all endsWord = true)
    ⟨fun ⟨begins, plain⟩ => ⟨match word with | first :: rest => ⟨first, rest, rfl, begins⟩,
        List.all_eq_true.mp plain⟩,
      fun is_word => by
        obtain ⟨first, rest, rfl, small⟩ := is_word.begins
        exact ⟨small, List.all_eq_true.mpr is_word.plain⟩⟩

/-- Whether texts are the words of a keyword can be tested. -/
instance IsKeyword.decidable (words : List Text) : Decidable (IsKeyword words) :=
  decidable_of_iff
    (words ≠ [] ∧ (∀ word ∈ words, IsWord word) ∧ ∀ word ∈ words.tail, 2 ≤ word.length)
    ⟨fun ⟨filled, each, long⟩ => ⟨filled, each, long⟩,
      fun is_keyword => ⟨is_keyword.filled, is_keyword.each, is_keyword.long⟩⟩

/-- A word with its first letter as a capital. -/
def capitalized : Text → Text
  | [] => []
  | first :: rest => Text.upperChar first ++ rest

/-- The words of a keyword written as one, each behind the first beginning with a capital. -/
def camelCase : List Text → Text
  | [] => []
  | first :: others => first ++ others.flatMap capitalized

section CamelCase

variable {word : Text} {others words : List Text} {char : Char}

/-- A character that ends a word is no capital. -/
theorem isCapital_of_endsWord (ends : endsWord char = true) : Text.isCapital char = false := by
  rw [endsWord_iff, Text.isSmall_iff, Text.isDigit_iff] at ends
  rw [← Bool.not_eq_true, Text.isCapital_iff]
  omega

/-- No word begins with a character other than a capital. -/
theorem beginsWord_of_second {first second : Char} {rest : Text}
    (other : Text.isCapital second = false) : beginsWord first second rest = false := by
  rw [beginsWord, closesAcronym_of_second other, other, Bool.and_false, Bool.false_or]

/-- Small letters and digits are not separated. -/
theorem separate_plain (plain : ∀ char ∈ word, endsWord char = true) :
    separate beginsWord word = word := by
  induction word with
  | nil => rfl
  | cons first rest ih =>
    have later := (List.forall_mem_cons.mp plain).2
    cases rest with
    | nil => rfl
    | cons second rest =>
      have other := isCapital_of_endsWord (later second List.mem_cons_self)
      rw [separate_together (beginsWord_of_second other), ih later]

/-- Small letters and digits are separated from a capital behind them, and not from each other. -/
theorem separate_plain_append {capital : Char} (filled : word ≠ [])
    (plain : ∀ char ∈ word, endsWord char = true) (is_capital : Text.isCapital capital = true)
    (rest : Text) :
    separate beginsWord (word ++ capital :: rest) =
      word ++ '_' :: separate beginsWord (capital :: rest) := by
  induction word with
  | nil => exact absurd rfl filled
  | cons first front ih =>
    obtain ⟨ends, later⟩ := List.forall_mem_cons.mp plain
    cases front with
    | nil => exact separate_apart (by rw [beginsWord, ends, is_capital]; rfl)
    | cons second front =>
      have other := isCapital_of_endsWord (later second List.mem_cons_self)
      have behind := ih (List.cons_ne_nil second front) later
      rw [List.cons_append] at behind
      rw [List.cons_append, List.cons_append, separate_together (beginsWord_of_second other), behind]
      rfl

/-- Small letters and digits are their own lower-case form. -/
theorem flatMap_lowerChar (plain : ∀ char ∈ word, endsWord char = true) :
    word.flatMap Text.lowerChar = word := by
  induction word with
  | nil => rfl
  | cons char rest ih =>
    obtain ⟨ends, later⟩ := List.forall_mem_cons.mp plain
    have code := endsWord_iff.mp ends
    rw [Text.isSmall_iff, Text.isDigit_iff] at code
    rw [List.flatMap_cons, ih later,
      Text.lowerChar_eq_self (by omega) (isCapital_of_endsWord ends), List.singleton_append]

/-- A word with a capital goes on with small letters and digits, and in lower case it is the
word. -/
theorem IsWord.capitalized_eq (is_word : IsWord word) : ∃ capital rest,
    capitalized word = capital :: rest ∧ Text.isCapital capital = true ∧
      (∀ char ∈ rest, endsWord char = true) ∧ rest.length + 1 = word.length ∧
        (capital :: rest).flatMap Text.lowerChar = word := by
  obtain ⟨first, rest, rfl, small⟩ := is_word.begins
  obtain ⟨capital, upper, is_capital, lower⟩ := Text.exists_capital small
  have plain := (List.forall_mem_cons.mp is_word.plain).2
  refine ⟨capital, rest, ?_, is_capital, plain, rfl, ?_⟩
  · rw [capitalized, upper, List.singleton_append]
  · rw [List.flatMap_cons, lower, flatMap_lowerChar plain, List.singleton_append]

/-- Words in camel case are separated where they begin. -/
theorem separate_camelCase (filled : word ≠ []) (plain : ∀ char ∈ word, endsWord char = true)
    (each : ∀ other ∈ others, IsWord other) (long : ∀ other ∈ others, 2 ≤ other.length) :
    separate beginsWord (word ++ others.flatMap capitalized) =
      word ++ others.flatMap fun other => '_' :: capitalized other := by
  induction others generalizing word with
  | nil => rw [List.flatMap_nil, List.flatMap_nil, List.append_nil, separate_plain plain]
  | cons other others ih =>
    obtain ⟨is_word, each⟩ := List.forall_mem_cons.mp each
    obtain ⟨two, long⟩ := List.forall_mem_cons.mp long
    obtain ⟨capital, rest, written, is_capital, rest_plain, length, -⟩ := is_word.capitalized_eq
    cases rest with
    | nil =>
      rw [← length] at two
      exact absurd two (by decide)
    | cons second rest =>
      have other := isCapital_of_endsWord (rest_plain second List.mem_cons_self)
      have behind := ih (List.cons_ne_nil second rest) rest_plain each long
      rw [List.cons_append] at behind
      rw [List.flatMap_cons, List.flatMap_cons, written, List.cons_append, List.cons_append,
        separate_plain_append filled plain is_capital,
        separate_together (beginsWord_of_second other), behind]
      simp

/-- Words with underscores before their capitals are in lower case the words joined by
underscores. -/
theorem flatMap_lowerChar_camelCase (plain : ∀ char ∈ word, endsWord char = true)
    (each : ∀ other ∈ others, IsWord other) :
    (word ++ others.flatMap fun other => '_' :: capitalized other).flatMap Text.lowerChar =
      Text.join "_" (word :: others) := by
  rw [Text.join_cons, List.flatMap_append, flatMap_lowerChar plain, List.flatMap_assoc]
  refine congrArg (word ++ ·) (List.flatMap_congr fun other member => ?_)
  obtain ⟨capital, rest, written, -, -, -, lower⟩ := (each other member).capitalized_eq
  rw [List.flatMap_cons, written, lower]
  rfl

/-- The characters of a word with a capital are letters and digits. -/
theorem IsWord.isAlphanum_capitalized (is_word : IsWord word) (member : char ∈ capitalized word) :
    char.isAlphanum = true := by
  obtain ⟨capital, rest, written, is_capital, plain, -, -⟩ := is_word.capitalized_eq
  rw [Text.isAlphanum_iff]
  rw [written] at member
  rcases List.mem_cons.mp member with rfl | member
  · exact .inl is_capital
  · exact .inr (endsWord_iff.mp (plain char member))

/-- The characters of a keyword are letters and digits. -/
theorem IsKeyword.isAlphanum_camelCase (is_keyword : IsKeyword words)
    (member : char ∈ camelCase words) : char.isAlphanum = true := by
  cases words with
  | nil => exact absurd member List.not_mem_nil
  | cons first others =>
    obtain ⟨is_word, each⟩ := List.forall_mem_cons.mp is_keyword.each
    rcases List.mem_append.mp member with member | member
    · exact Text.isAlphanum_iff.mpr (.inr (endsWord_iff.mp (is_word.plain char member)))
    · obtain ⟨other, among, member⟩ := List.mem_flatMap.mp member
      exact (each other among).isAlphanum_capitalized member

end CamelCase

/-- The words of a keyword in camel case are found again, joined by underscores. -/
theorem snakeCase_camelCase {words : List Text} (is_keyword : IsKeyword words) :
    snakeCase (camelCase words) = Text.join "_" words := by
  cases words with
  | nil => exact absurd rfl is_keyword.filled
  | cons first others =>
    obtain ⟨is_word, each⟩ := List.forall_mem_cons.mp is_keyword.each
    have filled : first ≠ [] := by
      obtain ⟨letter, rest, rfl, -⟩ := is_word.begins
      exact List.cons_ne_nil letter rest
    rw [snakeCase_alphanumeric fun char => is_keyword.isAlphanum_camelCase, camelCase,
      separate_camelCase filled is_word.plain each is_keyword.long,
      flatMap_lowerChar_camelCase is_word.plain each]

end Stencil
