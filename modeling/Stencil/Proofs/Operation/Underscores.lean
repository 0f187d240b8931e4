import Stencil.Proofs.Operation.Words

/-!
# Underscores by place

Where the words of a text end can be told from the characters at three places (`wordEnds`), and
`snakeCase` is the lower case of the text with an underscore behind each such place. The underscores
do not change in what form a character is put, so that it does not matter whether they are put
before or after the text is in lower case (`lowerAfter_separate`). On ASCII text a second run finds
no more word to begin, and without its underscores the result is the text in lower case
(`snakeCase_underscores`).
-/
namespace Stencil

/-- Whether a word ends at a place of a text: a small letter or a digit stands there and a capital
behind it, or two capitals and behind them a small letter. -/
def wordEnds (text : Text) (place : Nat) : Bool :=
  match text[place]?, text[place + 1]? with
  | some here, some next =>
    (Text.isSmall here || here.isDigit) && Text.isCapital next ||
      Text.isCapital here && Text.isCapital next && text[place + 2]?.any Text.isSmall
  | _, _ => false

/-- The underscore behind a place of a text, if a word ends there. -/
def underscoreAt (text : Text) (place : Nat) : Text := if wordEnds text place then ['_'] else []

/-- What stands for each place of a text, with an underscore behind each place where a word ends. -/
def underscored (form : Nat → Text) (text : Text) : Text :=
  (List.range text.length).flatMap fun place => form place ++ underscoreAt text place

/-- The character at a place of a text by itself. -/
def characterAt (text : Text) (place : Nat) : Text := text[place]?.toList

/-- The lower-case form of a character between others; those in front of it are given in reverse. -/
def lowerFormBetween (passed : Text) (char : Char) (rest : Text) : Text :=
  if char.toNat = 0x3A3 && Text.nearestIsCased passed && !Text.nearestIsCased rest then
    [Char.ofNat 0x3C2]
  else Text.lowerChar char

/-- The lower-case form of the character at a place of a text, given what stands in front of the
text in reverse. -/
def lowerFormAt (passed text : Text) (place : Nat) : Text :=
  match text[place]? with
  | some char =>
    lowerFormBetween ((text.take place).reverse ++ passed) char (text.drop (place + 1))
  | none => []

/-! ### Place by place -/

section Places

variable {first char : Char} {rest passed text : Text}

/-- At the first of two characters a word ends exactly if the second begins one. -/
theorem wordEnds_zero (first second : Char) (rest : Text) :
    wordEnds (first :: second :: rest) 0 = beginsWord first second rest := by
  cases rest <;> rfl

/-- Where a word ends at the first place, a letter or a digit stands there and a capital behind
it. -/
theorem isAlphanum_of_wordEnds (ends : wordEnds (first :: rest) 0 = true) :
    first.isAlphanum = true ∧ ∃ capital tail, rest = capital :: tail ∧
      Text.isCapital capital = true := by
  cases rest with
  | nil => contradiction
  | cons second tail =>
    rw [wordEnds_zero, beginsWord, closesAcronym, Bool.or_eq_true, Bool.and_eq_true,
      Bool.and_eq_true, Bool.and_eq_true, endsWord_iff] at ends
    rw [Text.isAlphanum_iff]
    rcases ends with ⟨ends, capital⟩ | ⟨⟨ends, capital⟩, -⟩
    · exact ⟨.inr ends, second, tail, rfl, capital⟩
    · exact ⟨.inl ends, second, tail, rfl, capital⟩

/-- What stands for a text with underscores is what stands for its first character, an underscore if
a word ends there, and what stands for the rest. -/
theorem underscored_cons (form : Nat → Text) (first : Char) (rest : Text) :
    underscored form (first :: rest) =
      form 0 ++ underscoreAt (first :: rest) 0 ++
        underscored (fun place => form (place + 1)) rest := by
  rw [underscored, List.length_cons, List.range_succ_eq_map, List.flatMap_cons, List.flatMap_map]
  rfl

/-- A text is separated behind its first character exactly if a word ends there. -/
theorem separate_cons (first : Char) (rest : Text) :
    separate beginsWord (first :: rest) =
      first :: (underscoreAt (first :: rest) 0 ++ separate beginsWord rest) := by
  cases rest with
  | nil => rfl
  | cons second rest =>
    rw [separate, underscoreAt, wordEnds_zero]
    split <;> rfl

/-- Separating a text puts underscores where its words end. -/
theorem separate_eq_underscored (text : Text) :
    separate beginsWord text = underscored (characterAt text) text := by
  induction text with
  | nil => rfl
  | cons first rest ih =>
    rw [separate_cons, ih, underscored_cons, List.append_assoc]
    rfl

end Places

/-! ### Lower case -/

section LowerCase

variable {first char : Char} {rest passed before text : Text}

/-- Case rules do not look past ASCII letters and digits. -/
theorem isCaseIgnorable_of_isAlphanum (alphanumeric : char.isAlphanum = true) :
    Text.isCaseIgnorable char = false := by
  have apart : ∀ range ∈ Text.caseIgnorableRanges,
      range.2 < 48 ∨ 57 < range.1 ∧ range.2 < 65 ∨ 90 < range.1 ∧ range.2 < 97 ∨ 122 < range.1 := by
    decide +kernel
  rw [Text.isAlphanum_iff, Text.isCapital_iff, Text.isSmall_iff, Text.isDigit_iff] at alphanumeric
  rw [Text.isCaseIgnorable, Text.inRanges, List.any_eq_false]
  intro range member
  have outside := apart range member
  simp only [Bool.and_eq_true, decide_eq_true_eq]
  omega

/-- The nearest character that counts is the first one, or the nearest behind it if case rules look
past that. -/
theorem nearestIsCased_cons (char : Char) (rest : Text) :
    Text.nearestIsCased (char :: rest) =
      if Text.isCaseIgnorable char then Text.nearestIsCased rest else Text.isCased char := by
  cases passed_over : Text.isCaseIgnorable char <;>
    simp [Text.nearestIsCased, passed_over]

/-- A character that counts separates a text from what case rules look at behind it. -/
theorem nearestIsCased_of_isAlphanum (alphanumeric : char.isAlphanum = true) (rest : Text) :
    Text.nearestIsCased (char :: rest) = Text.isCased char := by
  rw [nearestIsCased_cons, isCaseIgnorable_of_isAlphanum alphanumeric, if_neg Bool.false_ne_true]

/-- Underscores stand behind letters and digits, so that the nearest character that counts is the
same. -/
theorem nearestIsCased_separate (text : Text) :
    Text.nearestIsCased (separate beginsWord text) = Text.nearestIsCased text := by
  induction text with
  | nil => rfl
  | cons first rest ih =>
    rw [separate_cons]
    cases ends : wordEnds (first :: rest) 0 with
    | true =>
      have alphanumeric := (isAlphanum_of_wordEnds ends).1
      rw [nearestIsCased_of_isAlphanum alphanumeric, nearestIsCased_of_isAlphanum alphanumeric]
    | false =>
      rw [underscoreAt, ends, nearestIsCased_cons, nearestIsCased_cons, ← ih]
      rfl

/-- A character other than a capital sigma is put in lower case by itself. -/
theorem lowerFormBetween_of_ne_sigma (other : char.toNat ≠ 0x3A3) (passed rest : Text) :
    lowerFormBetween passed char rest = Text.lowerChar char := by
  have no_sigma : decide (char.toNat = 0x3A3) = false := decide_eq_false other
  rw [lowerFormBetween, no_sigma, Bool.false_and, Bool.false_and, if_neg Bool.false_ne_true]

/-- Forms behind the first place are those of the rest, with the first character in front of it. -/
theorem lowerFormAt_succ (passed : Text) (first : Char) (rest : Text) (place : Nat) :
    lowerFormAt passed (first :: rest) (place + 1) = lowerFormAt (first :: passed) rest place := by
  simp [lowerFormAt]

/-- A text is put in lower case place by place. -/
theorem lowerAfter_eq_flatMap (passed text : Text) :
    Text.lowerAfter passed text =
      (List.range text.length).flatMap (lowerFormAt passed text) := by
  induction text generalizing passed with
  | nil => rfl
  | cons first rest ih =>
    rw [Text.lowerAfter, ih, List.length_cons, List.range_succ_eq_map, List.flatMap_cons,
      List.flatMap_map]
    simp only [Nat.succ_eq_add_one, lowerFormAt_succ]
    rfl

/-- Underscores do not change in what form the characters are put. The characters passed may have
been given underscores too: then the nearest one that counts is the same as without, or the next
character is a capital, whose form does not depend on them. -/
theorem lowerAfter_separate (text : Text)
    (alike : Text.nearestIsCased before = Text.nearestIsCased passed ∨
      ∃ capital tail, text = capital :: tail ∧ Text.isCapital capital = true) :
    Text.lowerAfter before (separate beginsWord text) =
      underscored (lowerFormAt passed text) text := by
  induction text generalizing passed before with
  | nil => rfl
  | cons first rest ih =>
    have behind : (fun place => lowerFormAt passed (first :: rest) (place + 1)) =
        lowerFormAt (first :: passed) rest :=
      funext fun place => lowerFormAt_succ passed first rest place
    rw [separate_cons, underscored_cons, behind]
    cases ends : wordEnds (first :: rest) 0 with
    | true =>
      obtain ⟨alphanumeric, capital⟩ := isAlphanum_of_wordEnds ends
      have no_sigma := Text.ne_sigma alphanumeric
      have later : Text.lowerAfter ('_' :: first :: before) (separate beginsWord rest) =
          underscored (lowerFormAt (first :: passed) rest) rest := ih (.inr capital)
      have here : lowerFormAt passed (first :: rest) 0 = Text.lowerChar first :=
        lowerFormBetween_of_ne_sigma no_sigma _ _
      rw [underscoreAt, ends, if_pos rfl, here, ← later, List.append_assoc]
      show lowerFormBetween before first _ ++ _ = _
      rw [lowerFormBetween_of_ne_sigma no_sigma]
      rfl
    | false =>
      have form : lowerFormBetween before first (separate beginsWord rest) =
          lowerFormAt passed (first :: rest) 0 := by
        by_cases sigma : first.toNat = 0x3A3
        · have same : Text.nearestIsCased before = Text.nearestIsCased passed := by
            apply alike.resolve_right
            rintro ⟨capital, tail, split, is_capital⟩
            obtain rfl := (List.cons.inj split).1
            exact Text.ne_sigma (Text.isAlphanum_iff.mpr (.inl is_capital)) sigma
          show _ = lowerFormBetween passed first rest
          rw [lowerFormBetween, lowerFormBetween, same, nearestIsCased_separate]
        · show _ = lowerFormBetween passed first rest
          rw [lowerFormBetween_of_ne_sigma sigma, lowerFormBetween_of_ne_sigma sigma]
      have same : Text.nearestIsCased (first :: before) = Text.nearestIsCased (first :: passed) := by
        rcases alike with same | ⟨capital, tail, split, is_capital⟩
        · rw [nearestIsCased_cons, nearestIsCased_cons, same]
        · obtain rfl := (List.cons.inj split).1
          have alphanumeric := Text.isAlphanum_iff.mpr (.inl is_capital)
          rw [nearestIsCased_of_isAlphanum alphanumeric, nearestIsCased_of_isAlphanum alphanumeric]
      rw [underscoreAt, ends, ← form, ← ih (.inl same), List.append_assoc]
      rfl

end LowerCase

/-! ### ASCII text -/

section Ascii

variable {char : Char} {text word : Text}

/-- An ASCII character has one ASCII character as its lower-case form, which is no capital. -/
theorem exists_lowerChar (ascii : char.toNat < 128) :
    ∃ small, Text.lowerChar char = [small] ∧ small.toNat < 128 ∧ Text.isCapital small = false := by
  cases capital : Text.isCapital char with
  | true =>
    obtain ⟨small, lower, is_small⟩ := Text.exists_small capital
    have code := Text.isSmall_iff.mp is_small
    exact ⟨small, lower, by omega, isCapital_of_endsWord (endsWord_iff.mpr (.inl is_small))⟩
  | false => exact ⟨char, Text.lowerChar_eq_self ascii capital, ascii, capital⟩

/-- ASCII text is put in lower case character by character. -/
theorem lower_eq_flatMap_of_ascii (ascii : ∀ char ∈ text, char.toNat < 128) :
    Text.lower text = text.flatMap Text.lowerChar := by
  apply Text.lower_eq_flatMap
  intro char member
  have code := ascii char member
  omega

/-- No word ends in a text without capitals. -/
theorem separate_of_no_capital (plain : ∀ char ∈ text, Text.isCapital char = false) :
    separate beginsWord text = text := by
  induction text with
  | nil => rfl
  | cons first rest ih =>
    have together : wordEnds (first :: rest) 0 = false := by
      by_contra apart
      obtain ⟨-, capital, tail, rfl, is_capital⟩ :=
        isAlphanum_of_wordEnds ((Bool.not_eq_false _).mp apart)
      have other := plain capital (by simp)
      rw [is_capital] at other
      contradiction
    rw [separate_cons, underscoreAt, together, ih (List.forall_mem_cons.mp plain).2]
    rfl

/-- ASCII text without capitals is its own lower case. -/
theorem flatMap_lowerChar_of_no_capital (ascii : ∀ char ∈ text, char.toNat < 128)
    (plain : ∀ char ∈ text, Text.isCapital char = false) : text.flatMap Text.lowerChar = text := by
  induction text with
  | nil => rfl
  | cons first rest ih =>
    obtain ⟨first_ascii, rest_ascii⟩ := List.forall_mem_cons.mp ascii
    obtain ⟨first_plain, rest_plain⟩ := List.forall_mem_cons.mp plain
    rw [List.flatMap_cons, Text.lowerChar_eq_self first_ascii first_plain, ih rest_ascii rest_plain]
    rfl

/-- The underscores of a separated ASCII text are all that tells its lower case from that of the
text. -/
theorem filter_lower_separate (text : Text) :
    ((separate beginsWord text).flatMap Text.lowerChar).filter (· ≠ '_') =
      (text.flatMap Text.lowerChar).filter (· ≠ '_') := by
  induction text with
  | nil => rfl
  | cons first rest ih =>
    have marks :
        ((underscoreAt (first :: rest) 0).flatMap Text.lowerChar).filter (· ≠ '_') = [] := by
      rw [underscoreAt]
      split <;> rfl
    rw [separate_cons, List.flatMap_cons, List.flatMap_cons, List.flatMap_append, List.filter_append,
      List.filter_append, List.filter_append, marks, ih]
    rfl

/-- ASCII text is cut into words character by character. -/
theorem snakeCase_of_ascii (ascii : ∀ char ∈ word, char.toNat < 128) :
    snakeCase word = (separate beginsWord word).flatMap Text.lowerChar := by
  rw [snakeCase_eq_separate]
  apply lower_eq_flatMap_of_ascii
  intro char member
  rcases mem_separate member with member | rfl
  · exact ascii char member
  · decide

/-- What ASCII text is cut into is ASCII text without capitals. -/
theorem plain_snakeCase (ascii : ∀ char ∈ word, char.toNat < 128) :
    ∀ char ∈ snakeCase word, char.toNat < 128 ∧ Text.isCapital char = false := by
  intro char member
  rw [snakeCase_of_ascii ascii, List.mem_flatMap] at member
  obtain ⟨source, among, member⟩ := member
  have source_ascii : source.toNat < 128 := by
    rcases mem_separate among with among | rfl
    · exact ascii source among
    · decide
  obtain ⟨small, lower, plain⟩ := exists_lowerChar source_ascii
  rw [lower, List.mem_singleton] at member
  rw [member]
  exact plain

/-- Cutting ASCII text into words once more changes nothing. -/
theorem snakeCase_snakeCase (ascii : ∀ char ∈ word, char.toNat < 128) :
    snakeCase (snakeCase word) = snakeCase word := by
  have plain := plain_snakeCase ascii
  have result_ascii : ∀ char ∈ snakeCase word, char.toNat < 128 :=
    fun char member => (plain char member).1
  have no_capital : ∀ char ∈ snakeCase word, Text.isCapital char = false :=
    fun char member => (plain char member).2
  rw [snakeCase_of_ascii result_ascii, separate_of_no_capital no_capital,
    flatMap_lowerChar_of_no_capital result_ascii no_capital]

end Ascii

/-- A keyword is cut into words by putting it in lower case with an underscore between two
neighbours exactly where the first is a small letter or a digit and the second a capital, or both
are capitals and a small letter follows. The underscores may be put before it is in lower case or
after, place by place. On ASCII text, doing it once more changes nothing, and without underscores
the result is the text in lower case. -/
theorem snakeCase_underscores (word : Text) :
    snakeCase word = Text.lower (underscored (characterAt word) word) ∧
      snakeCase word = underscored (lowerFormAt [] word) word ∧
      Text.lower word = (List.range word.length).flatMap (lowerFormAt [] word) ∧
      ((∀ char ∈ word, char.toNat < 128) →
        snakeCase (snakeCase word) = snakeCase word ∧
          (snakeCase word).filter (· ≠ '_') = (Text.lower word).filter (· ≠ '_')) := by
  refine ⟨?_, ?_, lowerAfter_eq_flatMap [] word, fun ascii => ⟨snakeCase_snakeCase ascii, ?_⟩⟩
  · rw [snakeCase_eq_separate, separate_eq_underscored]
  · rw [snakeCase_eq_separate]
    exact lowerAfter_separate word (.inl rfl)
  · rw [snakeCase_of_ascii ascii, lower_eq_flatMap_of_ascii ascii]
    exact filter_lower_separate word

/-- Acronyms, digits and underscores side by side. -/
theorem snakeCase_underscores_acronyms :
    (∀ char ∈ ("get_HTTPPage2URLs" : Text), char.toNat < 128) ∧
      snakeCase "get_HTTPPage2URLs" = "get_http_page2_ur_ls" ∧
      snakeCase "get_http_page2_ur_ls" = "get_http_page2_ur_ls" ∧
      ("get_http_page2_ur_ls" : Text).filter (· ≠ '_') =
        (Text.lower "get_HTTPPage2URLs").filter (· ≠ '_') := by
  have checked : ("get_HTTPPage2URLs" : Text).all (fun char => char.toNat < 128) = true := by decide
  have ascii : ∀ char ∈ ("get_HTTPPage2URLs" : Text), char.toNat < 128 :=
    fun char member => of_decide_eq_true (List.all_eq_true.mp checked char member)
  have cut : snakeCase "get_HTTPPage2URLs" = "get_http_page2_ur_ls" := by decide
  obtain ⟨-, -, -, on_ascii⟩ := snakeCase_underscores "get_HTTPPage2URLs"
  obtain ⟨again, without⟩ := on_ascii ascii
  rw [cut] at again without
  exact ⟨ascii, cut, again, without⟩

end Stencil
