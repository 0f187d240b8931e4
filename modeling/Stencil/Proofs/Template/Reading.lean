import Stencil.Proofs.Outcome
import Stencil.Proofs.Template.Written

/-!
# What is read of a template

A reader takes one character at a time, and `scanFrom` has one equation for each of its moves.
Along the moves a reader keeps what it has read (`ScanState.Sound`), and what it makes of the rest
of a template is carried back over each of them (`ScanState.Reads`). What a reading gives is
therefore well laid and writes the template, but for a closing parenthesis that is missing at its
end (`scanFrom_reads`). A strict reading makes the moves of a lenient one until it is refused; a
lenient one never is (`scanFrom_lenient`).
-/
namespace Stencil

/-- The scan of a template of a given length: tokens, and the end behind them. -/
def Scan.ended (tokens : List Token) (length : Nat) (unterminated : Option Nat) : Scan :=
  ⟨tokens ++ [⟨.finish, [], length⟩], unterminated⟩

/-- What a template lacks for its last parameter to be closed. -/
def lacking (unterminated : Option Nat) : Text := if unterminated.isSome then [')'] else []

/-- A token is put in front of the tokens of a scan. -/
@[simp] theorem after_ended (token : Token) (tokens : List Token) (length : Nat)
    (unterminated : Option Nat) : Scan.after token (.ended tokens length unterminated) =
      .ended (token :: tokens) length unterminated := rfl

/-- A literal run is put in front of the tokens of a scan. -/
@[simp] theorem afterLiteral_ended (start : Nat) (run : Text) (tokens : List Token) (length : Nat)
    (unterminated : Option Nat) : Scan.afterLiteral start run (.ended tokens length unterminated) =
      .ended ((literalToken? start run).toList ++ tokens) length unterminated := by
  cases run <;> rfl

/-- No literal run is put in front of a scan when it is empty. -/
theorem afterLiteral_nil (start : Nat) : Scan.afterLiteral start [] = id := rfl

section Moves

variable {strict : Bool} {char : Char} {rest run : Text} {position start : Nat}
  {nested : Option Nat}

/-- An opening parenthesis ends a literal run and begins a parameter. -/
theorem scanFrom_open : scanFrom strict ('(' :: rest) position (.literal start run) =
    (scanFrom strict rest (position + 1) (.parameter position [] none)).map
      (Scan.afterLiteral start run) := by
  rw [scanFrom, if_pos rfl]

/-- Every other character goes on with a literal run, if it is one that may. -/
theorem scanFrom_literal (other : char ≠ '(') (allowed : strict = true → char ≠ ')') :
    scanFrom strict (char :: rest) position (.literal start run) =
      scanFrom strict rest (position + 1) (.literal start (char :: run)) := by
  rw [scanFrom, if_neg other, if_neg]
  simpa using allowed

/-- A closing parenthesis ends a parameter, if its text is one that may stand. -/
theorem scanFrom_close (allowed : strict = true → nested = none) :
    scanFrom strict (')' :: rest) position (.parameter start run nested) =
      (scanFrom strict rest (position + 1) (.literal (position + 1) [])).map
        (Scan.after ⟨.parameter, run.reverse, start⟩) := by
  cases strict with
  | false => cases nested <;> rfl
  | true =>
    rw [allowed rfl]
    rfl

/-- Every other character goes on with a parameter. -/
theorem scanFrom_parameter (other : char ≠ ')') :
    scanFrom strict (char :: rest) position (.parameter start run nested) =
      scanFrom strict rest (position + 1) (.parameter start (char :: run)
        (if char = '(' then nested <|> some position else nested)) := by
  rw [scanFrom.eq_def]
  exact if_neg other

/-- A strict reading that goes on with a literal run has met no closing parenthesis. -/
theorem allowed_of_scanFrom_literal {scan : Scan} (other : char ≠ '(')
    (read : scanFrom strict (char :: rest) position (.literal start run) = .ok scan) :
    strict = true → char ≠ ')' := by
  rintro rfl rfl
  rw [scanFrom, if_neg other] at read
  contradiction

/-- A strict reading that ends a parameter has met no opening parenthesis in it. -/
theorem allowed_of_scanFrom_close {scan : Scan}
    (read : scanFrom strict (')' :: rest) position (.parameter start run nested) = .ok scan) :
    strict = true → nested = none := by
  rintro rfl
  cases nested with
  | none => rfl
  | some inner =>
    rw [scanFrom, if_pos rfl] at read
    contradiction

end Moves

/-- What has been read of the token that a reader stands in. -/
def ScanState.pending : ScanState → Text
  | literal _ run => run.reverse
  | parameter _ run _ => '(' :: run.reverse

/-- Where the token begins that a reader stands in. -/
def ScanState.start : ScanState → Nat
  | literal start _ | parameter start _ _ => start

/-- Whether a reader stands in a parameter. -/
def ScanState.isParameter : ScanState → Bool
  | literal _ _ => false
  | parameter _ _ _ => true

/-- The parenthesis that ends the token that a reader stands in has not been met. -/
def ScanState.Unended : ScanState → Prop
  | literal _ run => '(' ∉ run
  | parameter _ run _ => ')' ∉ run

/-- A reader has read the token that it stands in up to its position, and not its end. -/
structure ScanState.Sound (state : ScanState) (position : Nat) : Prop where
  /-- The token reaches to the position. -/
  reached : state.start + state.pending.length = position
  /-- Its end has not been met. -/
  unended : state.Unended

/-- What a reader makes of the rest of a template. -/
structure ScanState.Reads (state : ScanState) (rest : Text) (tokens : List Token)
    (unterminated : Option Nat) : Prop where
  /-- The tokens are well laid from where the reader's token begins. -/
  laid : LaidFrom state.start tokens
  /-- They write what has been read of it and the rest, and close it if the rest does not. -/
  spelled : written tokens = state.pending ++ rest ++ lacking unterminated
  /-- A reader that stands in a parameter gives it first. -/
  opened : state.isParameter → ∀ token ∈ tokens.head?, token.kind = .parameter

section Transitions

variable {char : Char} {rest run : Text} {position start : Nat} {nested nested' : Option Nat}
  {tokens : List Token} {unterminated : Option Nat}

/-- At the end of a template a literal run is the last token. -/
theorem ScanState.Sound.reads_literal (sound : (ScanState.literal start run).Sound position) :
    (ScanState.literal start run).Reads [] (literalToken? start run).toList none := by
  refine ⟨?_, ?_, nofun⟩
  · have laid : LaidFrom start ((literalToken? start run).toList ++ []) :=
      laidFrom_literalToken sound.unended trivial nofun
    rwa [List.append_nil] at laid
  · simp [written_literalToken, ScanState.pending, lacking]

/-- At the end of a template a parameter is the last token, though nothing closes it. -/
theorem ScanState.Sound.reads_parameter
    (sound : (ScanState.parameter start run nested).Sound position) :
    (ScanState.parameter start run nested).Reads [] [⟨.parameter, run.reverse, start⟩]
      (some start) := by
  have unended : ')' ∉ run := sound.unended
  refine ⟨⟨by simpa [Token.Admitted] using unended, rfl, nofun, trivial⟩, ?_, ?_⟩
  · simp [Token.written, ScanState.pending, lacking]
  · rintro - token first
    obtain rfl := Option.some.inj first
    rfl

/-- A parameter begins with nothing read of its text. -/
theorem ScanState.sound_opened : (ScanState.parameter position [] none).Sound (position + 1) :=
  ⟨rfl, List.not_mem_nil⟩

/-- A literal run begins with nothing read. -/
theorem ScanState.sound_started : (ScanState.literal position []).Sound position :=
  ⟨rfl, List.not_mem_nil⟩

/-- A literal run goes on with any character but an opening parenthesis. -/
theorem ScanState.Sound.literal (sound : (ScanState.literal start run).Sound position)
    (other : char ≠ '(') : (ScanState.literal start (char :: run)).Sound (position + 1) := by
  have reached := sound.reached
  refine ⟨?_, List.not_mem_cons_of_ne_of_not_mem other.symm sound.unended⟩
  simp only [ScanState.start, ScanState.pending, List.length_reverse, List.length_cons] at reached ⊢
  omega

/-- A parameter goes on with any character but a closing parenthesis. -/
theorem ScanState.Sound.parameter (sound : (ScanState.parameter start run nested).Sound position)
    (other : char ≠ ')') :
    (ScanState.parameter start (char :: run) nested').Sound (position + 1) := by
  have reached := sound.reached
  refine ⟨?_, List.not_mem_cons_of_ne_of_not_mem other.symm sound.unended⟩
  simp only [ScanState.start, ScanState.pending, List.length_reverse, List.length_cons] at reached ⊢
  omega

/-- Before what is read of a parameter stands the literal run that the parameter ends. -/
theorem ScanState.Reads.of_open (sound : (ScanState.literal start run).Sound position)
    (reads : (ScanState.parameter position [] none).Reads rest tokens unterminated) :
    (ScanState.literal start run).Reads ('(' :: rest)
      ((literalToken? start run).toList ++ tokens) unterminated := by
  have reached := sound.reached
  simp only [ScanState.start, ScanState.pending, List.length_reverse] at reached
  refine ⟨?_, ?_, nofun⟩
  · refine laidFrom_literalToken sound.unended (reached ▸ reads.laid) fun token first literal => ?_
    rw [reads.opened rfl token first] at literal
    contradiction
  · rw [written_append, written_literalToken, reads.spelled]
    simp [ScanState.pending]

/-- What is read of a literal run is the same one character earlier. -/
theorem ScanState.Reads.of_literal
    (reads : (ScanState.literal start (char :: run)).Reads rest tokens unterminated) :
    (ScanState.literal start run).Reads (char :: rest) tokens unterminated := by
  refine ⟨reads.laid, ?_, nofun⟩
  rw [reads.spelled]
  simp [ScanState.pending]

/-- Before what is read from a closing parenthesis on stands the parameter that it ends. -/
theorem ScanState.Reads.of_close (sound : (ScanState.parameter start run nested).Sound position)
    (reads : (ScanState.literal (position + 1) []).Reads rest tokens unterminated) :
    (ScanState.parameter start run nested).Reads (')' :: rest)
      (⟨.parameter, run.reverse, start⟩ :: tokens) unterminated := by
  have reached := sound.reached
  have unended : ')' ∉ run := sound.unended
  simp only [ScanState.start, ScanState.pending, List.length_cons, List.length_reverse] at reached
  refine ⟨⟨by simpa [Token.Admitted] using unended, rfl, nofun, ?_⟩, ?_, ?_⟩
  · have laid : LaidFrom (position + 1) tokens := reads.laid
    have behind : position + 1 =
        start + (Token.written ⟨.parameter, run.reverse, start⟩).length := by
      simp only [Token.written, List.length_append, List.length_cons, List.length_reverse,
        List.length_nil]
      omega
    rw [behind] at laid
    exact laid
  · rw [written_cons, reads.spelled]
    simp [ScanState.pending, Token.written]
  · rintro - token first
    obtain rfl := Option.some.inj first
    rfl

/-- What is read of a parameter is the same one character earlier. -/
theorem ScanState.Reads.of_parameter
    (reads : (ScanState.parameter start (char :: run) nested').Reads rest tokens unterminated) :
    (ScanState.parameter start run nested).Reads (char :: rest) tokens unterminated := by
  refine ⟨reads.laid, ?_, fun _ => reads.opened rfl⟩
  rw [reads.spelled]
  simp [ScanState.pending]

end Transitions

/-- What a reading gives ends with the end of the template, and is well laid and writes the
template before it. -/
theorem scanFrom_reads {strict : Bool} {rest : Text} {position : Nat} {state : ScanState}
    {scan : Scan} (sound : state.Sound position)
    (read : scanFrom strict rest position state = .ok scan) :
    ∃ tokens unterminated, scan = .ended tokens (position + rest.length) unterminated ∧
      state.Reads rest tokens unterminated := by
  induction rest generalizing position state scan with
  | nil =>
    cases state with
    | literal start run =>
      rw [scanFrom] at read
      obtain rfl := Except.ok.inj read
      exact ⟨_, none, afterLiteral_ended start run [] position none,
        by simpa using sound.reads_literal⟩
    | parameter start run nested =>
      cases strict with
      | true => contradiction
      | false =>
        obtain rfl := Except.ok.inj read
        exact ⟨_, some start, rfl, sound.reads_parameter⟩
  | cons char rest ih =>
    have further : position + (char :: rest).length = position + 1 + rest.length := by
      rw [List.length_cons]
      omega
    rw [further]
    cases state with
    | literal start run =>
      by_cases opens : char = '('
      · subst opens
        rw [scanFrom_open] at read
        obtain ⟨scan, inner, rfl⟩ := map_eq_ok.mp read
        obtain ⟨tokens, unterminated, rfl, reads⟩ := ih ScanState.sound_opened inner
        exact ⟨_, unterminated, afterLiteral_ended .., reads.of_open sound⟩
      · rw [scanFrom_literal opens (allowed_of_scanFrom_literal opens read)] at read
        obtain ⟨tokens, unterminated, same, reads⟩ := ih (sound.literal opens) read
        exact ⟨tokens, unterminated, same, reads.of_literal⟩
    | parameter start run nested =>
      by_cases closes : char = ')'
      · subst closes
        rw [scanFrom_close (allowed_of_scanFrom_close read)] at read
        obtain ⟨scan, inner, rfl⟩ := map_eq_ok.mp read
        obtain ⟨tokens, unterminated, rfl, reads⟩ := ih ScanState.sound_started inner
        exact ⟨_, unterminated, after_ended .., reads.of_close sound⟩
      · rw [scanFrom_parameter closes] at read
        obtain ⟨tokens, unterminated, same, reads⟩ := ih (sound.parameter closes) read
        exact ⟨tokens, unterminated, same, reads.of_parameter⟩

/-- A lenient reading never fails. -/
theorem scanFrom_lenient (rest : Text) (position : Nat) (state : ScanState) :
    ∃ scan, scanFrom false rest position state = .ok scan := by
  induction rest generalizing position state with
  | nil => cases state <;> exact ⟨_, rfl⟩
  | cons char rest ih =>
    cases state with
    | literal start run =>
      by_cases opens : char = '('
      · obtain ⟨scan, read⟩ := ih (position + 1) (.parameter position [] none)
        rw [opens, scanFrom_open, read]
        exact ⟨_, rfl⟩
      · rw [scanFrom_literal opens fun strict => absurd strict Bool.false_ne_true]
        exact ih _ _
    | parameter start run nested =>
      by_cases closes : char = ')'
      · obtain ⟨scan, read⟩ := ih (position + 1) (.literal (position + 1) [])
        rw [closes, scanFrom_close fun strict => absurd strict Bool.false_ne_true, read]
        exact ⟨_, rfl⟩
      · rw [scanFrom_parameter closes]
        exact ih _ _

end Stencil
