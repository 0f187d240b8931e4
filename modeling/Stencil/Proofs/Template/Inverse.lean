import Stencil.Proofs.Template.Reading
import Stencil.Settings.Basic

/-!
# Reading what tokens write

Well laid tokens are read back from what they write (`scanFrom_written`): a literal run is read up
to the token behind it, and a parameter up to its closing parenthesis. Together with what a
reading gives, reading leniently and writing are inverse to each other (`scan_written_inverse`).
-/
namespace Stencil

section Runs

variable {strict : Bool} {text rest run : Text} {position start : Nat}

/-- A literal run goes on with every text that no parameter begins in. -/
theorem scanFrom_literal_run (plain : '(' ∉ text) (allowed : strict = true → ')' ∉ text) :
    scanFrom strict (text ++ rest) position (.literal start run) =
      scanFrom strict rest (position + text.length) (.literal start (text.reverse ++ run)) := by
  induction text generalizing position run with
  | nil => rfl
  | cons char text ih =>
    obtain ⟨other, plain⟩ := List.ne_and_not_mem_of_not_mem_cons plain
    rw [List.cons_append, scanFrom_literal other.symm, ih plain]
    · simp [Nat.add_comm, Nat.add_left_comm]
    · exact fun strict => List.not_mem_of_not_mem_cons (allowed strict)
    · exact fun strict => (List.ne_of_not_mem_cons (allowed strict)).symm

/-- A parameter goes on with every text that does not close it. -/
theorem scanFrom_parameter_run (nested : Option Nat) (unclosed : ')' ∉ text) :
    ∃ inner, scanFrom strict (text ++ rest) position (.parameter start run nested) =
        scanFrom strict rest (position + text.length)
          (.parameter start (text.reverse ++ run) inner) ∧
      ('(' ∉ text → inner = nested) := by
  induction text generalizing position run nested with
  | nil => exact ⟨nested, rfl, fun _ => rfl⟩
  | cons char text ih =>
    obtain ⟨other, unclosed⟩ := List.ne_and_not_mem_of_not_mem_cons unclosed
    rw [List.cons_append, scanFrom_parameter other.symm]
    obtain ⟨inner, same, kept⟩ := ih (if char = '(' then nested <|> some position else nested)
      unclosed
    refine ⟨inner, ?_, fun plain => ?_⟩
    · rw [same]
      simp [Nat.add_comm, Nat.add_left_comm]
    · obtain ⟨first, plain⟩ := List.ne_and_not_mem_of_not_mem_cons plain
      rw [kept plain, if_neg (Ne.symm first)]

/-- A written parameter is read as one. -/
theorem scanFrom_written_parameter (unclosed : ')' ∉ text)
    (allowed : strict = true → '(' ∉ text) :
    scanFrom strict ('(' :: text ++ [')'] ++ rest) position (.literal start run) =
      ((scanFrom strict rest (position + (text.length + 2))
          (.literal (position + (text.length + 2)) [])).map
        (Scan.after ⟨.parameter, text, position⟩)).map (Scan.afterLiteral start run) := by
  rw [List.append_assoc, List.cons_append, scanFrom_open, List.singleton_append]
  obtain ⟨inner, same, kept⟩ := scanFrom_parameter_run none unclosed
  rw [same, scanFrom_close fun strict => kept (allowed strict)]
  simp [Nat.add_comm, Nat.add_left_comm]

end Runs

/-- The token of a filled literal run. -/
theorem literalToken?_reverse {text : Text} {start : Nat} (filled : text ≠ []) :
    literalToken? start text.reverse = some ⟨.literal, text, start⟩ := by
  rw [literalToken?, List.isEmpty_reverse, List.reverse_reverse, if_neg]
  simpa using filled

/-- A literal run ends before tokens that do not begin with another one. -/
theorem scanFrom_written_flush {strict : Bool} {position start : Nat} {run : Text}
    {tokens : List Token} (laid : LaidFrom position tokens)
    (bounded : ∀ token ∈ tokens.head?, token.kind ≠ .literal) :
    scanFrom strict (written tokens) position (.literal start run) =
      (scanFrom strict (written tokens) position (.literal position [])).map
        (Scan.afterLiteral start run) := by
  cases tokens with
  | nil =>
    rw [written_nil, scanFrom, scanFrom, afterLiteral_nil]
    rfl
  | cons token rest =>
    obtain ⟨kind, text, begun⟩ := token
    cases kind with
    | literal => exact absurd rfl (bounded _ rfl)
    | finish => exact absurd laid.1 id
    | parameter =>
      rw [written_cons, Token.written]
      simp only [List.cons_append]
      rw [scanFrom_open, scanFrom_open, afterLiteral_nil]
      cases scanFrom strict _ _ _ <;> rfl

/-- Well laid tokens are read back from what they write, strictly too where their texts hold no
parentheses. -/
theorem scanFrom_written (strict : Bool) {position : Nat} {tokens : List Token}
    (laid : LaidFrom position tokens)
    (allowed : strict = true → ∀ token ∈ tokens, token.Balanced) :
    scanFrom strict (written tokens) position (.literal position []) =
      .ok (.ended tokens (position + (written tokens).length) none) := by
  induction tokens generalizing position with
  | nil => rfl
  | cons token rest ih =>
    obtain ⟨admitted, placed, apart, behind⟩ := laid
    have first := fun strict => allowed strict token List.mem_cons_self
    have read := ih behind fun strict other member =>
      allowed strict other (List.mem_cons_of_mem token member)
    obtain ⟨kind, text, begun⟩ := token
    obtain rfl : begun = position := placed
    rw [written_cons, List.length_append, ← Nat.add_assoc]
    cases kind with
    | finish => exact absurd admitted id
    | literal =>
      have bounded : ∀ next ∈ rest.head?, next.kind ≠ .literal :=
        fun next member literal => apart next member ⟨rfl, literal⟩
      rw [Token.written] at behind read ⊢
      rw [scanFrom_literal_run admitted.2 first, scanFrom_written_flush behind bounded, read,
        Except.map, afterLiteral_ended, List.append_nil, literalToken?_reverse admitted.1]
      rfl
    | parameter =>
      rw [Token.written] at behind read ⊢
      have width : ('(' :: text ++ [')']).length = text.length + 2 := by simp
      rw [width] at read ⊢
      rw [scanFrom_written_parameter admitted first, read]
      rfl

/-- Warnings say where the parameter begins that is not closed, if a reading finds one. -/
theorem Settings.warnings_of_scan {settings : Settings} {strict : Bool} {template : Text}
    {tokens : List Token} {unterminated : Option Nat} (same : settings.strict.isTruthy = strict)
    (read : scan strict template = .ok ⟨tokens, unterminated⟩) :
    settings.warnings template = (unterminated.map (unterminatedWarning template)).toList := by
  rw [warnings, same, read]
  cases unterminated <;> rfl

/-- Reading leniently and writing are inverse to each other. Every template is read as well laid
tokens that write it, closed where a warning says that it was not, and well laid tokens are read
back, without warnings, from what they write. -/
theorem scan_written_inverse :
    (∀ template : Text, ∃ (tokens : List Token) (unterminated : Option Nat),
      scan false template =
          .ok ⟨tokens ++ [⟨.finish, [], template.length⟩], unterminated⟩ ∧
        WellLaid tokens ∧
        written tokens = template ++ (if unterminated.isSome then [')'] else []) ∧
        ∀ settings : Settings, settings.strict.isTruthy = false →
          settings.warnings template =
            (unterminated.map (unterminatedWarning template)).toList) ∧
    ∀ tokens : List Token, WellLaid tokens →
      scan false (written tokens) =
          .ok ⟨tokens ++ [⟨.finish, [], (written tokens).length⟩], none⟩ ∧
        ∀ settings : Settings, settings.strict.isTruthy = false →
          settings.warnings (written tokens) = [] := by
  constructor
  · intro template
    obtain ⟨found, read⟩ := scanFrom_lenient template 0 (.literal 0 [])
    obtain ⟨tokens, unterminated, rfl, reads⟩ := scanFrom_reads ScanState.sound_started read
    rw [Nat.zero_add] at read
    exact ⟨tokens, unterminated, read, reads.laid.wellLaid, reads.spelled,
      fun settings lenient => Settings.warnings_of_scan lenient read⟩
  · intro tokens laid
    have read := scanFrom_written false (WellLaid.laidFrom [] laid) fun strict =>
      absurd strict Bool.false_ne_true
    rw [written_nil, List.length_nil, Nat.zero_add] at read
    exact ⟨read, fun settings lenient => Settings.warnings_of_scan lenient read⟩

/-- A template whose last parameter is not closed: what is read of it writes one character more,
and is read back from that under the initial settings without a warning. -/
theorem scan_written_unclosed :
    scan false "a)(b(c" = .ok ⟨[⟨.literal, "a)", 0⟩, ⟨.parameter, "b(c", 2⟩,
        ⟨.finish, [], 6⟩], some 2⟩ ∧
      WellLaid [⟨.literal, "a)", 0⟩, ⟨.parameter, "b(c", 2⟩] ∧
      scan false "a)(b(c)" = .ok ⟨[⟨.literal, "a)", 0⟩,
        ⟨.parameter, "b(c", 2⟩, ⟨.finish, [], 7⟩], none⟩ ∧
      Settings.initial.strict.isTruthy = false ∧
      Settings.initial.warnings "a)(b(c)" = [] := by
  have laid : WellLaid [⟨.literal, "a)", 0⟩, ⟨.parameter, "b(c", 2⟩] := by decide
  obtain ⟨read, quiet⟩ := scan_written_inverse.2 _ laid
  exact ⟨rfl, laid, read, rfl, quiet Settings.initial rfl⟩

end Stencil
