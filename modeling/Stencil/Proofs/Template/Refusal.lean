import Stencil.Proofs.Template.Acceptance

/-!
# What a strict reading refuses

Where a strict reading fails, the text before the construct that it refuses (`ScanFault.Begins`) is
paired, and the construct determines the fault; the other way round, such a construct behind paired
text is refused (`scan_strict_eq_error_iff`).
-/
namespace Stencil

/-- A text, standing at a position, begins with the construct that a fault is about: a closing
parenthesis, a parameter that is not closed, or a parameter up to its closing parenthesis with the
first opening one inside it at the position found. -/
def ScanFault.Begins (position : Nat) (text : Text) : ScanFault → Prop
  | .unmatchedClose found => found = position ∧ ∃ after, text = ')' :: after
  | .unterminated found => found = position ∧ ∃ token, text = '(' :: token ∧ ')' ∉ token
  | .nestedOpen found => ∃ outer inner after,
      text = '(' :: (outer ++ '(' :: (inner ++ ')' :: after)) ∧
        '(' ∉ outer ∧ ')' ∉ outer ∧ ')' ∉ inner ∧ found = position + 1 + outer.length

section Refusals

variable {rest run text : Text} {position start inner : Nat} {nested : Option Nat}

/-- A strict reading refuses a closing parenthesis outside all parameters. -/
theorem scanFrom_strict_close :
    scanFrom true (')' :: rest) position (.literal start run) =
      .error (.unmatchedClose position) := rfl

/-- A strict reading refuses a parameter that is not closed. -/
theorem scanFrom_strict_end :
    scanFrom true [] position (.parameter start run nested) = .error (.unterminated start) := rfl

/-- A strict reading refuses a parameter with an opening parenthesis inside it, where it closes. -/
theorem scanFrom_strict_nested (unclosed : ')' ∉ text) :
    scanFrom true (text ++ ')' :: rest) position (.parameter start run (some inner)) =
      .error (.nestedOpen inner) := by
  induction text generalizing position run with
  | nil => rfl
  | cons char text ih =>
    obtain ⟨other, unclosed⟩ := List.ne_and_not_mem_of_not_mem_cons unclosed
    rw [List.cons_append, scanFrom_parameter other.symm]
    have kept : (if char = '(' then some inner <|> some position else some inner) = some inner := by
      split <;> rfl
    rw [kept, ih unclosed]

end Refusals

/-! ### What a reader that fails has read -/

/-- The position of the first opening parenthesis in the text of a parameter opened at `start` is
the one noted, if there is one. -/
def FirstOpen (start : Nat) (text : Text) : Option Nat → Prop
  | none => '(' ∉ text
  | some found => ∃ outer inner, text = outer ++ '(' :: inner ∧ '(' ∉ outer ∧
      found = start + 1 + outer.length

/-- What a strict reader that has not failed has read: paired text, and behind it the parameter that
the reader stands in. -/
def ScanState.Holds (seen : Text) : ScanState → Prop
  | .literal _ _ => Paired seen
  | .parameter start run nested => ∃ before, seen = before ++ '(' :: run.reverse ∧
      Paired before ∧ start = before.length ∧ ')' ∉ run ∧ FirstOpen start run.reverse nested

/-- One character more in a parameter keeps the first opening parenthesis, or is it. -/
theorem FirstOpen.snoc {start : Nat} {text : Text} {nested : Option Nat} {char : Char}
    (first : FirstOpen start text nested) :
    FirstOpen start (text ++ [char])
      (if char = '(' then nested <|> some (start + 1 + text.length) else nested) := by
  cases nested with
  | some found =>
    obtain ⟨outer, inner, rfl, no_open, placed⟩ := first
    have kept : (if char = '(' then some found <|> some (start + 1 +
        (outer ++ '(' :: inner).length) else some found) = some found := by
      split <;> rfl
    rw [kept]
    exact ⟨outer, inner ++ [char], by simp, no_open, placed⟩
  | none =>
    by_cases opens : char = '('
    · subst opens
      exact ⟨text, [], rfl, first, rfl⟩
    · rw [if_neg opens]
      intro member
      rcases List.mem_append.mp member with member | member
      · exact first member
      · exact opens (List.mem_singleton.mp member).symm

section Transitions

variable {seen run : Text} {start : Nat} {nested : Option Nat} {char : Char}

/-- A literal run goes on. -/
theorem ScanState.Holds.literal (held : (ScanState.literal start run).Holds seen)
    (no_open : char ≠ '(') (no_close : char ≠ ')') :
    (ScanState.literal start (char :: run)).Holds (seen ++ [char]) :=
  Paired.append held (paired_of_plain (fun member => no_open (List.mem_singleton.mp member).symm)
    fun member => no_close (List.mem_singleton.mp member).symm)

/-- A parameter begins. -/
theorem ScanState.Holds.open (held : (ScanState.literal start run).Holds seen) :
    (ScanState.parameter seen.length [] none).Holds (seen ++ ['(']) :=
  ⟨seen, rfl, held, rfl, List.not_mem_nil, List.not_mem_nil⟩

/-- A parameter goes on. -/
theorem ScanState.Holds.parameter (held : (ScanState.parameter start run nested).Holds seen)
    (no_close : char ≠ ')') :
    (ScanState.parameter start (char :: run)
      (if char = '(' then nested <|> some seen.length else nested)).Holds (seen ++ [char]) := by
  obtain ⟨before, rfl, paired, placed, unclosed, first⟩ := held
  refine ⟨before, by simp, paired, placed,
    List.not_mem_cons_of_ne_of_not_mem no_close.symm unclosed, ?_⟩
  have reached : (before ++ '(' :: run.reverse).length = start + 1 + run.reverse.length := by
    rw [placed, List.length_append, List.length_cons]
    omega
  rw [reached, List.reverse_cons]
  exact first.snoc

/-- A parameter ends. -/
theorem ScanState.Holds.close (held : (ScanState.parameter start run none).Holds seen) :
    (ScanState.literal (seen.length + 1) []).Holds (seen ++ [')']) := by
  obtain ⟨before, rfl, paired, -, unclosed, no_open⟩ := held
  have parenthesized : Paired ('(' :: run.reverse ++ [')']) :=
    paired_parenthesized no_open fun member => unclosed (List.mem_reverse.mp member)
  rw [List.append_assoc]
  exact paired.append parenthesized

end Transitions

/-- Where a strict reading fails, it has accepted what stands before the construct that the fault
is about. -/
theorem begins_of_scanFrom_error {rest seen : Text} {state : ScanState} {fault : ScanFault}
    (held : state.Holds seen) (read : scanFrom true rest seen.length state = .error fault) :
    ∃ before tail, seen ++ rest = before ++ tail ∧ Paired before ∧
      fault.Begins before.length tail := by
  induction rest generalizing seen state with
  | nil =>
    cases state with
    | literal start run => contradiction
    | parameter start run nested =>
      obtain ⟨before, rfl, paired, placed, unclosed, -⟩ := held
      obtain rfl := Except.error.inj read
      exact ⟨before, '(' :: run.reverse, List.append_nil _, paired, placed, run.reverse, rfl,
        fun member => unclosed (List.mem_reverse.mp member)⟩
  | cons char rest ih =>
    have further : (seen ++ [char]).length = seen.length + 1 := List.length_append
    rw [List.append_cons]
    cases state with
    | literal start run =>
      by_cases opens : char = '('
      · subst opens
        rw [scanFrom_open, map_eq_error] at read
        exact ih held.open (further ▸ read)
      by_cases closes : char = ')'
      · subst closes
        obtain rfl := Except.error.inj read
        exact ⟨seen, ')' :: rest, by simp, held, rfl, rest, rfl⟩
      · rw [scanFrom_literal opens fun _ => closes] at read
        exact ih (held.literal opens closes) (further ▸ read)
    | parameter start run nested =>
      by_cases closes : char = ')'
      · subst closes
        cases nested with
        | none =>
          rw [scanFrom_close fun _ => rfl, map_eq_error] at read
          exact ih held.close (further ▸ read)
        | some found =>
          obtain rfl := Except.error.inj read
          obtain ⟨before, rfl, paired, rfl, unclosed, outer, inner, whole, no_open, rfl⟩ := held
          have parts : ')' ∉ outer ++ '(' :: inner := by
            rw [← whole]
            exact fun member => unclosed (List.mem_reverse.mp member)
          rw [List.mem_append, List.mem_cons, not_or, not_or] at parts
          exact ⟨before, '(' :: (outer ++ '(' :: (inner ++ ')' :: rest)), by simp [whole], paired,
            outer, inner, rest, rfl, no_open, parts.1, parts.2.2, rfl⟩
      · rw [scanFrom_parameter closes] at read
        exact ih (held.parameter closes) (further ▸ read)

/-! ### When a reader fails -/

/-- Behind paired text a strict reader stands in a literal run, and fails if it fails from there
on. -/
theorem scanFrom_strict_append {before : Text} {position : Nat} {state : ScanState}
    (admitted : state.Admits before) :
    ∃ start run, ∀ rest fault,
      scanFrom true rest (position + before.length) (.literal start run) = .error fault →
        scanFrom true (before ++ rest) position state = .error fault := by
  induction before generalizing position state with
  | nil =>
    cases state with
    | literal start run => exact ⟨start, run, fun _ _ => id⟩
    | parameter start run nested => exact absurd admitted.2 not_pairedInside_nil
  | cons char before ih =>
    have further : position + (char :: before).length = position + 1 + before.length := by
      rw [List.length_cons]
      omega
    rw [further]
    cases state with
    | literal start run =>
      by_cases opens : char = '('
      · subst opens
        obtain ⟨start', run', fails⟩ :=
          @ih (position + 1) (.parameter position [] none) ⟨rfl, paired_open.mp admitted⟩
        refine ⟨start', run', fun rest fault read => ?_⟩
        rw [List.cons_append, scanFrom_open, map_eq_error]
        exact fails rest fault read
      by_cases closes : char = ')'
      · subst closes
        exact absurd admitted not_paired_close
      · obtain ⟨start', run', fails⟩ :=
          @ih (position + 1) (.literal start (char :: run))
            ((paired_plain opens closes).mp admitted)
        refine ⟨start', run', fun rest fault read => ?_⟩
        rw [List.cons_append, scanFrom_literal opens fun _ => closes]
        exact fails rest fault read
    | parameter start run nested =>
      obtain ⟨rfl, inside⟩ := admitted
      by_cases closes : char = ')'
      · subst closes
        obtain ⟨start', run', fails⟩ :=
          @ih (position + 1) (.literal (position + 1) []) (pairedInside_close.mp inside)
        refine ⟨start', run', fun rest fault read => ?_⟩
        rw [List.cons_append, scanFrom_close fun _ => rfl, map_eq_error]
        exact fails rest fault read
      by_cases opens : char = '('
      · subst opens
        exact absurd inside not_pairedInside_open
      · obtain ⟨start', run', fails⟩ :=
          @ih (position + 1) (.parameter start (char :: run) none)
            ⟨rfl, (pairedInside_plain opens closes).mp inside⟩
        refine ⟨start', run', fun rest fault read => ?_⟩
        rw [List.cons_append, scanFrom_parameter closes, if_neg opens]
        exact fails rest fault read

/-- A strict reader in a literal run fails on a construct that a fault is about. -/
theorem scanFrom_error_of_begins {text run : Text} {position start : Nat} {fault : ScanFault}
    (begins : fault.Begins position text) :
    scanFrom true text position (.literal start run) = .error fault := by
  cases fault with
  | unmatchedClose found =>
    obtain ⟨rfl, after, rfl⟩ := begins
    exact scanFrom_strict_close
  | unterminated found =>
    obtain ⟨rfl, token, rfl, unclosed⟩ := begins
    obtain ⟨inner, same, -⟩ := scanFrom_parameter_run none unclosed
    rw [scanFrom_open, map_eq_error, ← List.append_nil token, same]
    exact scanFrom_strict_end
  | nestedOpen found =>
    obtain ⟨outer, inner, after, rfl, no_open, no_close, unclosed, rfl⟩ := begins
    obtain ⟨nested, same, kept⟩ := scanFrom_parameter_run none no_close
    rw [scanFrom_open, map_eq_error, same, kept no_open, scanFrom_parameter (by decide),
      if_pos rfl]
    exact scanFrom_strict_nested unclosed

/-- A strict reading fails exactly when it accepts what stands before the construct that the fault
is about. -/
theorem scan_strict_eq_error_iff (template : Text) (fault : ScanFault) :
    scan true template = .error fault ↔
      ∃ before tail, template = before ++ tail ∧ Paired before ∧
        fault.Begins before.length tail := by
  constructor
  · exact @begins_of_scanFrom_error template [] (.literal 0 []) fault paired_nil
  · rintro ⟨before, tail, rfl, paired, begins⟩
    obtain ⟨start, run, fails⟩ := @scanFrom_strict_append before 0 (.literal 0 []) paired
    refine fails tail fault ?_
    rw [Nat.zero_add]
    exact scanFrom_error_of_begins begins

end Stencil
