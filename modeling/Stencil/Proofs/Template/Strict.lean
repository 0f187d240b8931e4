import Stencil.Proofs.Template.Refusal

/-!
# Strict and lenient reading

A lenient reading notes a parameter that is not closed (`scanFrom_unterminated_iff`), and templates
are compiled alike under settings that read them alike (`Settings.compile_congr`).
`scan_strict_refines_lenient` puts together what a strict reading accepts, what it refuses, and how
it is related to a lenient one.
-/
namespace Stencil

/-! ### The warning of a lenient reading -/

/-- What is left of a template leaves a parameter without its closing parenthesis: the one that the
reader stands in, or a later one. -/
def ScanState.Leaves (rest : Text) (state : ScanState) : Prop :=
  (state.isParameter = true ∧ ')' ∉ rest) ∨ Unclosed rest

/-- A literal run in front leaves it as it is whether a parameter is closed. -/
theorem Scan.unterminated_afterLiteral (start : Nat) (run : Text) (scan : Scan) :
    (scan.afterLiteral start run).unterminated = scan.unterminated := by
  cases run <;> rfl

/-- A lenient reading notes that a parameter is not closed exactly when one is not. -/
theorem scanFrom_unterminated_iff {rest : Text} {position : Nat} {state : ScanState} {scan : Scan}
    (read : scanFrom false rest position state = .ok scan) :
    scan.unterminated.isSome = true ↔ state.Leaves rest := by
  induction rest generalizing position state scan with
  | nil =>
    cases state with
    | literal start run =>
      obtain rfl := Except.ok.inj read
      rw [Scan.unterminated_afterLiteral]
      exact iff_of_false Bool.false_ne_true fun left =>
        left.elim (fun inside => nomatch inside.1) not_unclosed_nil
    | parameter start run nested =>
      obtain rfl := Except.ok.inj read
      exact iff_of_true rfl (.inl ⟨rfl, List.not_mem_nil⟩)
  | cons char rest ih =>
    cases state with
    | literal start run =>
      by_cases opens : char = '('
      · subst opens
        rw [scanFrom_open] at read
        obtain ⟨inner, found, rfl⟩ := map_eq_ok.mp read
        rw [Scan.unterminated_afterLiteral]
        refine (ih found).trans ?_
        simp [ScanState.Leaves, ScanState.isParameter, unclosed_cons]
      · rw [scanFrom_literal opens (absurd · Bool.false_ne_true)] at read
        refine (ih read).trans ?_
        simp [ScanState.Leaves, ScanState.isParameter, unclosed_cons, opens]
    | parameter start run nested =>
      by_cases closes : char = ')'
      · subst closes
        rw [scanFrom_close (absurd · Bool.false_ne_true)] at read
        obtain ⟨inner, found, rfl⟩ := map_eq_ok.mp read
        refine (ih found).trans ?_
        simp [ScanState.Leaves, ScanState.isParameter, unclosed_cons]
      · rw [scanFrom_parameter closes] at read
        refine (ih read).trans ?_
        simp only [ScanState.Leaves, ScanState.isParameter, unclosed_cons, List.mem_cons,
          Ne.symm closes, false_or, true_and]
        tauto

/-- A lenient reading of a template warns exactly when an opening parenthesis is not closed. -/
theorem scan_unterminated_iff {template : Text} {lenient : Scan}
    (read : scan false template = .ok lenient) :
    lenient.unterminated.isSome = true ↔ Unclosed template := by
  rw [scanFrom_unterminated_iff read]
  exact or_iff_right fun inside => nomatch inside.1

/-! ### Compiling -/

/-- Under the settings a template gets past the reading of its parentheses. -/
def Settings.Reads (settings : Settings) (template : Text) : Prop :=
  ∃ read, scan settings.strict.isTruthy template = .ok read

/-- A reading that succeeds is the lenient one, whether or not it is strict. -/
theorem Settings.Reads.scan_eq {settings : Settings} {template : Text} {lenient : Scan}
    (reads : settings.Reads template) (read : scan false template = .ok lenient) :
    scan settings.strict.isTruthy template = .ok lenient := by
  obtain ⟨found, same⟩ := reads
  cases strict : settings.strict.isTruthy with
  | false => exact read
  | true =>
    rw [strict] at same
    rw [same, (scan_strict_eq read same).1]

/-- A template whose parentheses are refused is refused for them. -/
theorem Settings.compile_of_refused {settings : Settings} {template : Text} {fault : ScanFault}
    (refused : scan settings.strict.isTruthy template = .error fault) :
    settings.compile template = .error (.template template (.unbalanced fault)) := by
  have no_fault : settings.markerFault? template = none := by
    rw [markerFault?, refused]
    cases settings.marker <;> rfl
  rw [compile, no_fault]
  dsimp only [dialect, Stencil.compile]
  rw [refused]
  rfl

/-- A template is compiled in the same way under settings that read it alike and agree on how
keywords end and constructing operations begin. -/
theorem Settings.compile_congr {settings other : Settings} {template : Text}
    (marker : settings.marker = other.marker)
    (construction : settings.construction = other.construction)
    (alike : scan settings.strict.isTruthy template = scan other.strict.isTruthy template) :
    settings.compile template = other.compile template := by
  have same_fault : settings.markerFault? template = other.markerFault? template := by
    rw [markerFault?, markerFault?, marker, alike]
  rw [compile, compile, same_fault, marker, construction]
  dsimp only [dialect, Stencil.compile]
  rw [alike]
  rfl

/-- Parameters have a direction, or are keywords and key paths mixed. -/
theorem classify_cases (marker : Text) (tokens : List Text) :
    (∃ direction, classify marker tokens = .ok direction) ∨
      ∃ keywords keyPaths, classify marker tokens = .error (.mixed keywords keyPaths) := by
  rw [classify]
  split
  · exact .inr ⟨_, _, rfl⟩
  · exact .inl ⟨_, rfl⟩
  · exact .inl ⟨_, rfl⟩

/-- A template that gets past the reading of its parentheses is a pattern, or mixes keywords and key
paths. -/
theorem Settings.compile_of_reads {settings : Settings} {template marker : Text}
    (named : settings.marker = .text marker) (reads : settings.Reads template) :
    (∃ pattern, settings.compile template = .ok pattern) ∨
      ∃ keywords keyPaths,
        settings.compile template = .error (.template template (.mixed keywords keyPaths)) := by
  obtain ⟨read, found⟩ := reads
  have no_fault : settings.markerFault? template = none := by
    rw [markerFault?, named]
  rw [compile, no_fault]
  dsimp only [dialect, Stencil.compile]
  rw [found, named]
  dsimp only [Value.text?, Option.getD_some, Pattern.ofSegments]
  rcases classify_cases marker (parameterTokens (read.tokens.filterMap Segment.ofToken?)) with
    ⟨direction, classified⟩ | ⟨keywords, keyPaths, classified⟩
  · rw [classified]
    exact .inl ⟨_, rfl⟩
  · rw [classified]
    exact .inr ⟨keywords, keyPaths, rfl⟩

/-- Strict reading is lenient reading without recovery. A template is read strictly exactly when its
lenient reading recovers from nothing, which is when its parentheses are paired, and both readings
are then the same; so settings that differ in strictness only compile it in the same way if both
get past its parentheses. A strict reading fails exactly on a construct with an accepted text before
it, and the template is then refused. A lenient reading always succeeds, with one warning if a
parameter is not closed and with none otherwise. -/
theorem scan_strict_refines_lenient (template : Text) :
    ∃ lenient, scan false template = .ok lenient ∧
      ((∃ strict, scan true template = .ok strict) ↔ lenient.Unrecovered) ∧
      (lenient.Unrecovered ↔ Paired template) ∧
      (∀ strict, scan true template = .ok strict → strict = lenient) ∧
      (∀ fault, scan true template = .error fault ↔
        ∃ before tail, template = before ++ tail ∧ (∃ accepted, scan true before = .ok accepted) ∧
          fault.Begins before.length tail) ∧
      (∀ (settings : Settings) (fault : ScanFault), settings.strict.isTruthy = true →
        scan true template = .error fault →
          ∃ failure, settings.compile template = .error failure ∧ failure.kind = "CompileError" ∧
            failure = .template template (.unbalanced fault)) ∧
      (lenient.unterminated.isSome = true ↔ Unclosed template) ∧
      (∀ settings : Settings, settings.strict.isTruthy = false →
        settings.warnings template =
          (lenient.unterminated.map (unterminatedWarning template)).toList) ∧
      ∀ settings other : Settings, settings.marker = other.marker →
        settings.construction = other.construction → settings.Reads template →
          other.Reads template → settings.compile template = other.compile template ∧
            ∀ marker, settings.marker = .text marker →
              (∃ pattern, settings.compile template = .ok pattern) ∨
                ∃ keywords keyPaths, settings.compile template =
                  .error (.template template (.mixed keywords keyPaths)) := by
  obtain ⟨lenient, read⟩ := scanFrom_lenient template 0 (.literal 0 [])
  have accepted := scan_strict_iff_unrecovered read
  refine ⟨lenient, read, accepted, ?paired, ?kept, ?located, ?refused, scan_unterminated_iff read,
    ?warnings, ?compiled⟩
  case paired => exact accepted.symm.trans (scan_strict_iff_paired template)
  case kept => exact fun strict found => (scan_strict_eq read found).1
  case located =>
    intro fault
    simp only [scan_strict_eq_error_iff, scan_strict_iff_paired]
  case refused =>
    intro settings fault strict refused
    exact ⟨_, Settings.compile_of_refused (strict ▸ refused), rfl, rfl⟩
  case warnings => exact fun settings lenient => Settings.warnings_of_scan lenient read
  case compiled =>
    intro settings other marker construction reads reads'
    have alike := (reads.scan_eq read).trans (reads'.scan_eq read).symm
    exact ⟨Settings.compile_congr marker construction alike, fun _ named =>
      Settings.compile_of_reads named reads⟩

/-- A strict reading refuses a template for a parenthesis inside its second parameter, having
accepted what stands before the parameter; without that parenthesis the template is compiled in the
same way under strict settings and lenient ones. -/
theorem scan_strict_nested_refused :
    scan true "(a)-(b(c)" = .error (.nestedOpen 6) ∧
      (∃ accepted, scan true "(a)-" = .ok accepted) ∧
      (∃ failure, Settings.compile { Settings.initial with strict := .flag true } "(a)-(b(c)" =
          .error failure ∧ failure.kind = "CompileError" ∧
            failure = .template "(a)-(b(c)" (.unbalanced (.nestedOpen 6))) ∧
      Settings.initial.Reads "(a)-(b)" ∧
      Settings.Reads { Settings.initial with strict := .flag true } "(a)-(b)" ∧
      Settings.initial.compile "(a)-(b)" =
        Settings.compile { Settings.initial with strict := .flag true } "(a)-(b)" := by
  obtain ⟨-, -, -, -, -, -, refused, -⟩ := scan_strict_refines_lenient "(a)-(b(c)"
  obtain ⟨-, -, -, -, -, -, -, -, -, compiled⟩ := scan_strict_refines_lenient "(a)-(b)"
  have reads : Settings.initial.Reads "(a)-(b)" := ⟨_, rfl⟩
  have reads_strictly : Settings.Reads { Settings.initial with strict := .flag true } "(a)-(b)" :=
    ⟨_, rfl⟩
  exact ⟨rfl, ⟨_, rfl⟩, refused _ _ rfl rfl, reads, reads_strictly,
    (compiled _ _ rfl rfl reads reads_strictly).1⟩

end Stencil
