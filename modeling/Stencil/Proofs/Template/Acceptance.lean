import Stencil.Proofs.Template.Inverse
import Stencil.Proofs.Template.Paired

/-!
# What a strict reading accepts

A strict reading succeeds exactly when the parentheses of the template are paired
(`scan_strict_iff_paired`). It is then a lenient reading that recovers from nothing
(`Scan.Unrecovered`), and every lenient reading of that kind is a strict one.
-/
namespace Stencil

/-! ### When a strict reading succeeds -/

/-- What is left of a template suits a strict reader: it is paired outside all parameters, and
inside one that has met no opening parenthesis it closes the pair. -/
def ScanState.Admits (rest : Text) : ScanState → Prop
  | .literal _ _ => Paired rest
  | .parameter _ _ nested => nested = none ∧ PairedInside rest

/-- A strict reading succeeds exactly on what suits it. -/
theorem scanFrom_strict_iff (rest : Text) (position : Nat) (state : ScanState) :
    (∃ scan, scanFrom true rest position state = .ok scan) ↔ state.Admits rest := by
  induction rest generalizing position state with
  | nil =>
    cases state with
    | literal start run => exact iff_of_true ⟨_, rfl⟩ paired_nil
    | parameter start run nested =>
      exact iff_of_false (fun ⟨_, read⟩ => nomatch read) fun ⟨_, inside⟩ =>
        not_pairedInside_nil inside
  | cons char rest ih =>
    cases state with
    | literal start run =>
      by_cases opens : char = '('
      · subst opens
        rw [scanFrom_open, exists_map_eq_ok, ih]
        exact ⟨fun ⟨_, inside⟩ => paired_open.mpr inside, fun pair => ⟨rfl, paired_open.mp pair⟩⟩
      by_cases closes : char = ')'
      · subst closes
        exact iff_of_false (fun ⟨_, read⟩ => nomatch read) not_paired_close
      · rw [scanFrom_literal opens fun _ => closes, ih]
        exact (paired_plain opens closes).symm
    | parameter start run nested =>
      by_cases closes : char = ')'
      · subst closes
        cases nested with
        | some inner => exact iff_of_false (fun ⟨_, read⟩ => nomatch read) fun ⟨other, _⟩ =>
            nomatch other
        | none =>
          rw [scanFrom_close fun _ => rfl, exists_map_eq_ok, ih]
          exact ⟨fun pair => ⟨rfl, pairedInside_close.mpr pair⟩,
            fun ⟨_, inside⟩ => pairedInside_close.mp inside⟩
      rw [scanFrom_parameter closes, ih]
      by_cases opens : char = '('
      · subst opens
        refine iff_of_false (fun ⟨unmet, _⟩ => ?_) fun ⟨_, inside⟩ => not_pairedInside_open inside
        cases nested <;> contradiction
      · rw [if_neg opens]
        exact and_congr_right fun _ => (pairedInside_plain opens closes).symm

/-! ### What a strict reading gives -/

/-- A reading has recovered from nothing: every parameter is closed, no closing parenthesis is
literal text and no opening one stands in a parameter. -/
structure Scan.Unrecovered (scan : Scan) : Prop where
  /-- No parameter is without its closing parenthesis. -/
  closed : scan.unterminated = none
  /-- No token holds a parenthesis that a strict reading refuses. -/
  balanced : ∀ token ∈ scan.tokens, token.Balanced

/-- A strict reader has met no parenthesis in the token that it stands in, unless it has noted the
opening one. -/
def ScanState.Plain : ScanState → Prop
  | .literal _ run => ')' ∉ run
  | .parameter _ run nested => nested = none → '(' ∉ run

/-- A parameter begins with nothing met. -/
theorem ScanState.plain_opened {start : Nat} : (ScanState.parameter start [] none).Plain :=
  fun _ => List.not_mem_nil

/-- A literal run begins with nothing met. -/
theorem ScanState.plain_started {start : Nat} : (ScanState.literal start []).Plain :=
  List.not_mem_nil

/-- The end of a template recovers from nothing. -/
theorem Scan.unrecovered_finish (position : Nat) :
    Scan.Unrecovered ⟨[⟨.finish, [], position⟩], none⟩ :=
  ⟨rfl, fun token member => by
    obtain rfl := List.mem_singleton.mp member
    trivial⟩

/-- A balanced token in front recovers from nothing more. -/
theorem Scan.Unrecovered.after {scan : Scan} {token : Token} (balanced : token.Balanced)
    (unrecovered : scan.Unrecovered) : (scan.after token).Unrecovered :=
  ⟨unrecovered.closed, List.forall_mem_cons.mpr ⟨balanced, unrecovered.balanced⟩⟩

/-- A literal run without a closing parenthesis in front recovers from nothing more. -/
theorem Scan.Unrecovered.afterLiteral {scan : Scan} {start : Nat} {run : Text}
    (no_close : ')' ∉ run) (unrecovered : scan.Unrecovered) :
    (scan.afterLiteral start run).Unrecovered := by
  cases run with
  | nil => exact unrecovered
  | cons char run =>
    have balanced : Token.Balanced ⟨.literal, (char :: run).reverse, start⟩ :=
      fun member => no_close (List.mem_reverse.mp member)
    exact unrecovered.after balanced

/-- A strict reading that succeeds is a lenient one that recovers from nothing. -/
theorem scanFrom_lenient_of_strict {rest : Text} {position : Nat} {state : ScanState} {scan : Scan}
    (plain : state.Plain) (read : scanFrom true rest position state = .ok scan) :
    scanFrom false rest position state = .ok scan ∧ scan.Unrecovered := by
  induction rest generalizing position state scan with
  | nil =>
    cases state with
    | parameter start run nested => contradiction
    | literal start run =>
      obtain rfl := Except.ok.inj read
      exact ⟨rfl, (Scan.unrecovered_finish position).afterLiteral plain⟩
  | cons char rest ih =>
    cases state with
    | literal start run =>
      by_cases opens : char = '('
      · subst opens
        rw [scanFrom_open] at read ⊢
        obtain ⟨inner, found, rfl⟩ := map_eq_ok.mp read
        obtain ⟨same, unrecovered⟩ := ih ScanState.plain_opened found
        exact ⟨by rw [same]; rfl, unrecovered.afterLiteral plain⟩
      · have allowed := allowed_of_scanFrom_literal opens read
        rw [scanFrom_literal opens allowed] at read
        rw [scanFrom_literal opens (absurd · Bool.false_ne_true)]
        exact ih (List.not_mem_cons_of_ne_of_not_mem (allowed rfl).symm plain) read
    | parameter start run nested =>
      by_cases closes : char = ')'
      · subst closes
        have allowed := allowed_of_scanFrom_close read
        rw [scanFrom_close allowed] at read
        rw [scanFrom_close (absurd · Bool.false_ne_true)]
        obtain ⟨inner, found, rfl⟩ := map_eq_ok.mp read
        obtain ⟨same, unrecovered⟩ := ih ScanState.plain_started found
        refine ⟨by rw [same]; rfl, unrecovered.after fun member => ?_⟩
        exact plain (allowed rfl) (List.mem_reverse.mp member)
      · rw [scanFrom_parameter closes] at read ⊢
        refine ih (fun unmet => ?_) read
        by_cases opens : char = '('
        · rw [if_pos opens] at unmet
          cases nested <;> contradiction
        · rw [if_neg opens] at unmet
          exact List.not_mem_cons_of_ne_of_not_mem (Ne.symm opens) (plain unmet)

/-- A strict reading succeeds exactly when the parentheses of the template are paired. -/
theorem scan_strict_iff_paired (template : Text) :
    (∃ strict, scan true template = .ok strict) ↔ Paired template :=
  scanFrom_strict_iff template 0 (.literal 0 [])

/-- A lenient reading that recovers from nothing is a strict one. -/
theorem scan_strict_of_unrecovered {template : Text} {lenient : Scan}
    (read : scan false template = .ok lenient) (unrecovered : lenient.Unrecovered) :
    scan true template = .ok lenient := by
  obtain ⟨tokens, unterminated, rfl, reads⟩ := scanFrom_reads ScanState.sound_started read
  obtain rfl : unterminated = none := unrecovered.closed
  have spelled : written tokens = template := by
    rw [reads.spelled]
    exact List.append_nil template
  have again := scanFrom_written true reads.laid fun _ token member =>
    unrecovered.balanced token (List.mem_append_left _ member)
  rwa [spelled] at again

/-- A strict reading that succeeds is the lenient one. -/
theorem scan_strict_eq {template : Text} {lenient strict : Scan}
    (read : scan false template = .ok lenient) (found : scan true template = .ok strict) :
    strict = lenient ∧ lenient.Unrecovered := by
  obtain ⟨again, unrecovered⟩ := scanFrom_lenient_of_strict ScanState.plain_started found
  obtain rfl := Except.ok.inj (again.symm.trans read)
  exact ⟨rfl, unrecovered⟩

/-- A strict reading succeeds exactly when the lenient one recovers from nothing. -/
theorem scan_strict_iff_unrecovered {template : Text} {lenient : Scan}
    (read : scan false template = .ok lenient) :
    (∃ strict, scan true template = .ok strict) ↔ lenient.Unrecovered := by
  constructor
  · rintro ⟨strict, found⟩
    exact (scan_strict_eq read found).2
  · exact fun unrecovered => ⟨lenient, scan_strict_of_unrecovered read unrecovered⟩

end Stencil
