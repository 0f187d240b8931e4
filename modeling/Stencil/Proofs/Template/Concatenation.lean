import Stencil.Rendering
import Stencil.Proofs.Template.Strict

/-!
# Templates one behind another

Behind a template of which every parameter is closed, another one is read as it is by itself, but
that a literal run goes on where one template ends and the other begins with one. What is read of
both together is therefore what is read of each, joined at the seam (`joinTokens`,
`joinSegments`): the joined tokens are well laid and write both templates, and no other well laid
tokens do (`LaidFrom.eq_of_written`). `compile_append` carries this through the classification of
the parameters and through rendering.
-/
namespace Stencil

/-! ### Joining -/

/-- A token behind a text of a length. -/
def Token.behind (length : Nat) (token : Token) : Token :=
  { token with position := length + token.position }

/-- Tokens one after another; two literal runs that meet are one. -/
def joinTokens : List Token → List Token → List Token
  | [], others => others
  | [⟨.literal, text, position⟩], ⟨.literal, more, _⟩ :: rest =>
    ⟨.literal, text ++ more, position⟩ :: rest
  | token :: rest, others => token :: joinTokens rest others

/-- Segments one after another; two literals that meet are one. -/
def joinSegments : List Segment → List Segment → List Segment
  | [], others => others
  | [.literal text], .literal more :: rest => .literal (text ++ more) :: rest
  | segment :: rest, others => segment :: joinSegments rest others

/-- The segments of what is read of a template. -/
def Scan.segments (scan : Scan) : List Segment := scan.tokens.filterMap Segment.ofToken?

/-- The parameters of joined segments are those of the one and then those of the other. -/
theorem parameterTokens_joinSegments (segments others : List Segment) :
    parameterTokens (joinSegments segments others) =
      parameterTokens segments ++ parameterTokens others := by
  fun_induction joinSegments segments others with
  | case1 others => rfl
  | case2 text more rest => rfl
  | case3 segment rest others apart ih =>
    cases segment with
    | literal text => exact ih
    | parameter token => exact congrArg (token :: ·) ih

/-- Tokens that are joined write what both write. -/
theorem written_joinTokens (tokens others : List Token) :
    written (joinTokens tokens others) = written tokens ++ written others := by
  fun_induction joinTokens tokens others with
  | case1 others => rfl
  | case2 text position more begun rest => simp [Token.written]
  | case3 token rest others apart ih => rw [written_cons, written_cons, ih, List.append_assoc]

/-- Joined tokens begin as the first ones do. -/
theorem kind_of_head?_joinTokens {first token : Token} {rest others : List Token}
    (head : token ∈ (joinTokens (first :: rest) others).head?) : token.kind = first.kind := by
  rw [joinTokens.eq_def] at head
  split at head
  · contradiction
  · next same =>
    obtain rfl := Option.some.inj head
    rw [(List.cons.inj same).1]
  · next same _ =>
    obtain rfl := Option.some.inj head
    rw [(List.cons.inj same).1]

/-- Tokens that are well laid from where others end are well laid when joined to them. -/
theorem LaidFrom.joinTokens {position : Nat} {tokens others : List Token}
    (laid : LaidFrom position tokens)
    (behind : LaidFrom (position + (written tokens).length) others) :
    LaidFrom position (joinTokens tokens others) := by
  fun_induction Stencil.joinTokens tokens others generalizing position with
  | case1 others => exact behind
  | case2 text begun more _ rest =>
    obtain ⟨⟨filled, no_open⟩, placed, -, -⟩ := laid
    obtain ⟨⟨filled', no_open'⟩, -, apart, further⟩ := behind
    have width : position + (text ++ more).length =
        position + (written [⟨.literal, text, begun⟩]).length + more.length := by
      simp [Token.written, Nat.add_assoc]
    refine ⟨⟨by simp [filled], ?_⟩, placed, apart, ?_⟩
    · show '(' ∉ text ++ more
      rw [List.mem_append]
      exact not_or.mpr ⟨no_open, no_open'⟩
    · show LaidFrom (position + (text ++ more).length) rest
      rw [width]
      exact further
  | case3 token rest others unmet ih =>
    obtain ⟨admitted, placed, apart, further⟩ := laid
    rw [written_cons, List.length_append, ← Nat.add_assoc] at behind
    refine ⟨admitted, placed, ?_, ih further behind⟩
    intro next head
    cases rest with
    | cons second rest =>
      intro both
      rw [kind_of_head?_joinTokens head] at both
      exact apart second rfl both
    | nil =>
      -- Here the seam lies right behind the token, and no two literal runs meet at it.
      rintro ⟨literal, literal'⟩
      cases others with
      | nil => contradiction
      | cons other others =>
        obtain rfl := Option.some.inj head
        obtain ⟨kind, text, begun⟩ := token
        obtain ⟨kind', more, begun'⟩ := other
        obtain rfl : kind = .literal := literal
        obtain rfl : kind' = .literal := literal'
        exact unmet text begun more begun' others rfl rfl rfl

/-- Well laid tokens are well laid further on. -/
theorem LaidFrom.behind (length : Nat) {position : Nat} {tokens : List Token}
    (laid : LaidFrom position tokens) :
    LaidFrom (length + position) (tokens.map (Token.behind length)) := by
  induction tokens generalizing position with
  | nil => trivial
  | cons token rest ih =>
    obtain ⟨admitted, placed, apart, further⟩ := laid
    have moved := ih further
    rw [← Nat.add_assoc] at moved
    refine ⟨admitted, congrArg (length + ·) placed, ?_, moved⟩
    intro next head
    rw [List.head?_map] at head
    obtain ⟨before, first, rfl⟩ := Option.map_eq_some_iff.mp head
    exact apart before first

/-- Tokens write the same further on. -/
theorem written_behind (length : Nat) (tokens : List Token) :
    written (tokens.map (Token.behind length)) = written tokens := by
  rw [written, List.flatMap_map]
  rfl

/-- Tokens stand for the same segments further on. -/
theorem ofToken?_behind (length : Nat) (tokens : List Token) :
    (tokens.map (Token.behind length)).filterMap Segment.ofToken? =
      tokens.filterMap Segment.ofToken? := by
  rw [List.filterMap_map]
  rfl

/-- Well laid tokens are determined by what they write. -/
theorem LaidFrom.eq_of_written {tokens others : List Token} (laid : LaidFrom 0 tokens)
    (laid' : LaidFrom 0 others) (same : written tokens = written others) : tokens = others := by
  have read := scanFrom_written false laid fun strict => absurd strict Bool.false_ne_true
  have read' := scanFrom_written false laid' fun strict => absurd strict Bool.false_ne_true
  rw [same] at read
  have ended : Scan.ended tokens (0 + (written others).length) none =
      .ended others (0 + (written others).length) none := Except.ok.inj (read.symm.trans read')
  exact List.append_cancel_right (congrArg Scan.tokens ended)

/-! ### Reading -/

/-- Behind a template of which every parameter is closed, only the other template can leave one
unclosed. -/
theorem unclosed_append {first last : Text} (closed : ¬ Unclosed first) :
    Unclosed (first ++ last) ↔ Unclosed last := by
  induction first with
  | nil => exact Iff.rfl
  | cons char rest ih =>
    rw [unclosed_cons, not_or] at closed
    obtain ⟨here, further⟩ := closed
    rw [List.cons_append, unclosed_cons, ih further]
    apply or_iff_right
    rintro ⟨opens, unclosed⟩
    apply here
    exact ⟨opens, fun member => unclosed (List.mem_append_left last member)⟩

/-- What a lenient reading gives is well laid and writes the template, with a closing parenthesis
more exactly if the template leaves a parameter unclosed. -/
theorem scan_lenient_reads {template : Text} {lenient : Scan}
    (read : scan false template = .ok lenient) :
    ∃ tokens, lenient.segments = tokens.filterMap Segment.ofToken? ∧ LaidFrom 0 tokens ∧
      written tokens = template ++ lacking lenient.unterminated := by
  obtain ⟨tokens, unterminated, rfl, reads⟩ := scanFrom_reads ScanState.sound_started read
  refine ⟨tokens, ?_, reads.laid, reads.spelled⟩
  rw [Scan.segments, Scan.ended, List.filterMap_append]
  exact List.append_nil _

/-- Well laid tokens stand for segments that are joined as the tokens are. -/
theorem ofToken?_joinTokens {position begun : Nat} {tokens others : List Token}
    (laid : LaidFrom position tokens) (laid' : LaidFrom begun others) :
    (joinTokens tokens others).filterMap Segment.ofToken? =
      joinSegments (tokens.filterMap Segment.ofToken?) (others.filterMap Segment.ofToken?) := by
  fun_induction joinTokens tokens others generalizing position begun with
  | case1 others => rfl
  | case2 text place more place' rest => rfl
  | case3 token rest others unmet ih =>
    obtain ⟨admitted, -, -, further⟩ := laid
    obtain ⟨kind, text, place⟩ := token
    have behind := ih further laid'
    cases kind with
    | finish => exact absurd admitted id
    | parameter => exact congrArg (Segment.parameter text :: ·) behind
    | literal =>
      show Segment.literal text :: (joinTokens rest others).filterMap Segment.ofToken? =
        joinSegments (.literal text :: rest.filterMap Segment.ofToken?)
          (others.filterMap Segment.ofToken?)
      rw [behind]
      cases rest with
      | cons second rest =>
        obtain ⟨kind', text', place'⟩ := second
        cases kind' with
        | finish => exact absurd further.1 id
        | literal => rfl
        | parameter => rfl
      | nil =>
        cases others with
        | nil => rfl
        | cons other others =>
          obtain ⟨kind', more, place'⟩ := other
          cases kind' with
          | finish => exact absurd laid'.1 id
          | literal => exact absurd rfl (unmet text place more place' others rfl rfl)
          | parameter => rfl

/-- A lenient reading of two templates one behind the other gives the segments of both, joined, if
every parameter of the first one is closed. -/
theorem scan_lenient_append {first last : Text} {front back whole : Scan}
    (closed : ¬ Unclosed first) (read : scan false first = .ok front)
    (read' : scan false last = .ok back) (read_whole : scan false (first ++ last) = .ok whole) :
    whole.segments = joinSegments front.segments back.segments := by
  obtain ⟨tokens, segments, laid, spelled⟩ := scan_lenient_reads read
  obtain ⟨others, segments', laid', spelled'⟩ := scan_lenient_reads read'
  obtain ⟨all, segments_whole, laid_whole, spelled_whole⟩ := scan_lenient_reads read_whole
  have ended : front.unterminated = none := by
    rw [← Option.not_isSome_iff_eq_none, scan_unterminated_iff read]
    exact closed
  have left_alike : lacking whole.unterminated = lacking back.unterminated := by
    have alike : whole.unterminated.isSome = back.unterminated.isSome := by
      rw [Bool.eq_iff_iff, scan_unterminated_iff read_whole, scan_unterminated_iff read']
      exact unclosed_append closed
    rw [lacking, lacking, alike]
  have spelled_first : written tokens = first := by
    rw [spelled, ended]
    exact List.append_nil first
  -- The joined tokens are well laid and write what the tokens of the whole template write.
  have placed : LaidFrom (0 + (written tokens).length)
      (others.map (Token.behind (written tokens).length)) := by
    rw [Nat.zero_add]
    exact laid'.behind (written tokens).length
  have joined : LaidFrom 0 (joinTokens tokens (others.map (Token.behind (written tokens).length))) :=
    laid.joinTokens placed
  have same : written all =
      written (joinTokens tokens (others.map (Token.behind (written tokens).length))) := by
    rw [written_joinTokens, written_behind, spelled_whole, spelled_first, spelled', left_alike,
      List.append_assoc]
  rw [segments_whole, laid_whole.eq_of_written joined same, ofToken?_joinTokens laid placed,
    ofToken?_behind, segments, segments']

/-- A template that gets past the reading of its parentheses under settings does so behind another
one of that kind. -/
theorem Settings.Reads.append {settings : Settings} {first last : Text}
    (reads : settings.Reads first) (reads' : settings.Reads last) :
    settings.Reads (first ++ last) := by
  rw [Settings.Reads] at reads reads' ⊢
  cases strict : settings.strict.isTruthy with
  | false => exact scanFrom_lenient (first ++ last) 0 (.literal 0 [])
  | true =>
    rw [strict, scan_strict_iff_paired] at reads reads'
    rw [scan_strict_iff_paired]
    exact reads.append reads'

/-- Under settings, two templates one behind the other are read as the segments of both, joined, if
both get past the reading of their parentheses and every parameter of the first one is closed. -/
theorem Settings.Reads.exists_scan {settings : Settings} {first last : Text}
    (reads : settings.Reads first) (reads' : settings.Reads last) (closed : ¬ Unclosed first) :
    ∃ front back whole : Scan, scan settings.strict.isTruthy first = .ok front ∧
      scan settings.strict.isTruthy last = .ok back ∧
      scan settings.strict.isTruthy (first ++ last) = .ok whole ∧
      whole.segments = joinSegments front.segments back.segments := by
  obtain ⟨front, read⟩ := scanFrom_lenient first 0 (.literal 0 [])
  obtain ⟨back, read'⟩ := scanFrom_lenient last 0 (.literal 0 [])
  obtain ⟨whole, read_whole⟩ := scanFrom_lenient (first ++ last) 0 (.literal 0 [])
  exact ⟨front, back, whole, reads.scan_eq read, reads'.scan_eq read',
    (reads.append reads').scan_eq read_whole,
    scan_lenient_append closed read read' read_whole⟩

/-! ### Classification -/

/-- The parameters that are keywords, in order. -/
def keywordTokens (marker : Text) (tokens : List Text) : List Text :=
  tokens.filter fun token => token.endsWith marker

/-- The parameters that are key paths, in order. -/
def keyPathTokens (marker : Text) (tokens : List Text) : List Text :=
  tokens.filter fun token => !token.endsWith marker

/-- Some parameters are keywords and others key paths. -/
def Mixed (marker : Text) (tokens : List Text) : Prop :=
  keywordTokens marker tokens ≠ [] ∧ keyPathTokens marker tokens ≠ []

section Classification

variable {marker : Text} {tokens others : List Text}

/-- The keywords among parameters are those of the first ones and those of the others. -/
theorem keywordTokens_append : keywordTokens marker (tokens ++ others) =
    keywordTokens marker tokens ++ keywordTokens marker others := List.filter_append ..

/-- The key paths among parameters are those of the first ones and those of the others. -/
theorem keyPathTokens_append : keyPathTokens marker (tokens ++ others) =
    keyPathTokens marker tokens ++ keyPathTokens marker others := List.filter_append ..

/-- Parameters among which some of the first ones are mixed are mixed. -/
theorem not_mixed_of_append (pure : ¬ Mixed marker (tokens ++ others)) :
    ¬ Mixed marker tokens ∧ ¬ Mixed marker others := by
  constructor
  · rintro ⟨keywords, keyPaths⟩
    apply pure
    rw [Mixed, keywordTokens_append, keyPathTokens_append]
    exact ⟨List.append_ne_nil_of_left_ne_nil keywords _,
      List.append_ne_nil_of_left_ne_nil keyPaths _⟩
  · rintro ⟨keywords, keyPaths⟩
    apply pure
    rw [Mixed, keywordTokens_append, keyPathTokens_append]
    exact ⟨List.append_ne_nil_of_right_ne_nil _ keywords,
      List.append_ne_nil_of_right_ne_nil _ keyPaths⟩

/-- Parameters are classified by whether there are keywords and key paths among them. -/
theorem classify_eq (marker : Text) (tokens : List Text) :
    classify marker tokens =
      if keywordTokens marker tokens = [] then .ok .inbound
      else if keyPathTokens marker tokens = [] then .ok .outbound
      else .error (.mixed (keywordTokens marker tokens) (keyPathTokens marker tokens)) := by
  rw [keywordTokens, keyPathTokens]
  unfold classify
  dsimp only
  cases tokens.filter fun token => token.endsWith marker with
  | nil => rfl
  | cons keyword keywords =>
    cases tokens.filter fun token => !token.endsWith marker <;> rfl

/-- Parameters are refused exactly if they are mixed, with all keywords and all key paths. -/
theorem classify_eq_error {fault : CompileFault} :
    classify marker tokens = .error fault ↔ Mixed marker tokens ∧
      fault = .mixed (keywordTokens marker tokens) (keyPathTokens marker tokens) := by
  rw [classify_eq, Mixed]
  by_cases keywords : keywordTokens marker tokens = []
  · simp [keywords]
  by_cases keyPaths : keyPathTokens marker tokens = []
  · simp [keywords, keyPaths]
  · simp [keywords, keyPaths, eq_comm]

/-- Parameters that are not mixed are inbound if there is no keyword among them, and outbound if
there is one. -/
theorem classify_of_not_mixed (pure : ¬ Mixed marker tokens) :
    classify marker tokens =
      .ok (if keywordTokens marker tokens = [] then .inbound else .outbound) := by
  rw [classify_eq]
  by_cases keywords : keywordTokens marker tokens = []
  · simp [keywords]
  · have no_keyPath : keyPathTokens marker tokens = [] := by
      by_contra keyPaths
      exact pure ⟨keywords, keyPaths⟩
    simp [keywords, no_keyPath]

/-- Parameters among which there are neither keywords nor key paths are none. -/
theorem eq_nil_of_no_tokens (no_keyword : keywordTokens marker tokens = [])
    (no_keyPath : keyPathTokens marker tokens = []) : tokens = [] := by
  rw [keywordTokens, List.filter_eq_nil_iff] at no_keyword
  rw [keyPathTokens, List.filter_eq_nil_iff] at no_keyPath
  apply List.eq_nil_iff_forall_not_mem.mpr
  intro token member
  have plain := no_keyword token member
  have marked := no_keyPath token member
  simp_all

end Classification

/-! ### Compiling -/

section Compiling

variable {settings : Settings} {marker template : Text} {read : Scan} {pattern : Pattern}

/-- A template is compiled by classifying its parameters once its parentheses are read. -/
theorem Settings.compile_of_scan (named : settings.marker = .text marker)
    (found : scan settings.strict.isTruthy template = .ok read) :
    settings.compile template =
      ((classify marker (parameterTokens read.segments)).map fun direction =>
        ⟨template, read.segments, direction, marker,
          settings.construction.text?.getD []⟩).mapError (.template template) := by
  have no_fault : settings.markerFault? template = none := by
    rw [markerFault?, named]
  rw [compile, no_fault]
  dsimp only [dialect, Stencil.compile]
  rw [found, named]
  rfl

/-- A template that is read is refused exactly if its parameters are mixed. -/
theorem Settings.compile_eq_error (named : settings.marker = .text marker)
    (found : scan settings.strict.isTruthy template = .ok read) {failure : Failure} :
    settings.compile template = .error failure ↔
      Mixed marker (parameterTokens read.segments) ∧
        failure = .template template
          (.mixed (keywordTokens marker (parameterTokens read.segments))
            (keyPathTokens marker (parameterTokens read.segments))) := by
  rw [Settings.compile_of_scan named found]
  constructor
  · intro refused
    cases classified : classify marker (parameterTokens read.segments) with
    | ok direction =>
      rw [classified] at refused
      contradiction
    | error fault =>
      obtain ⟨mixed, rfl⟩ := classify_eq_error.mp classified
      rw [classified] at refused
      exact ⟨mixed, (Except.error.inj refused).symm⟩
  · rintro ⟨mixed, rfl⟩
    rw [classify_eq_error.mpr ⟨mixed, rfl⟩]
    rfl

/-- What a template is compiled to that is read and whose parameters are not mixed. -/
def compiledPattern (settings : Settings) (marker template : Text) (read : Scan) : Pattern where
  template := template
  segments := read.segments
  direction :=
    if keywordTokens marker (parameterTokens read.segments) = [] then .inbound else .outbound
  marker := marker
  construction := settings.construction.text?.getD []

/-- A template that is read is compiled exactly if its parameters are not mixed. -/
theorem Settings.compile_eq_ok (named : settings.marker = .text marker)
    (found : scan settings.strict.isTruthy template = .ok read) :
    settings.compile template = .ok pattern ↔
      ¬ Mixed marker (parameterTokens read.segments) ∧
        pattern = compiledPattern settings marker template read := by
  by_cases mixed : Mixed marker (parameterTokens read.segments)
  · have refused := (Settings.compile_eq_error named found).mpr ⟨mixed, rfl⟩
    rw [refused]
    exact iff_of_false nofun fun both => both.1 mixed
  · rw [Settings.compile_of_scan named found, classify_of_not_mixed mixed]
    exact ⟨fun same => ⟨mixed, (Except.ok.inj same).symm⟩, fun both => both.2 ▸ rfl⟩

variable (settings template)

/-- A template without keywords has its parameters as key paths, and no operation. -/
theorem compiledPattern_of_no_keyword
    (no_keyword : keywordTokens marker (parameterTokens read.segments) = []) :
    (compiledPattern settings marker template read).direction = .inbound ∧
      (compiledPattern settings marker template read).keyPaths = parameterTokens read.segments ∧
      (compiledPattern settings marker template read).operation? = none := by
  have inbound : (compiledPattern settings marker template read).direction = .inbound :=
    if_pos no_keyword
  rw [Pattern.keyPaths, Pattern.operation?, inbound]
  exact ⟨rfl, rfl, rfl⟩

/-- A template without key paths has none, and its keywords one after another name its operation,
which is absent if there is no keyword either. -/
theorem compiledPattern_of_no_keyPath
    (no_keyPath : keyPathTokens marker (parameterTokens read.segments) = []) :
    (compiledPattern settings marker template read).keyPaths = [] ∧
      (compiledPattern settings marker template read).operation?.getD [] =
        (parameterTokens read.segments).flatten := by
  rw [Pattern.keyPaths, Pattern.operation?]
  by_cases keywords : keywordTokens marker (parameterTokens read.segments) = []
  · have inbound : (compiledPattern settings marker template read).direction = .inbound :=
      if_pos keywords
    have no_parameter : parameterTokens read.segments = [] :=
      eq_nil_of_no_tokens keywords no_keyPath
    rw [inbound, Pattern.tokens]
    exact ⟨no_parameter, by rw [no_parameter]; rfl⟩
  · have outbound : (compiledPattern settings marker template read).direction = .outbound :=
      if_neg keywords
    rw [outbound]
    exact ⟨rfl, rfl⟩

/-- A template is outbound if it has a keyword. -/
theorem compiledPattern_outbound :
    (compiledPattern settings marker template read).direction = .outbound ↔
      keywordTokens marker (parameterTokens read.segments) ≠ [] := by
  rw [compiledPattern]
  by_cases keywords : keywordTokens marker (parameterTokens read.segments) = []
  · simp [keywords]
  · simp [keywords]

/-- If the parameters of a template are those of two others, one after the other, and are not mixed,
then so are its key paths, and so is its operation. -/
theorem compiledPattern_append (first last : Text) {front back : Scan}
    (tokens : parameterTokens read.segments =
      parameterTokens front.segments ++ parameterTokens back.segments)
    (pure : ¬ Mixed marker (parameterTokens read.segments)) :
    (compiledPattern settings marker template read).keyPaths =
        (compiledPattern settings marker first front).keyPaths ++
          (compiledPattern settings marker last back).keyPaths ∧
      (compiledPattern settings marker template read).operation?.getD [] =
        (compiledPattern settings marker first front).operation?.getD [] ++
          (compiledPattern settings marker last back).operation?.getD [] := by
  rw [Mixed, not_and_or, not_not, not_not] at pure
  rcases pure with no_keyword | no_keyPath
  · have parts := no_keyword
    rw [tokens, keywordTokens_append, List.append_eq_nil_iff] at parts
    obtain ⟨-, paths, unnamed⟩ := compiledPattern_of_no_keyword settings template no_keyword
    obtain ⟨-, paths_first, unnamed_first⟩ := compiledPattern_of_no_keyword settings first parts.1
    obtain ⟨-, paths_last, unnamed_last⟩ := compiledPattern_of_no_keyword settings last parts.2
    rw [paths, paths_first, paths_last, unnamed, unnamed_first, unnamed_last]
    exact ⟨tokens, rfl⟩
  · have parts := no_keyPath
    rw [tokens, keyPathTokens_append, List.append_eq_nil_iff] at parts
    obtain ⟨paths, named⟩ := compiledPattern_of_no_keyPath settings template no_keyPath
    obtain ⟨paths_first, named_first⟩ := compiledPattern_of_no_keyPath settings first parts.1
    obtain ⟨paths_last, named_last⟩ := compiledPattern_of_no_keyPath settings last parts.2
    rw [paths, paths_first, paths_last, named, named_first, named_last, tokens]
    exact ⟨rfl, List.flatten_append⟩

end Compiling

/-! ### Rendering -/

section Rendering

variable {renderer : Renderer} {object : Value}

/-- The text of segments, one after another. -/
def Renderer.renderAll (renderer : Renderer) (object : Value) (segments : List Segment) :
    Outcome Text := do
  let parts ← segments.mapM (renderer.renderSegment object)
  return parts.flatten

/-- The text of the first segment comes first. -/
theorem Renderer.renderAll_cons (segment : Segment) (rest : List Segment) :
    renderer.renderAll object (segment :: rest) =
      (do return (← renderer.renderSegment object segment) ++
        (← renderer.renderAll object rest)) := by
  rw [renderAll, renderAll, List.mapM_cons]
  cases renderer.renderSegment object segment with
  | error failure => rfl
  | ok text => cases rest.mapM (renderer.renderSegment object) <;> rfl

/-- Joined segments are rendered as the one and then the others. -/
theorem Renderer.renderAll_joinSegments (segments others : List Segment) :
    renderer.renderAll object (joinSegments segments others) =
      (do return (← renderer.renderAll object segments) ++
        (← renderer.renderAll object others)) := by
  fun_induction joinSegments segments others with
  | case1 others =>
    show renderer.renderAll object others = (renderer.renderAll object others).map ([] ++ ·)
    cases renderer.renderAll object others <;> rfl
  | case2 text more rest =>
    rw [renderAll_cons, renderAll_cons, renderAll_cons]
    show (renderer.renderAll object rest).map ((text ++ more) ++ ·) =
      ((renderer.renderAll object rest).map (more ++ ·)).map ((text ++ []) ++ ·)
    cases renderer.renderAll object rest with
    | error failure => rfl
    | ok tail => simp [Except.map]
  | case3 segment rest others apart ih =>
    rw [renderAll_cons, renderAll_cons, ih]
    cases renderer.renderSegment object segment with
    | error failure => rfl
    | ok text =>
      cases renderer.renderAll object rest with
      | error failure => rfl
      | ok middle =>
        cases renderer.renderAll object others with
        | error failure => rfl
        | ok tail =>
          show (.ok (text ++ (middle ++ tail)) : Outcome Text) = .ok (text ++ middle ++ tail)
          rw [List.append_assoc]

/-- An inbound pattern is rendered as its segments are. -/
theorem Renderer.render_of_inbound {pattern : Pattern} (inbound : pattern.direction = .inbound) :
    renderer.render pattern object = renderer.renderAll object pattern.segments := by
  rw [render, inbound]
  rfl

end Rendering

/-- Compiling templates one behind the other agrees with compiling each. Let two templates get past
the reading of their parentheses under settings, and let every parameter of the first one be closed.
Then both together get past it, and are read as the segments of the one and those of the other, the
two literals at the seam made one; their parameters are those of the one and then those of the
other. Where keywords end in a text, the whole template is refused exactly if these parameters are
mixed, with all keywords and all key paths in order. Otherwise all three are patterns, and the key
paths and the operation of the whole one are those of the one followed by those of the other, an
absent operation counting as empty; it is outbound if one of the two is. Inbound patterns are
rendered together, by every renderer, as the one and then the other, or fail as the first of them
that fails. -/
theorem compile_append (settings : Settings) (first last : Text) (reads : settings.Reads first)
    (reads' : settings.Reads last) (closed : ¬ Unclosed first) :
    ∃ front back whole : Scan, scan settings.strict.isTruthy first = .ok front ∧
      scan settings.strict.isTruthy last = .ok back ∧
      scan settings.strict.isTruthy (first ++ last) = .ok whole ∧
      whole.segments = joinSegments front.segments back.segments ∧
      parameterTokens whole.segments =
        parameterTokens front.segments ++ parameterTokens back.segments ∧
      ∀ marker, settings.marker = .text marker →
        (∀ failure, settings.compile (first ++ last) = .error failure ↔
          Mixed marker (parameterTokens front.segments ++ parameterTokens back.segments) ∧
            failure = .template (first ++ last)
              (.mixed
                (keywordTokens marker (parameterTokens front.segments) ++
                  keywordTokens marker (parameterTokens back.segments))
                (keyPathTokens marker (parameterTokens front.segments) ++
                  keyPathTokens marker (parameterTokens back.segments)))) ∧
        (¬ Mixed marker (parameterTokens front.segments ++ parameterTokens back.segments) →
          ∃ pattern pattern' both, settings.compile first = .ok pattern ∧
            settings.compile last = .ok pattern' ∧ settings.compile (first ++ last) = .ok both ∧
            both.keyPaths = pattern.keyPaths ++ pattern'.keyPaths ∧
            both.operation?.getD [] =
              pattern.operation?.getD [] ++ pattern'.operation?.getD [] ∧
            (both.direction = .outbound ↔
              pattern.direction = .outbound ∨ pattern'.direction = .outbound)) ∧
        ∀ pattern pattern', settings.compile first = .ok pattern →
          settings.compile last = .ok pattern' → pattern.direction = .inbound →
          pattern'.direction = .inbound →
            ∃ both, settings.compile (first ++ last) = .ok both ∧
              ∀ (renderer : Renderer) (object : Value),
                renderer.render both object =
                  (do return (← renderer.render pattern object) ++
                    (← renderer.render pattern' object)) := by
  obtain ⟨front, back, whole, found, found', found_whole, joined⟩ := reads.exists_scan reads' closed
  have tokens : parameterTokens whole.segments =
      parameterTokens front.segments ++ parameterTokens back.segments := by
    rw [joined, parameterTokens_joinSegments]
  refine ⟨front, back, whole, found, found', found_whole, joined, tokens, fun marker named => ?_⟩
  refine ⟨?refused, ?compiled, ?rendered⟩
  case refused =>
    intro failure
    rw [Settings.compile_eq_error named found_whole, tokens, keywordTokens_append,
      keyPathTokens_append]
  case compiled =>
    intro pure
    obtain ⟨pure_front, pure_back⟩ := not_mixed_of_append pure
    refine ⟨_, _, _, (Settings.compile_eq_ok named found).mpr ⟨pure_front, rfl⟩,
      (Settings.compile_eq_ok named found').mpr ⟨pure_back, rfl⟩,
      (Settings.compile_eq_ok named found_whole).mpr ⟨tokens ▸ pure, rfl⟩, ?_⟩
    obtain ⟨paths, operation⟩ :=
      compiledPattern_append settings (first ++ last) first last tokens (tokens ▸ pure)
    refine ⟨paths, operation, ?_⟩
    rw [compiledPattern_outbound, compiledPattern_outbound, compiledPattern_outbound, tokens,
      keywordTokens_append, ne_eq, List.append_eq_nil_iff, not_and_or]
  case rendered =>
    intro pattern pattern' compiled compiled' inbound inbound'
    obtain ⟨-, rfl⟩ := (Settings.compile_eq_ok named found).mp compiled
    obtain ⟨-, rfl⟩ := (Settings.compile_eq_ok named found').mp compiled'
    have no_keyword : keywordTokens marker (parameterTokens whole.segments) = [] := by
      rw [tokens, keywordTokens_append, List.append_eq_nil_iff]
      constructor
      · by_contra keyword
        rw [(compiledPattern_outbound settings first).mpr keyword] at inbound
        contradiction
      · by_contra keyword
        rw [(compiledPattern_outbound settings last).mpr keyword] at inbound'
        contradiction
    refine ⟨_, (Settings.compile_eq_ok named found_whole).mpr
      ⟨fun mixed => mixed.1 no_keyword, rfl⟩, fun renderer object => ?_⟩
    rw [Renderer.render_of_inbound (compiledPattern_of_no_keyword settings _ no_keyword).1,
      Renderer.render_of_inbound inbound, Renderer.render_of_inbound inbound']
    show renderer.renderAll object whole.segments = _
    rw [joined]
    exact Renderer.renderAll_joinSegments front.segments back.segments

/-- A template with a closing parenthesis as literal text and an opening one in a parameter, before
another one whose only parameter is not closed: both together are read with one literal at the seam,
and every object is rendered through them as through the one and then the other. -/
theorem compile_append_unclosed :
    Settings.initial.Reads "x)(a(b)-" ∧ Settings.initial.Reads ":(n" ∧ ¬ Unclosed "x)(a(b)-" ∧
      ∃ pattern pattern' both, Settings.initial.compile "x)(a(b)-" = .ok pattern ∧
        Settings.initial.compile ":(n" = .ok pattern' ∧
        Settings.initial.compile "x)(a(b)-:(n" = .ok both ∧
        both.segments = [.literal "x)", .parameter "a(b", .literal "-:", .parameter "n"] ∧
        ∀ (renderer : Renderer) (object : Value),
          renderer.render both object =
            (do return (← renderer.render pattern object) ++
              (← renderer.render pattern' object)) := by
  have reads : Settings.initial.Reads "x)(a(b)-" := ⟨_, rfl⟩
  have reads' : Settings.initial.Reads ":(n" := ⟨_, rfl⟩
  have read : scan false "x)(a(b)-" = .ok ⟨[⟨.literal, "x)", 0⟩, ⟨.parameter, "a(b", 2⟩,
      ⟨.literal, "-", 7⟩, ⟨.finish, [], 8⟩], none⟩ := rfl
  have closed : ¬ Unclosed "x)(a(b)-" := by
    rw [← scan_unterminated_iff read]
    decide
  obtain ⟨front, back, whole, -, -, -, -, -, agree⟩ :=
    compile_append Settings.initial "x)(a(b)-" ":(n" reads reads' closed
  obtain ⟨-, -, rendered⟩ := agree ":" rfl
  obtain ⟨both, compiled, alike⟩ := rendered _ _ rfl rfl rfl rfl
  have same : Settings.initial.compile "x)(a(b)-:(n" = .ok both := compiled
  refine ⟨reads, reads', closed, _, _, both, rfl, rfl, same, ?_, alike⟩
  obtain rfl := Except.ok.inj same
  rfl

end Stencil
