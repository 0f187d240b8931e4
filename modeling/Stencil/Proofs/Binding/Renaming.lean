import Stencil.Proofs.Binding.Decision

/-!
# What parameters are called

Matching and binding see of a segment whether it is a place, and the text of a literal; what a
place is called is left to rendering and to the name of an operation. Patterns that agree but for
that (`Pattern.Agrees`) extract the same texts (`Pattern.Agrees.extract_eq`), and a binding with the
one is a binding with the other once both are to carry out the same operation (`bind_agreeing`).
-/
namespace Stencil

/-- Two segments are the same but for the token of a parameter. -/
inductive Segment.Agrees : Segment → Segment → Prop
  /-- A literal agrees with the same literal. -/
  | literal (needle : Text) : Agrees (.literal needle) (.literal needle)
  /-- A parameter agrees with every parameter. -/
  | parameter (token other : Text) : Agrees (.parameter token) (.parameter other)

/-- Two patterns look for operations in the same way and are the same segment by segment but for
the tokens of their parameters. Their directions and templates may differ. -/
structure Pattern.Agrees (pattern other : Pattern) : Prop where
  /-- The segments agree one by one. -/
  segments : List.Forall₂ Segment.Agrees pattern.segments other.segments
  /-- Keywords end in the same marker. -/
  marker : pattern.marker = other.marker
  /-- The names of constructing operations begin in the same way. -/
  construction : pattern.construction = other.construction

/-! ### Extraction -/

section Matching

variable {segments others : List Segment}

/-- Segments that agree spell the same text when their places are filled with the same texts. -/
theorem fill?_agrees (agree : List.Forall₂ Segment.Agrees segments others) (values : List Text) :
    fill? segments values = fill? others values := by
  induction agree generalizing values with
  | nil => rfl
  | cons first rest ih =>
    cases first with
    | literal needle => rw [fill?, fill?, ih values]
    | parameter token other =>
      cases values with
      | nil => rfl
      | cons value values => rw [fill?, fill?, ih values]

/-- The nearest filling of segments is the nearest one of segments that agree with them. -/
theorem Nearest.agrees (agree : List.Forall₂ Segment.Agrees segments others) {text : Text}
    {values : List Text} (nearest : Nearest segments text values) : Nearest others text values := by
  have same : ∀ values, fill? segments values = fill? others values := fill?_agrees agree
  have filled : fill? others values = some text := by
    rw [← same values]
    exact nearest.fills
  apply nearest_of_lengths_le filled
  intro values' filled'
  rw [← same values'] at filled'
  exact nearest.lengths_le filled'

/-- Segments that agree are matched with the same texts. -/
theorem matchSegments_agrees (agree : List.Forall₂ Segment.Agrees segments others) (text : Text) :
    matchSegments segments text = matchSegments others text := by
  have back : List.Forall₂ Segment.Agrees others segments := by
    apply List.Forall₂.flip
    apply agree.imp
    intro segment other agrees
    cases agrees with
    | literal needle => exact .literal needle
    | parameter token token' => exact .parameter token' token
  apply Option.ext
  intro values
  rw [matchSegments_eq_some_iff, matchSegments_eq_some_iff]
  exact ⟨Nearest.agrees agree, Nearest.agrees back⟩

end Matching

section Patterns

variable {pattern other : Pattern} {text : Text}

/-- Patterns that agree extract the same texts. -/
theorem Pattern.Agrees.extract_eq (agree : pattern.Agrees other) (text : Text) :
    pattern.extract text = other.extract text :=
  matchSegments_agrees agree.segments text

/-- Patterns that agree look for operations in the same way. -/
theorem Pattern.Agrees.convention_eq (agree : pattern.Agrees other) :
    pattern.convention = other.convention := by
  rw [Pattern.convention, Pattern.convention, agree.marker, agree.construction]

/-! ### Binding -/

variable {asked asked' : Option Text} {name : Text} {target : Value} {invoker : Invoker}
  {convert : Converter} {state : State}

/-- A text that does not conform to a pattern is refused whatever operation is asked for. -/
theorem bind_of_not_conforms (differs : pattern.conforms text = false) :
    bind pattern text target asked invoker convert state =
      (.error (.nonConforming pattern.template text), state) := by
  have unmatched : pattern.extract text = none := by
    simpa [Pattern.conforms] using differs
  exact Decided.bind_eq (.nonConforming unmatched)

/-- Patterns that agree bind a text that conforms to them in the same way if both are to carry out
the same operation. -/
theorem Pattern.Agrees.bind_eq (agree : pattern.Agrees other)
    (conforms : pattern.conforms text = true) (operates : pattern.Operates asked name)
    (operates' : other.Operates asked' name) :
    bind pattern text target asked invoker convert state =
      bind other text target asked' invoker convert state := by
  obtain ⟨texts, matched⟩ : ∃ texts, pattern.extract text = some texts :=
    Option.isSome_iff_exists.mp conforms
  have matched' : other.extract text = some texts := by
    rw [← agree.extract_eq text]
    exact matched
  have prepared : prepareBinding pattern text target asked invoker convert state =
      prepareBinding other text target asked' invoker convert state := by
    rw [prepareBinding_of_operates matched operates, prepareBinding_of_operates matched' operates']
  rw [bind, bind, prepared]

end Patterns

/-- A template that is read as an operation names it by at least one character, unless keywords end
in nothing. -/
theorem operation_ne_nil_of_compile {dialect : Dialect} {template name : Text} {pattern : Pattern}
    (compiled : compile dialect template = .ok pattern) (marked : dialect.marker ≠ [])
    (named : pattern.operation? = some name) : name ≠ [] := by
  rw [compile] at compiled
  cases read : scan dialect.strict template with
  | error fault =>
    rw [read] at compiled
    contradiction
  | ok scan =>
    rw [read] at compiled
    obtain ⟨direction, classified, same⟩ := bind_eq_ok.mp compiled
    obtain rfl := Except.ok.inj same
    cases direction with
    | inbound => contradiction
    | outbound =>
      rw [classify] at classified
      split at classified
      · contradiction
      · next keyword keywords found _ =>
        -- The first keyword ends in the marker, so it is not empty, and neither is the name.
        have among : keyword ∈ (parameterTokens (scan.tokens.filterMap Segment.ofToken?)).filter
            fun token => token.endsWith dialect.marker := by
          rw [found]
          exact List.mem_cons_self
        obtain ⟨member, ends⟩ := List.mem_filter.mp among
        have ending : dialect.marker <:+ keyword := List.isSuffixOf_iff_suffix.mp ends
        obtain rfl := Option.some.inj named
        intro empty
        have no_keyword : keyword = [] := List.flatten_eq_nil_iff.mp empty keyword member
        rw [no_keyword] at ending
        exact marked (List.suffix_nil.mp ending)
      · contradiction

/-- What parameters are called, and which way a pattern is used, matters neither to what a text has
in the places of a pattern nor to a binding. Patterns that agree but for that extract the same texts
and look for operations in the same way. Asked for an operation, they bind every text with the same
result, the same failure and the same state left behind, and so does the one by its own operation
when the other is asked for it; only where the text does not conform, each names its own template.
An operation that a template names has a name, unless keywords end in nothing. -/
theorem bind_agreeing (pattern other : Pattern) (agree : pattern.Agrees other) (text : Text) :
    pattern.extract text = other.extract text ∧
      pattern.convention.invoker = other.convention.invoker ∧
      (∀ (name : Text) (asked : Option Text), name ≠ [] →
        asked = some name ∨ asked = none ∧ other.operation? = some name →
        ∀ (target : Value) (invoker : Invoker) (convert : Converter) (state : State),
          (pattern.conforms text = true →
            bind other text target asked invoker convert state =
              bind pattern text target (some name) invoker convert state) ∧
          (pattern.conforms text = false →
            bind pattern text target (some name) invoker convert state =
                (.error (.nonConforming pattern.template text), state) ∧
              bind other text target asked invoker convert state =
                (.error (.nonConforming other.template text), state))) ∧
      ∀ (dialect : Dialect) (template name : Text), compile dialect template = .ok other →
        dialect.marker ≠ [] → other.operation? = some name → name ≠ [] := by
  have extracted : pattern.extract text = other.extract text := agree.extract_eq text
  refine ⟨extracted, by rw [agree.convention_eq], ?bound, ?compiled⟩
  case bound =>
    intro name asked filled asks target invoker convert state
    have operates : pattern.Operates (some name) name := .inl ⟨rfl, filled⟩
    have operates' : other.Operates asked name := by
      rcases asks with rfl | ⟨rfl, own⟩
      · exact .inl ⟨rfl, filled⟩
      · exact .inr ⟨rfl, own⟩
    constructor
    · intro conforms
      exact (agree.bind_eq conforms operates operates').symm
    · intro differs
      have differs' : other.conforms text = false := by
        rw [Pattern.conforms, ← extracted]
        exact differs
      exact ⟨bind_of_not_conforms differs, bind_of_not_conforms differs'⟩
  case compiled =>
    intro dialect template name compiled marked named
    exact operation_ne_nil_of_compile compiled marked named

/-- An object with a method of two arguments, a text and an integer, that keeps the second. -/
def pairing : State where
  world := World.empty.declare "Thing" []
    [("pair_and", .method
      { owner := "Thing"
        name := "pair_and"
        operation := none
        kind := .ofObject
        parameters := [.self, ⟨"a", .positional, some ⟨.plain .text, false⟩, none⟩,
          ⟨"b", .positional, some ⟨.plain .int, false⟩, none⟩]
        result := none
        body := .steps [.assign "x" (.argument "b")] })]
    []
  heap := .ofObjects [⟨.declared "Thing", []⟩]

/-- The pattern of a template with two key paths. -/
def pairPaths : Pattern :=
  ⟨"(who)-(n)", [.parameter "who", .literal "-", .parameter "n"], .inbound, ":", "init"⟩

/-- The pattern of a template with two keywords at the same places. -/
def pairKeywords : Pattern :=
  ⟨"(pair:)-(and:)", [.parameter "pair:", .literal "-", .parameter "and:"], .outbound, ":", "init"⟩

/-- Asked for the operation that keywords at the same places name, a pattern of key paths is bound
as the pattern of keywords is by itself: the method keeps the number converted from the second
text. -/
theorem bind_agreeing_key_paths :
    compile ⟨":", "init", false⟩ "(who)-(n)" = .ok pairPaths ∧
      compile ⟨":", "init", false⟩ "(pair:)-(and:)" = .ok pairKeywords ∧
      pairPaths.Agrees pairKeywords ∧ pairPaths.conforms "a-7" = true ∧
      pairKeywords.operation? = some ("pair:and:" : Text) ∧
      bind pairPaths "a-7" (.object 0) (some "pair:and:") pairPaths.convention.invoker
          ConversionTable.initial.converter pairing =
        (.ok .nothing, { pairing with heap := .ofObjects [⟨.declared "Thing", [("x", .int 7)]⟩] }) := by
  have agree : pairPaths.Agrees pairKeywords :=
    ⟨.cons (.parameter _ _) (.cons (.literal _) (.cons (.parameter _ _) .nil)), rfl, rfl⟩
  have conforms : pairPaths.conforms "a-7" = true := by cbv
  have matched : pairKeywords.extract "a-7" = some (["a", "7"] : List Text) := by cbv
  have prepared : Prepared pairKeywords "a-7" (.object 0) none pairPaths.convention.invoker pairing
      "pair:and:" ["a", "7"] [.plain .text, .plain .int] pairing :=
    ⟨matched, .inr ⟨rfl, rfl⟩, rfl, rfl⟩
  have converted : Converted ConversionTable.initial.converter
      [("a", .plain .text), ("7", .plain .int)] pairing [.text "a", .int 7] pairing :=
    .next rfl (.next rfl (.nothing pairing))
  have bound := Decided.bind_eq (.performed prepared converted)
  obtain ⟨-, -, alike, -⟩ := bind_agreeing pairPaths pairKeywords agree "a-7"
  have same := (alike "pair:and:" none (by decide) (.inr ⟨rfl, rfl⟩) (.object 0)
    pairPaths.convention.invoker ConversionTable.initial.converter pairing).1 conforms
  refine ⟨rfl, rfl, agree, conforms, rfl, ?_⟩
  rw [← same, bound]
  rfl

end Stencil
