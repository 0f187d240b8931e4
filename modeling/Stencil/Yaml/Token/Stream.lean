import Stencil.Yaml.Token

/-!
# The tokens of a text

A text is cut into tokens from left to right. Indentation opens and closes collections, and a token
may turn out to begin a key only when the colon behind it is reached; until then it is held back.
`TokenStream.of` gives the tokens of a text up to the first place that forms none.
-/
namespace Stencil.Yaml

/-- A token that begins a key if a colon follows. -/
structure Candidate where
  /-- The number of the token. -/
  number : Nat
  /-- Whether nothing else than a key may begin there. -/
  required : Bool
  /-- Where the token begins. -/
  place : Place

/-- How far a text has been cut into tokens. -/
structure Lexer where
  /-- What has not been read. -/
  rest : Text
  /-- Where the rest begins. -/
  place : Place
  /-- The tokens that are held back. -/
  pending : List Token
  /-- How many tokens have been given out. -/
  released : Nat
  /-- How many brackets are open. -/
  depth : Int
  /-- How far the innermost open collection is indented. -/
  indent : Int
  /-- How far the collections around it are indented. -/
  outer : List Int
  /-- Whether a key may begin here. -/
  keyAllowed : Bool
  /-- The tokens that may begin a key, by the number of brackets around them. -/
  candidates : List (Int × Candidate)
  /-- Whether the end of the text has been reached. -/
  finished : Bool

/-- Nothing has been read of a text. -/
def Lexer.start (text : Text) : Lexer :=
  ⟨text, .start, [], 0, 0, -1, [], true, [], false⟩

/-- A step in cutting a text. -/
abbrev Lexing := StateT Lexer (Except Refusal)

/-- Go on behind some characters. -/
def passTo (rest : Text) : Lexing Unit :=
  modify fun lexer =>
    let passed := lexer.rest.take (lexer.rest.length - rest.length)
    { lexer with rest, place := lexer.place.past passed }

/-- Hold a token back. -/
def push (token : Token) : Lexing Unit :=
  modify fun lexer => { lexer with pending := lexer.pending ++ [token] }

/-- Say whether a key may begin here. -/
def allowKey (allowed : Bool) : Lexing Unit :=
  modify fun lexer => { lexer with keyAllowed := allowed }

/-- What follows blanks, comments and line breaks, and whether there were line breaks. -/
def dropGap (comment : Bool) : Text → Text × Bool
  | [] => ([], false)
  | char :: rest =>
    if isBreak char then ((dropGap false rest).1, true)
    else if comment then dropGap true rest
    else if char = ' ' then dropGap false rest
    else if char = '#' then dropGap true rest
    else (char :: rest, false)

/-- Go on at the next token; outside brackets a key may begin on a new line. The mark of a byte
order at the beginning is passed over. -/
def skipGap : Lexing Unit := do
  let lexer ← get
  let text := match lexer.rest with
    | '\uFEFF' :: rest => if lexer.place.offset = 0 then rest else lexer.rest
    | text => text
  let (rest, crossed) := dropGap false text
  passTo rest
  if crossed && lexer.depth = 0 then allowKey true

/-- Whether a candidate can no longer begin a key, which stands in one line and is not long. -/
def Candidate.isStale (candidate : Candidate) (place : Place) : Bool :=
  candidate.place.line != place.line || candidate.place.offset + 1024 < place.offset

/-- Give up the candidates of a class; a required key must not be among them. -/
def dropCandidates (dropped : Int → Candidate → Bool) : Lexing Unit := do
  let lexer ← get
  if lexer.candidates.any fun (depth, candidate) =>
      dropped depth candidate && candidate.required then
    noToken
  else
    set { lexer with
      candidates := lexer.candidates.filter fun (depth, candidate) => !dropped depth candidate }

/-- Give up the candidates that can no longer begin a key. -/
def dropStale : Lexing Unit := do
  let place := (← get).place
  dropCandidates fun _ candidate => candidate.isStale place

/-- Give up the candidate between the innermost brackets. -/
def dropCandidate : Lexing Unit := do
  let depth := (← get).depth
  dropCandidates fun other _ => other = depth

/-- The next token may begin a key, if keys are allowed here. -/
def addCandidate : Lexing Unit := do
  if (← get).keyAllowed then
    dropCandidate
    modify fun lexer =>
      let required := lexer.depth = 0 && lexer.indent = lexer.place.column
      let number := lexer.released + lexer.pending.length
      { lexer with
        candidates := (lexer.depth, ⟨number, required, lexer.place⟩) :: lexer.candidates }

/-- The collections that are indented beyond a column are closed: how many, and what is left. -/
def unwound (column : Int) : Int → List Int → Nat × Int × List Int
  | indent, [] => (0, indent, [])
  | indent, next :: outer =>
    if column < indent then
      let (count, left) := unwound column next outer
      (count + 1, left)
    else (0, indent, next :: outer)

/-- Outside brackets, close the collections that are indented beyond a column. -/
def unwind (column : Int) : Lexing Unit :=
  modify fun lexer =>
    if lexer.depth = 0 then
      let (count, indent, outer) := unwound column lexer.indent lexer.outer
      { lexer with
        indent, outer, pending := lexer.pending ++ List.replicate count .blockEnd }
    else lexer

/-- Put tokens in front of the one of a number. -/
def insertAt (number : Nat) (tokens : List Token) : Lexing Unit :=
  modify fun lexer =>
    let position := number - lexer.released
    { lexer with
      pending := lexer.pending.take position ++ tokens ++ lexer.pending.drop position }

/-- Outside brackets, a collection is opened in a column that lies beyond the innermost one: say
whether it is. -/
def indentTo (column : Int) : Lexing Bool := do
  let lexer ← get
  if lexer.depth = 0 && lexer.indent < column then
    set { lexer with indent := column, outer := lexer.indent :: lexer.outer }
    return true
  else return false

/-- Outside brackets, keys and items begin only where keys are allowed. -/
def requireKeyAllowed : Lexing Unit := do
  let lexer ← get
  if lexer.depth = 0 && !lexer.keyAllowed then noToken

/-- The end of the text closes all collections. -/
def takeFinish : Lexing Unit := do
  unwind (-1)
  dropCandidate
  modify fun lexer => { lexer with candidates := [], keyAllowed := false, finished := true }
  push .finish

/-- A token that stands outside all collections. -/
def takeOutside (token : Token) (rest : Text) : Lexing Unit := do
  unwind (-1)
  dropCandidate
  allowKey false
  passTo rest
  push token

/-- A line for the reader stands outside all collections. -/
def takeDirectiveLine (text : Text) : Lexing Unit := do
  let (directive, rest) ← takeDirective text
  takeOutside (.directive directive) rest

/-- An opening bracket, which may begin a key. -/
def takeOpening (token : Token) (rest : Text) : Lexing Unit := do
  addCandidate
  modify fun lexer => { lexer with depth := lexer.depth + 1 }
  allowKey true
  passTo rest
  push token

/-- A closing bracket. -/
def takeClosing (token : Token) (rest : Text) : Lexing Unit := do
  dropCandidate
  modify fun lexer => { lexer with depth := lexer.depth - 1 }
  allowKey false
  passTo rest
  push token

/-- A comma between items. -/
def takeComma (rest : Text) : Lexing Unit := do
  allowKey true
  dropCandidate
  passTo rest
  push .comma

/-- The dash before an item; outside brackets the first one opens a sequence. -/
def takeEntry (rest : Text) : Lexing Unit := do
  requireKeyAllowed
  if ← indentTo (← get).place.column then push .sequenceStart
  allowKey true
  dropCandidate
  passTo rest
  push .entry

/-- The question mark before a key; outside brackets the first key opens a mapping. -/
def takeKey (rest : Text) : Lexing Unit := do
  requireKeyAllowed
  if ← indentTo (← get).place.column then push .mappingStart
  allowKey ((← get).depth = 0)
  dropCandidate
  passTo rest
  push .key

/-- The colon before a value. It makes the candidate between the innermost brackets a key, which
opens a mapping if it is the first outside brackets; without one the key is empty. -/
def takeValue (rest : Text) : Lexing Unit := do
  let lexer ← get
  match lexer.candidates.lookup lexer.depth with
  | some candidate =>
    set { lexer with candidates := lexer.candidates.filter fun (depth, _) => depth != lexer.depth }
    let opens ← indentTo candidate.place.column
    insertAt candidate.number (if opens then [.mappingStart, .key] else [.key])
    allowKey false
  | none =>
    requireKeyAllowed
    if ← indentTo lexer.place.column then push .mappingStart
    allowKey (lexer.depth = 0)
    dropCandidate
  passTo rest
  push .value

/-- A token that may begin a key, and what follows it. -/
def takeNodeStart (read : Except Refusal (Token × Text)) : Lexing Unit := do
  addCandidate
  allowKey false
  let (token, rest) ← read
  passTo rest
  push token

/-- A plain scalar; a key may follow the lines behind it. -/
def takePlainScalar : Lexing Unit := do
  addCandidate
  let lexer ← get
  let (content, ended, rest) ← takePlain (lexer.depth != 0) (lexer.indent + 1) lexer.rest
  allowKey ended
  passTo rest
  push (.scalar true content)

/-- A scalar in a block of lines, behind which a key may follow. -/
def takeBlockScalar (isFolded : Bool) (text : Text) : Lexing Unit := do
  allowKey true
  dropCandidate
  let (content, rest) ← takeBlock isFolded (max 1 ((← get).indent + 1)).toNat text
  passTo rest
  push (.scalar false content)

/-- Whether a plain scalar begins with a character. -/
def beginsPlain (bracketed : Bool) (char : Char) (rest : Text) : Bool :=
  let signs : Text := "-?:,[]\x7b\x7d#&*!|>'\"%@`"
  (!isBlank char && !isBreak char && !signs.contains char) ||
    (!endsWord rest && (char == '-' || (!bracketed && (char == '?' || char == ':'))))

/-- Read the token that begins with a character, or with what it stands for there. -/
def takeToken (char : Char) (rest : Text) : Lexing Unit := do
  let lexer ← get
  let text := char :: rest
  let bracketed := lexer.depth ≠ 0
  let begins := lexer.place.column = 0
  if char = '%' && begins then takeDirectiveLine rest
  else if begins && isMark "---" text then takeOutside .documentStart (text.drop 3)
  else if begins && isMark "..." text then takeOutside .documentEnd (text.drop 3)
  else if char = '[' then takeOpening .openSequence rest
  else if char = '\x7b' then takeOpening .openMapping rest
  else if char = ']' then takeClosing .closeSequence rest
  else if char = '\x7d' then takeClosing .closeMapping rest
  else if char = ',' then takeComma rest
  else if char = '-' && endsWord rest then takeEntry rest
  else if char = '?' && (bracketed || endsWord rest) then takeKey rest
  else if char = ':' && (bracketed || endsWord rest) then takeValue rest
  else if char = '*' then
    takeNodeStart ((takeAnchor rest).map fun (name, rest) => (.alias name, rest))
  else if char = '&' then
    takeNodeStart ((takeAnchor rest).map fun (name, rest) => (.anchor name, rest))
  else if char = '!' then takeNodeStart (takeTag rest)
  else if char = '|' && !bracketed then takeBlockScalar false rest
  else if char = '>' && !bracketed then takeBlockScalar true rest
  else if char = '\'' || char = '"' then
    takeNodeStart ((takeQuoted (char = '"') rest).map fun (content, rest) =>
      (.scalar false content, rest))
  else if beginsPlain bracketed char rest then takePlainScalar
  else noToken

/-- Read on until at least one more token is held back. -/
def takeNext : Lexing Unit := do
  skipGap
  dropStale
  unwind (← get).place.column
  match (← get).rest with
  | [] => takeFinish
  | char :: rest => takeToken char rest

/-- The tokens of a text, up to the first place that forms none. -/
structure TokenStream where
  /-- The tokens before that place. -/
  tokens : List Token
  /-- Why there are no more. -/
  refusal : Refusal

/-- The stream with one more token in front. -/
def TokenStream.cons (token : Token) (stream : TokenStream) : TokenStream :=
  { stream with tokens := token :: stream.tokens }

/-- Nothing follows the end of a text. -/
def TokenStream.ending (tokens : List Token) : TokenStream := ⟨tokens, .malformed .token⟩

/-- Give the first token out if no key can begin before it. -/
def Lexer.release? (lexer : Lexer) : Option (Token × Lexer) :=
  match lexer.pending with
  | [] => none
  | token :: pending =>
    if lexer.candidates.any fun (_, candidate) => candidate.number = lexer.released then none
    else some (token, { lexer with pending, released := lexer.released + 1 })

/-- Give the tokens out one by one, reading on where the next one is not certain. -/
def TokenStream.from (lexer : Lexer) : Nat → TokenStream
  | 0 => .ending []
  | fuel + 1 =>
    if lexer.finished then .ending lexer.pending
    else
      match dropStale.run lexer with
      | .error refusal => ⟨[], refusal⟩
      | .ok (_, lexer) =>
        match lexer.release? with
        | some (token, lexer) => .cons token (TokenStream.from lexer fuel)
        | none =>
          match takeNext.run lexer with
          | .error refusal => ⟨[], refusal⟩
          | .ok (_, lexer) => TokenStream.from lexer fuel

/-- The tokens of a text. Each step reads on by a character at least or gives a token out, and a
character gives at most four tokens: a colon opens and closes a mapping around a key and a value. -/
def TokenStream.of (text : Text) : TokenStream :=
  TokenStream.from (.start text) (6 * text.length + 6)

end Stencil.Yaml
