import DeviceFlow.Document.Yaml.Token

/-!
# Scanning YAML texts

The scanner turns the characters of a text into tokens. Outside of flow collections the
blocks are found by their indentation, so the scanner keeps the columns of the open blocks. A
key is known as one only when its colon comes, so for each open flow collection, and for the
block around them, it remembers the token at which a key may have begun.
-/

namespace DeviceFlow.Document.Yaml

/-- A token that may turn out to begin a key. -/
structure PossibleKey where
  /-- The number of tokens before it. -/
  position : Nat
  /-- Its place. -/
  glyph : Glyph
  /-- Whether nothing but a key can stand there. -/
  required : Bool

/-- What the scanner remembers between two tokens. -/
structure Scanner where
  /-- The tokens so far. -/
  tokens : Array Token
  /-- The column of the innermost block, below zero outside of all blocks. -/
  indent : Int
  /-- The columns of the blocks around it. -/
  outer : List Int
  /-- The possible key of the innermost flow collection, then of those around it, and of the
      block last. -/
  keys : List (Option PossibleKey)
  /-- Whether a key may begin here. -/
  keyAllowed : Bool

namespace Scanner

/-- The scanner at the start of a text. -/
def start : Scanner := ⟨#[], -1, [], [none], true⟩

/-- Whether the scanner is inside a flow collection. -/
def inFlow (s : Scanner) : Bool := 1 < s.keys.length

/-- Appends a token. -/
def push (s : Scanner) (t : Token) : Scanner := { s with tokens := s.tokens.push t }

/-- Closes the blocks that are indented further than a column. -/
def unroll (s : Scanner) (column : Int) : Scanner :=
  if s.inFlow then s else go s.tokens s.indent s.outer
where
  /-- Closes blocks, innermost first. -/
  go (tokens : Array Token) (indent : Int) : List Int → Scanner
    | [] => { s with tokens := tokens, indent := indent, outer := [] }
    | o :: rest =>
      if column < indent then go (tokens.push .blockEnd) o rest
      else { s with tokens := tokens, indent := indent, outer := o :: rest }

/-- Opens a block at a column unless one is open there; its token goes to a position. -/
def roll (s : Scanner) (column : Nat) (position : Nat) (t : Token) : Scanner :=
  if s.inFlow || (column : Int) ≤ s.indent then s
  else
    { s with
      tokens := s.tokens.insertIdxIfInBounds position t
      indent := column
      outer := s.indent :: s.outer }

/-- Gives up the possible keys that are too far behind: a key ends on its line, after at most
    1024 characters. None when one of them had to be a key. -/
def expire? (s : Scanner) (here : Glyph) : Option Scanner :=
  (go s.keys).map fun keys => { s with keys := keys }
where
  /-- Gives up possible keys one by one. -/
  go : List (Option PossibleKey) → Option (List (Option PossibleKey))
    | [] => some []
    | none :: rest => (go rest).map (none :: ·)
    | some k :: rest =>
      if k.glyph.line < here.line || k.glyph.index + 1024 < here.index then
        if k.required then none else (go rest).map (none :: ·)
      else (go rest).map (some k :: ·)

/-- Gives up the innermost possible key; none when it had to be a key. -/
def dropKey? (s : Scanner) : Option Scanner :=
  match s.keys with
  | some k :: rest => if k.required then none else some { s with keys := none :: rest }
  | _ => some s

/-- Remembers that a key may begin with the next token. -/
def saveKey? (s : Scanner) (here : Glyph) : Option Scanner :=
  if s.keyAllowed then do
    let s ← s.dropKey?
    let key : PossibleKey := ⟨s.tokens.size, here, !s.inFlow && s.indent = here.column⟩
    return { s with keys := some key :: s.keys.drop 1 }
  else some s

/-- Skips blanks, comments and line ends, and a byte order mark that a line begins with. A tab
    may not stand where a key may begin. -/
def skip (s : Scanner) : List Glyph → Scanner × List Glyph
  | [] => (s, [])
  | g :: rest =>
    if g.isLineMark || g.char = ' ' || (g.char = '\t' && (s.inFlow || !s.keyAllowed)) then
      skip s rest
    else if g.isBreak then skip (if s.inFlow then s else { s with keyAllowed := true }) rest
    else if g.char = '#' then skipComment s rest
    else (s, g :: rest)
where
  /-- Skips the rest of a comment and goes on. -/
  skipComment (s : Scanner) : List Glyph → Scanner × List Glyph
    | [] => (s, [])
    | g :: rest =>
      if g.isBreak then skip (if s.inFlow then s else { s with keyAllowed := true }) rest
      else if g.isEnd then (s, g :: rest)
      else skipComment s rest

/-- Ends all blocks before a document mark or a directive. -/
def endBlocks? (s : Scanner) : Option Scanner := do
  let s ← (s.unroll (-1)).dropKey?
  return { s with keyAllowed := false }

/-- A mark that starts a flow collection. -/
def flowStart? (s : Scanner) (here : Glyph) (t : Token) : Option Scanner := do
  let s ← s.saveKey? here
  return { s.push t with keys := none :: s.keys, keyAllowed := true }

/-- A mark that ends a flow collection. -/
def flowEnd? (s : Scanner) (t : Token) : Option Scanner := do
  let s ← s.dropKey?
  let keys := if s.inFlow then s.keys.drop 1 else s.keys
  return { s.push t with keys := keys, keyAllowed := false }

/-- The comma of a flow collection. -/
def flowEntry? (s : Scanner) : Option Scanner := do
  let s ← s.dropKey?
  return { s.push .flowEntry with keyAllowed := true }

/-- The dash of a block sequence. -/
def blockEntry? (s : Scanner) (here : Glyph) : Option Scanner :=
  if !s.inFlow && !s.keyAllowed then none
  else do
    let s ← (s.roll here.column s.tokens.size .blockSequenceStart).dropKey?
    return { s.push .blockEntry with keyAllowed := true }

/-- The mark of a key. -/
def key? (s : Scanner) (here : Glyph) : Option Scanner :=
  if !s.inFlow && !s.keyAllowed then none
  else do
    let s ← (s.roll here.column s.tokens.size .blockMappingStart).dropKey?
    return { s.push .key with keyAllowed := !s.inFlow }

/-- The colon of a value. If a key may have begun before, it has. -/
def value? (s : Scanner) (here : Glyph) : Option Scanner :=
  match s.keys with
  | some k :: rest =>
    let s := { s with
      tokens := s.tokens.insertIdxIfInBounds k.position .key, keys := none :: rest }
    let s := s.roll k.glyph.column k.position .blockMappingStart
    some { s.push .value with keyAllowed := false }
  | _ =>
    if !s.inFlow && !s.keyAllowed then none
    else
      let s := s.roll here.column s.tokens.size .blockMappingStart
      some { s.push .value with keyAllowed := !s.inFlow }

/-- A token that may begin a key and after which none may. -/
def content? (s : Scanner) (here : Glyph) (read : Option (Token × List Glyph)) :
    Option (Scanner × List Glyph) := do
  let s ← s.saveKey? here
  let (t, rest) ← read
  return ({ s.push t with keyAllowed := false }, rest)

/-- A block scalar. -/
def blockScalar? (s : Scanner) (folded : Bool) (after : List Glyph) :
    Option (Scanner × List Glyph) := do
  let s ← s.dropKey?
  let (text, rest) ← Yaml.blockScalar? folded s.indent after
  let style := if folded then Style.folded else Style.literal
  return ({ s.push (.scalar text style) with keyAllowed := true }, rest)

/-- A plain scalar. A key may begin after it when it has ended with a line break. -/
def plainScalar? (s : Scanner) (here : Glyph) (gs : List Glyph) :
    Option (Scanner × List Glyph) := do
  let s ← s.saveKey? here
  let (f, rest) ← plain? s.inFlow (s.indent + 1) .start false true gs
  return ({ s.push (.scalar f.result .plain) with keyAllowed := f.broken }, rest)

/-- The marks that a plain scalar cannot begin with. -/
def indicators : List Char :=
  ['-', '?', ':', ',', '[', ']', '\x7b', '\x7d', '#', '&', '*', '!', '|', '>', '\'', '"', '%',
    '@', '\x60']

/-- Whether a plain scalar can begin here. -/
def startsPlain (inFlow : Bool) (g : Glyph) (after : List Glyph) : Bool :=
  let blankNext := match after with | h :: _ => h.isBlank | [] => false
  !(g.isSpace || indicators.contains g.char) || (g.char = '-' && !blankNext) ||
    (!inFlow && (g.char = '?' || g.char = ':') && !spaceNext after)

/-- Reads the next token at a character that is neither a blank nor the end of the text. -/
def next? (s : Scanner) (g : Glyph) (after : List Glyph) : Option (Scanner × List Glyph) :=
  let gs := g :: after
  let single (s : Option Scanner) : Option (Scanner × List Glyph) := s.map (·, after)
  let separated := s.inFlow || spaceNext after
  if g.column = 0 && g.char = '%' then do
    let s ← s.endBlocks?
    let (t, rest) ← directive? after
    return (s.push t, rest)
  else if documentMarkNext gs then do
    let s ← s.endBlocks?
    return (s.push (if g.char = '-' then .documentStart else .documentEnd), gs.drop 3)
  else if g.char = '[' then single (s.flowStart? g .flowSequenceStart)
  else if g.char = '\x7b' then single (s.flowStart? g .flowMappingStart)
  else if g.char = ']' then single (s.flowEnd? .flowSequenceEnd)
  else if g.char = '\x7d' then single (s.flowEnd? .flowMappingEnd)
  else if g.char = ',' then single s.flowEntry?
  else if g.char = '-' && spaceNext after then single (s.blockEntry? g)
  else if g.char = '?' && separated then single (s.key? g)
  else if g.char = ':' && separated then single (s.value? g)
  else if g.char = '*' then
    s.content? g ((anchorName? after).map fun (name, rest) => (.alias name, rest))
  else if g.char = '&' then
    s.content? g ((anchorName? after).map fun (name, rest) => (.anchor name, rest))
  else if g.char = '!' then
    s.content? g ((tag? s.inFlow gs).map fun (handle, suffix, rest) => (.tag handle suffix, rest))
  else if g.char = '|' && !s.inFlow then s.blockScalar? false after
  else if g.char = '>' && !s.inFlow then s.blockScalar? true after
  else if g.char = '\'' then
    s.content? g ((singleQuoted? .start after).map fun (t, rest) => (.scalar t .singleQuoted, rest))
  else if g.char = '"' then
    s.content? g
      ((doubleQuoted? .start .none after).map fun (t, rest) => (.scalar t .doubleQuoted, rest))
  else if startsPlain s.inFlow g after then s.plainScalar? g gs
  else none

/-- Reads the tokens of a text. Every token but the ends of blocks takes a character. -/
def run? (s : Scanner) (gs : List Glyph) : Option (Array Token) :=
  match s.skip gs with
  | (_, []) => none
  | (s, g :: after) => do
    let s ← s.expire? g
    let s := s.unroll (if g.isEnd then -1 else g.column)
    if g.isEnd then
      let s ← (s.unroll (-1)).dropKey?
      return s.tokens
    else
      let (s, rest) ← s.next? g after
      if rest.length < gs.length then run? s rest else none
termination_by gs.length

end Scanner

/-- The tokens of a YAML text, if it is one. -/
def tokens? (text : List Char) : Option (Array Token) := do
  Scanner.start.run? (← glyphs? text)

end DeviceFlow.Document.Yaml
