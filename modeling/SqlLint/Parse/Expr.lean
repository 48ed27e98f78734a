import SqlLint.Parse.Name

/-!
# Reading expressions

Expressions are read by operator precedence: an expression is a head followed by infix operators
that bind at least as strongly as asked for.

Every function below is given the reader of the expressions one level deeper, which takes the
binding power that an operator must have to continue the expression. Only `expr` at the end ties
the knot, and it has a limited number of levels. What is nested deeper fails.

Text that has no structure here, such as a subquery, is scanned as a *fragment*: the variables
and casts in it are kept and the rest is passed over.
-/

namespace SqlLint

namespace Parser

section

variable (cx : Context) (deeper : Nat → Parser Expr)

/-! ## Casts -/

/-- The kind of cast that a lexeme begins. -/
def castKind? (l : Lexeme) : Option CastKind :=
  l.keyword?.bind CastKind.ofKeyword?

/-- Whether an opening parenthesis comes first. -/
def opensParen (ls : List Lexeme) : Bool :=
  ls.head?.any (Lexeme.isMark .leftParen)

/-- Reads the inside of `CAST(e AS t)`. -/
def castInside (kind : CastKind) : Parser Expr := do
  let operand ← deeper 0
  expectKeyword cx .AS
  let target ← takeTypeRef cx
  expect cx .rightParen
  return .cast kind operand target none

/-- Reads the inside of `CONVERT(t, e)` or `CONVERT(t, e, style)`. -/
def convertInside (kind : CastKind) : Parser Expr := do
  let target ← takeTypeRef cx
  expect cx .comma
  let operand ← deeper 0
  if ← eat .comma then
    let style ← deeper 0
    expect cx .rightParen
    return .cast kind operand target (some style)
  else
    expect cx .rightParen
    return .cast kind operand target none

/-- Fails unless the version has the conversion. -/
def requireCast (kind : CastKind) : Parser Unit :=
  match kind.feature? with
  | some f => require cx f
  | none => pure ()

/-- Reads the inside of a cast of the given kind. -/
def takeCastInside (kind : CastKind) : Parser Expr :=
  match kind with
  | .cast => castInside cx deeper kind
  | .tryCast => castInside cx deeper kind
  | .convert => convertInside cx deeper kind
  | .tryConvert => convertInside cx deeper kind

/-- Reads a cast of the given kind, the cursor being at its key word. -/
def takeCast (kind : CastKind) : Parser Expr := do
  requireCast cx kind
  advance 1
  expect cx .leftParen
  takeCastInside cx deeper kind

/-! ## Fragments -/

/-- Reads a cast inside a fragment. If it cannot be read, nothing is taken; only the error of an
unsupported feature is recorded. -/
def fragmentCast? (kind : CastKind) (start : List Lexeme) : Parser (Option Expr) :=
  tryCatch (do return some (← takeCast cx deeper kind)) fun e => do
    match e with
    | .unsupported _ _ _ => record e
    | _ => pure ()
    moveTo start
    return none

/-- Reads the variable or cast at the cursor, if there is one. A call of `IIF` is not taken; if
the version does not have it, the error is recorded. -/
def fragmentItem? : Parser (Option Expr) := do
  match ← ahead with
  | [] => return none
  | l :: ls =>
    match l.variableHere? with
    | some v =>
      advance 1
      return some (.var v)
    | none =>
      if opensParen ls then
        if l.isKeyword .IIF then
          if cx.version.supports .iif then return none
          else
            record (.unsupported l.line .iif cx.version)
            return none
        else
          match castKind? l with
          | some kind => fragmentCast? cx deeper kind (l :: ls)
          | none => return none
      else return none

/-- Adds the item at the cursor to those found, of which the last comes first, or passes over one
lexeme. -/
def scanItem (found : List Expr) : Parser (List Expr) := do
  match ← fragmentItem? cx deeper with
  | some e => return e :: found
  | none =>
    advance 1
    return found

/-- A round of scanning up to a closing parenthesis; the value is the number of parentheses open
inside, and what has been found, the last first. -/
def parenRound (state : Nat × List Expr) : Parser (Option (Nat × List Expr)) := do
  let (depth, found) := state
  match ← ahead with
  | [] => return none
  | l :: _ =>
    if l.isMark .leftParen then
      advance 1
      return some (depth + 1, found)
    else if l.isMark .rightParen then
      advance 1
      if depth = 0 then return none else return some (depth - 1, found)
    else
      let found ← scanItem cx deeper found
      return some (depth, found)

/-- Scans behind an opening parenthesis, up to and including the closing one, or to the end of the
batch. -/
def parenFragment : Parser (List Expr) := do
  let (_, found) ← repeatWhile (parenRound cx deeper) (0, [])
  return found.reverse

/-- How far the scan of an unmodelled statement has come. -/
structure Scanning where
  /-- The parentheses open at this place. -/
  depth : Nat
  /-- The `CASE`s open at this place. -/
  cases : Nat
  /-- Whether the `SET` of an `UPDATE` has been passed. -/
  setSeen : Bool
  /-- What has been found, the last first. -/
  found : List Expr

/-- Whether a statement that is being scanned ends before a lexeme. Inside parentheses nothing
but the end of the batch ends it. Outside, `END` and `ELSE` may belong to an open `CASE`, and the
first `SET` to an `UPDATE`. -/
def Scanning.endsAt (inUpdate : Bool) (state : Scanning) (l : Lexeme) : Bool :=
  state.depth = 0 &&
    (l.isMark .semicolon || l.isMark .rightParen ||
      (l.startsStatement &&
        !((l.isKeyword .END || l.isKeyword .ELSE) && 0 < state.cases) &&
        !(l.isKeyword .SET && inUpdate && !state.setSeen)))

/-- A round of scanning an unmodelled statement. -/
def scanRound (inUpdate : Bool) (state : Scanning) : Parser (Option Scanning) := do
  match ← ahead with
  | [] => return none
  | l :: _ =>
    if state.endsAt inUpdate l then return none
    else
      let state :=
        { state with setSeen := state.setSeen || (state.depth = 0 && l.isKeyword .SET) }
      if l.isMark .leftParen then
        advance 1
        return some { state with depth := state.depth + 1 }
      else if l.isMark .rightParen then
        advance 1
        return some { state with depth := state.depth - 1 }
      else if l.isKeyword .CASE then
        advance 1
        return some { state with cases := state.cases + 1 }
      else if l.isKeyword .END && 0 < state.cases then
        advance 1
        return some { state with cases := state.cases - 1 }
      else
        let found ← scanItem cx deeper state.found
        return some { state with found }

/-- Scans what is left of an unmodelled statement. -/
def fragmentTail (inUpdate : Bool) : Parser (List Expr) := do
  let state ← repeatWhile (scanRound cx deeper inUpdate) ⟨0, 0, false, []⟩
  return state.found.reverse

/-- Scans an unmodelled statement. Its first lexeme belongs to it whatever it is. -/
def fragment : Parser (List Expr) := do
  match ← ahead with
  | [] => return []
  | l :: _ =>
    advance 1
    let items ← fragmentTail cx deeper (l.isKeyword .UPDATE)
    return (l.variableHere?.map Expr.var).toList ++ items

/-! ## Lists, calls and `CASE` -/

/-- Whether a subquery comes first. -/
def opensQuery (ls : List Lexeme) : Bool :=
  ls.head?.any fun l => l.isKeyword .SELECT || l.isKeyword .WITH

/-- Reads the expressions of a list, or scans a subquery, up to and including the closing
parenthesis. -/
def listOrQuery : Parser (List Expr) := do
  if opensQuery (← ahead) then parenFragment cx deeper
  else
    let items ← commaSeparated (deeper 0)
    expect cx .rightParen
    return items

/-- Reads the arguments of a call behind the opening parenthesis. Arguments that are no plain
expressions, as in `COUNT(DISTINCT x)`, are scanned instead. -/
def callArguments : Parser (List Expr) := do
  if ← eat .rightParen then return []
  else
    let start ← ahead
    tryCatch (listOrQuery cx deeper) fun _ => do
      moveTo start
      parenFragment cx deeper

/-- Scans `WITHIN GROUP (…)` if it comes next. -/
def withinGroup : Parser (List Expr) := do
  if ← eatKeyword .WITHIN then
    expectKeyword cx .GROUP
    expect cx .leftParen
    parenFragment cx deeper
  else return []

/-- Scans `OVER (…)` if it comes next. -/
def overWindow : Parser (List Expr) := do
  if ← eatKeyword .OVER then
    expect cx .leftParen
    parenFragment cx deeper
  else return []

/-- Scans `WITHIN GROUP (…)` and `OVER (…)` behind a call. -/
def windowClauses : Parser (List Expr) := do
  let within ← withinGroup cx deeper
  let window ← overWindow cx deeper
  return within ++ window

/-- Whether a period and a star come first. -/
def opensAllColumns : List Lexeme → Bool
  | dot :: star :: _ => dot.isMark .period && star.isMark .star
  | _ => false

/-- Moves past a period and a star if they come next. -/
def skipAllColumns : Parser Unit := do
  if opensAllColumns (← ahead) then advance 2

/-- Reads a name or a call. -/
def takeNamed : Parser Expr := do
  let name ← takeName cx .name
  skipAllColumns
  if ← eat .leftParen then
    let args ← callArguments cx deeper
    let more ← windowClauses cx deeper
    return .call name (args ++ more)
  else return .name name

/-- Reads what a `CASE` compares, unless its first branch comes next. -/
def caseInput : Parser (List Expr) := do
  if ← atNext (Lexeme.isKeyword .WHEN) then return []
  else
    let e ← deeper 0
    return [e]

/-- A round of reading the branches of a `CASE`. -/
def whenRound (items : List Expr) : Parser (Option (List Expr)) := do
  if ← eatKeyword .WHEN then
    let condition ← deeper 0
    expectKeyword cx .THEN
    let value ← deeper 0
    return some (items ++ [condition, value])
  else return none

/-- Reads the last branch of a `CASE` if there is one. -/
def caseElse : Parser (List Expr) := do
  if ← eatKeyword .ELSE then
    let e ← deeper 0
    return [e]
  else return []

/-- Reads `CASE [input] WHEN … THEN … [ELSE …] END`. -/
def takeCase : Parser Expr := do
  expectKeyword cx .CASE
  let input ← caseInput deeper
  let items ← repeatWhile (whenRound cx deeper) input
  let otherwise ← caseElse deeper
  expectKeyword cx .END
  return .parts (items ++ otherwise)

/-! ## Heads -/

/-- Reads a prefix operator's operand behind the operator. -/
def takeUnary (op : UnaryOp) : Parser Expr := do
  advance 1
  let operand ← deeper op.power
  return .unary op operand

/-- Reads what stands in parentheses: a subquery, a list or one expression. -/
def takeParen : Parser Expr := do
  advance 1
  if opensQuery (← ahead) then
    let items ← parenFragment cx deeper
    return .parts items
  else
    let inner ← deeper 0
    if ← eat .comma then
      let items ← listOrQuery cx deeper
      return .parts (inner :: items)
    else
      expect cx .rightParen
      return .paren inner

/-- Fails at a call of `IIF`, `ls` being what follows the word, unless the version has it. -/
def requireIif (ls : List Lexeme) : Parser Unit :=
  if opensParen ls then require cx .iif else pure ()

/-- Reads an expression that begins with the word `l`, `ls` being what follows it. -/
def takeWord (l : Lexeme) (ls : List Lexeme) : Parser Expr := do
  match l.variableHere? with
  | some v =>
    advance 1
    return .var v
  | none =>
    match l.dispatch? with
    | some .NULL =>
      advance 1
      return .null
    | some .NOT => takeUnary deeper .not
    | some .EXISTS => takeUnary deeper .existsRows
    | some .CASE => takeCase cx deeper
    | some .IIF =>
      requireIif cx ls
      takeNamed cx deeper
    | _ =>
      match if opensParen ls then castKind? l else none with
      | some kind => takeCast cx deeper kind
      | none => if l.startsStatement then unexpected cx else takeNamed cx deeper

/-- Reads the head of an expression: all but the infix operators. -/
def takeHead : Parser Expr := do
  match ← ahead with
  | [] => expected cx .expression
  | l :: ls =>
    match l.token with
    | .number digits _ =>
      advance 1
      return .number digits
    | .binary digits =>
      advance 1
      return .number digits
    | .string text =>
      advance 1
      return .string text false
    | .nationalString text =>
      advance 1
      return .string text true
    | .mark .minus => takeUnary deeper .minus
    | .mark .plus => takeUnary deeper .plus
    | .mark .tilde => takeUnary deeper .bitNot
    | .mark .star =>
      advance 1
      return .name ["*"]
    | .mark .leftParen => takeParen cx deeper
    | .word _ _ => takeWord cx deeper l ls
    | _ => unexpected cx

/-! ## Infix operators -/

/-- Reads the right operand of an infix operator. -/
def takeRight (op : BinaryOp) : Parser Expr := do
  match op with
  | .isNull =>
    let _ ← eatKeyword .NOT
    expectKeyword cx .NULL
    return .null
  | .isIn =>
    expect cx .leftParen
    let items ← listOrQuery cx deeper
    return .parts items
  | .between =>
    let low ← deeper op.rightPower
    expectKeyword cx .AND
    let high ← deeper op.rightPower
    return .parts [low, high]
  | .like =>
    let pattern ← deeper op.rightPower
    if ← eatKeyword .ESCAPE then
      let escape ← deeper op.rightPower
      return .parts [pattern, escape]
    else return pattern
  | _ => deeper op.rightPower

/-- A round of continuing an expression: a collation, which leaves no trace, or an infix operator
that binds strongly enough with its right operand. -/
def infixRound (minPower : Nat) (left : Expr) : Parser (Option Expr) := do
  if ← eatKeyword .COLLATE then
    expectAny cx .collation
    return some left
  else
    match BinaryOp.atStart? (← ahead) with
    | none => return none
    | some (op, width) =>
      if op.leftPower < minPower then return none
      else
        advance width
        let right ← takeRight cx deeper op
        return some (.binary op left right)

/-- Reads a head and the infix operators behind it that bind strongly enough. -/
def operatorChain (minPower : Nat) : Parser Expr := do
  let head ← takeHead cx deeper
  repeatWhile (infixRound cx deeper minPower) head

end

/-- Reads an expression with `levels` levels of nesting left, up to an operator that binds less
strongly than `minPower`. -/
def expr (cx : Context) : Nat → Nat → Parser Expr
  | 0, _ => tooDeep cx
  | levels + 1, minPower => operatorChain cx (expr cx levels) minPower

end Parser

end SqlLint
