import SqlLint.Parse.Expr
import SqlLint.Syntax.Statement

/-!
# Reading statements

Statements are chosen by their first word. Those that declare, assign, call or control are read
with their structure, and every other one is scanned as a fragment.

As with expressions, each function is given the readers one level deeper, and `statement` ties
the knot with a limited number of levels. A list of statements never fails: an error is recorded
and reading goes on at the next place where a statement can begin.
-/

namespace SqlLint

namespace Parser

/-! ## Places between statements -/

/-- Whether a statement ends here: at the end of the batch, a semicolon or the first word of the
next statement. -/
def endsStatement (ls : List Lexeme) : Bool :=
  ls.head?.all fun l => l.isMark .semicolon || l.startsStatement

/-- Where the next statement can begin, `depth` parentheses being open: at a semicolon or a
starting word outside parentheses. -/
def skipToStatement (depth : Nat) : List Lexeme → List Lexeme
  | [] => []
  | l :: ls =>
    if l.isMark .leftParen then skipToStatement (depth + 1) ls
    else if l.isMark .rightParen then skipToStatement (depth - 1) ls
    else if depth = 0 && (l.isMark .semicolon || l.startsStatement) then l :: ls
    else skipToStatement depth ls

/-- Moves to where reading goes on after a statement failed that began at `start`. Its first lexeme
is passed over even if the failure did not pass it. -/
def recover (start : List Lexeme) : Parser Unit := do
  if start.length ≤ (← ahead).length then moveBehind start
  moveTo (skipToStatement 0 (← ahead))

/-- Moves past all semicolons that come next. -/
def skipSemicolons (ls : List Lexeme) : List Lexeme :=
  ls.dropWhile (Lexeme.isMark .semicolon)

section

variable (cx : Context) (expr : Nat → Parser Expr) (statement : Parser Statement)

/-! ## Lists of statements -/

/-- Reads one statement of a list that goes on; an error is recorded and recovered from. -/
def listItem (done : List Statement) : Parser (List Statement) := do
  let start ← ahead
  tryCatch (do return (← statement) :: done) fun e => do
    record e
    recover start
    return done

/-- A round of reading a list of statements that ends before a lexeme of a certain sort. The last
statement read comes first. -/
def listRound (stop : Lexeme → Bool) (done : List Statement) :
    Parser (Option (List Statement)) := do
  match ← ahead with
  | [] => return none
  | l :: _ =>
    if stop l then return none
    else if l.isMark .semicolon then
      advance 1
      return some done
    else
      let done ← listItem statement done
      return some done

/-- Reads statements up to a lexeme of a certain sort or the end of the batch. -/
def statementList (stop : Lexeme → Bool) : Parser (List Statement) := do
  let done ← repeatWhile (listRound statement stop) []
  return done.reverse

/-! ## Declarations and assignments -/

/-- Scans a statement that has no structure here. -/
def otherStatement : Parser Statement := do
  let items ← fragment cx expr
  return .other items

/-- Reads one declaration. -/
def takeDeclaration : Parser Declaration := do
  let name ← takeVariable cx
  let _ ← eatKeyword .AS
  if ← eatKeyword .TABLE then
    expect cx .leftParen
    let _ ← parenFragment cx expr
    return .table name
  else if ← eatKeyword .CURSOR then return .table name
  else
    let type ← takeTypeRef cx
    if ← atNext (Lexeme.isMark .eq) then
      require cx .declareInitializer
      advance 1
      let value ← expr 0
      return .scalar name type (some value)
    else return .scalar name type none

/-- Reads `DECLARE`. Without a variable behind it, it declares a cursor and is scanned. -/
def takeDeclare : Parser Statement := do
  match (← ahead)[1]?.bind Lexeme.variableHere? with
  | none => otherStatement cx expr
  | some _ =>
    expectKeyword cx .DECLARE
    let items ← commaSeparated (takeDeclaration cx expr)
    return .declare items

/-- The names of options, each behind a comma but the first, and what follows them. -/
def optionNames : List Lexeme → List String × List Lexeme
  | [] => ([], [])
  | l :: ls =>
    match l.token.plainWord? with
    | none => ([], l :: ls)
    | some text =>
      if l.isKeyword .ON || l.isKeyword .OFF then ([], l :: ls)
      else
        match ls with
        | [] => ([Text.upperCase text], [])
        | c :: cs =>
          if c.isMark .comma then
            let (names, after) := optionNames cs
            (Text.upperCase text :: names, after)
          else ([Text.upperCase text], c :: cs)

/-- The switch at the start of a list of lexemes. -/
def switch? (ls : List Lexeme) : Option Bool :=
  match ls.head?.bind Lexeme.keyword? with
  | some .ON => some true
  | some .OFF => some false
  | _ => none

/-- Reads `SET` with options that are switched on or off. Any other form is scanned. -/
def takeSetOption : Parser Statement := do
  let start ← ahead
  expectKeyword cx .SET
  let (options, after) := optionNames (← ahead)
  match switch? after with
  | some on =>
    if options.isEmpty then
      moveTo start
      otherStatement cx expr
    else
      moveBehind after
      return .setOption (cx.lineAt start) options on
  | none =>
    moveTo start
    otherStatement cx expr

/-- Reads the operator of an assignment, none for a plain one. -/
def takeAssignment : Parser (Option BinaryOp) := do
  match ← ahead with
  | l :: ls =>
    if l.isMark .eq then
      advance 1
      return none
    else
      match BinaryOp.ofCompound? l.token with
      | some op =>
        if ls.head?.any (Lexeme.isMark .eq) then
          require cx .compoundAssignment
          advance 2
          return some op
        else expected cx (.mark .eq)
      | none => expected cx (.mark .eq)
  | [] => expected cx (.mark .eq)

/-- Reads `SET`. -/
def takeSet : Parser Statement := do
  match (← ahead)[1]?.bind Lexeme.variableHere? with
  | none => takeSetOption cx expr
  | some target =>
    advance 2
    let op ← takeAssignment cx
    if ← atNext (Lexeme.isKeyword .CURSOR) then
      let items ← fragment cx expr
      return .setVariable target op (.parts items)
    else
      let value ← expr 0
      return .setVariable target op value

/-! ## Calls -/

/-- The variable before an equals sign, if the two come next. -/
def assigned? : List Lexeme → Option Variable
  | l :: next :: _ => if next.isMark .eq then l.variableHere? else none
  | _ => none

/-- Reads a variable and an equals sign if the two come next. -/
def takeAssigned : Parser (Option Variable) := do
  match assigned? (← ahead) with
  | some v =>
    advance 2
    return some v
  | none => return none

/-- Moves past a semicolon and the number of a procedure in its group. -/
def skipProcedureNumber : Parser Unit := do
  match ← ahead with
  | l :: next :: _ => if l.isMark .semicolon && next.isNumber then advance 2
  | _ => pure ()

/-- Reads the value of an argument, none if the default is asked for. -/
def takeArgumentValue : Parser (Option Expr) := do
  if ← eatKeyword .DEFAULT then return none
  else
    let e ← expr 0
    return some e

/-- Reads an argument of a call. -/
def takeArgument : Parser Argument := do
  let name ← takeAssigned
  let value ← takeArgumentValue expr
  let output ← eatIf fun l => l.isKeyword .OUTPUT || l.isKeyword .OUT
  return { name, value, output }

/-- Reads the procedure that is called: a name, or a variable that holds one. -/
def takeProcedure : Parser Expr := do
  match ← nextVariable? with
  | some v =>
    advance 1
    return .var v
  | none =>
    let name ← takeName cx .name
    return .name name

/-- Reads the arguments of a call if there are any. -/
def takeArguments : Parser (List Argument) := do
  let ls ← ahead
  if endsStatement ls || ls.head?.any (Lexeme.isKeyword .WITH) then return []
  else commaSeparated (takeArgument expr)

/-- Scans `WITH` and what follows it in a call, if it comes next; nothing in it is kept. -/
def skipCallOptions : Parser Unit := do
  if ← atNext (Lexeme.isKeyword .WITH) then
    let _ ← fragment cx expr
    pure ()

/-- Reads `EXEC`. A string in parentheses is scanned. -/
def takeExecute : Parser Statement := do
  let line := cx.lineAt (← ahead)
  advance 1
  if ← eat .leftParen then
    let inside ← parenFragment cx expr
    let behind ← fragmentTail cx expr false
    return .other (inside ++ behind)
  else
    let status ← takeAssigned
    let procedure ← takeProcedure cx
    skipProcedureNumber
    let arguments ← takeArguments expr
    skipCallOptions cx expr
    return .execute { line, status, procedure, arguments }

/-! ## Procedures and functions -/

/-- The marks behind a parameter: whether one of them makes it an output parameter, and what
follows them. -/
def outputMarks : List Lexeme → Bool × List Lexeme
  | [] => (false, [])
  | l :: ls =>
    if l.isKeyword .OUT || l.isKeyword .OUTPUT then (true, (outputMarks ls).2)
    else if l.isKeyword .READONLY then outputMarks ls
    else (false, l :: ls)

/-- Reads the default of a parameter if there is one. -/
def takeDefault : Parser (Option Expr) := do
  if ← eat .eq then
    let e ← expr 0
    return some e
  else return none

/-- Reads a parameter. -/
def takeParameter : Parser Parameter := do
  let name ← takeVariable cx
  let _ ← eatKeyword .AS
  let type ← takeTypeRef cx
  let _ ← eatKeyword .VARYING
  let default ← takeDefault expr
  let (output, after) := outputMarks (← ahead)
  moveTo after
  return { name, type, default, output }

/-- Reads parameters if a variable comes next. -/
def takeParameters : Parser (List Parameter) := do
  match ← nextVariable? with
  | some _ => commaSeparated (takeParameter cx expr)
  | none => return []

/-- Moves past an option of a procedure or function. -/
def skipRoutineOption : Parser Unit := do
  if ← eatIf fun l => l.isKeyword .EXECUTE || l.isKeyword .EXEC then
    expectKeyword cx .AS
    expectAny cx .principal
  else
    unless ← eatIf fun l => l.token.plainWord?.isSome do expected cx .procedureOption

/-- Moves past `WITH` and the options behind it, if they come next. -/
def skipRoutineOptions : Parser Unit := do
  if ← eatKeyword .WITH then
    let _ ← commaSeparated (skipRoutineOption cx)
    pure ()

/-- Reads the parameters of a procedure, which may stand in parentheses. -/
def takeProcedureParameters : Parser (List Parameter) := do
  if ← eat .leftParen then
    let parameters ← takeParameters cx expr
    expect cx .rightParen
    return parameters
  else takeParameters cx expr

/-- Moves past `FOR REPLICATION` if it comes next. -/
def skipForReplication : Parser Unit := do
  if ← eatKeyword .FOR then expectKeyword cx .REPLICATION

/-- Reads a procedure behind `CREATE PROCEDURE`; `line` is the line of `CREATE`. The body is the
rest of the batch. -/
def takeProcedureDefinition (line : Nat) : Parser Statement := do
  let name ← takeName cx .name
  skipProcedureNumber
  let parameters ← takeProcedureParameters cx expr
  skipRoutineOptions cx
  skipForReplication cx
  expectKeyword cx .AS
  let body ← statementList statement fun _ => false
  return .procedure name line parameters body

/-- Reads what a function returns: the variable of a table, or nothing that is kept. -/
def takeResult : Parser (Option Variable) := do
  match ← nextVariable? with
  | some v =>
    advance 1
    expectKeyword cx .TABLE
    expect cx .leftParen
    let _ ← parenFragment cx expr
    return some v
  | none =>
    if ← eatKeyword .TABLE then return none
    else
      let _ ← takeTypeRef cx
      return none

/-- Reads a function behind `CREATE FUNCTION`; `line` is the line of `CREATE`. -/
def takeFunctionDefinition (line : Nat) : Parser Statement := do
  let name ← takeName cx .name
  expect cx .leftParen
  let parameters ← takeParameters cx expr
  expect cx .rightParen
  expectKeyword cx .RETURNS
  let result ← takeResult cx expr
  skipRoutineOptions cx
  let _ ← eatKeyword .AS
  let body ← statementList statement fun _ => false
  return .function name line parameters result body

/-- Whether `OR ALTER` stands behind the first word. -/
def isOrAlter (ls : List Lexeme) : Bool :=
  !(ls.head?.any (Lexeme.isKeyword .ALTER)) &&
    (ls[1]?.any (Lexeme.isKeyword .OR) && ls[2]?.any (Lexeme.isKeyword .ALTER))

/-- Fails at `CREATE OR ALTER` unless the version has it. -/
def requireOrAlter (orAlter : Bool) : Parser Unit :=
  if orAlter then require cx .createOrAlter else pure ()

/-- Reads `CREATE`, `ALTER` or `CREATE OR ALTER` of a procedure or function. Anything else that is
created is scanned. -/
def takeCreate : Parser Statement := do
  let ls ← ahead
  let line := cx.lineAt ls
  let orAlter := isOrAlter ls
  let offset := if orAlter then 3 else 1
  match ls[offset]?.bind Lexeme.keyword? with
  | some .FUNCTION =>
    requireOrAlter cx orAlter
    advance (offset + 1)
    takeFunctionDefinition cx expr statement line
  | some .PROC =>
    requireOrAlter cx orAlter
    advance (offset + 1)
    takeProcedureDefinition cx expr statement line
  | some .PROCEDURE =>
    requireOrAlter cx orAlter
    advance (offset + 1)
    takeProcedureDefinition cx expr statement line
  | _ => otherStatement cx expr

/-! ## Control flow -/

/-- The words behind `BEGIN` that do not begin a block. -/
def beginsNoBlock : Keyword → Bool
  | .TRAN | .TRANSACTION | .DISTRIBUTED | .DIALOG | .CONVERSATION => true
  | _ => false

/-- The word that a block carries behind both `BEGIN` and `END`. -/
def takeBlockLabel : Parser (Option Keyword) := do
  if ← eatKeyword .TRY then return some .TRY
  else if ← eatKeyword .CATCH then return some .CATCH
  else return none

/-- Moves past the word that the block began with, if it began with one. -/
def expectBlockLabel : Option Keyword → Parser Unit
  | some k => expectKeyword cx k
  | none => pure ()

/-- Reads `BEGIN … END`. -/
def takeBegin : Parser Statement := do
  if ((← ahead)[1]?.bind Lexeme.keyword?).any beginsNoBlock then otherStatement cx expr
  else
    expectKeyword cx .BEGIN
    let label ← takeBlockLabel
    let body ← statementList statement (Lexeme.isKeyword .END)
    expectKeyword cx .END
    expectBlockLabel cx label
    return .block body

/-- Reads the statement that `IF`, `ELSE` or `WHILE` controls. -/
def takeBody : Parser Statement := do
  match skipSemicolons (← ahead) with
  | [] =>
    moveTo []
    expected cx .statement
  | rest =>
    moveTo rest
    statement

/-- Reads `IF`. Semicolons may stand before its `ELSE`. -/
def takeIf : Parser Statement := do
  expectKeyword cx .IF
  let condition ← expr 0
  let body ← takeBody cx statement
  match skipSemicolons (← ahead) with
  | l :: rest =>
    if l.isKeyword .ELSE then
      moveBehind (l :: rest)
      let otherwise ← takeBody cx statement
      return .conditional condition body (some otherwise)
    else return .conditional condition body none
  | [] => return .conditional condition body none

/-- Reads `WHILE`. -/
def takeWhile : Parser Statement := do
  expectKeyword cx .WHILE
  let condition ← expr 0
  let body ← takeBody cx statement
  return .conditional condition body none

/-- Reads `RETURN`. -/
def takeReturn : Parser Statement := do
  expectKeyword cx .RETURN
  if endsStatement (← ahead) then return .returns none
  else
    let value ← expr 0
    return .returns (some value)

/-- Whether a lexeme can begin the columns of a `SELECT`. -/
def opensColumns (l : Lexeme) : Bool :=
  match l.token with
  | .word _ _ => true
  | .number _ _ => true
  | .string _ => true
  | .nationalString _ => true
  | .binary _ => true
  | .mark .leftParen => true
  | .mark .star => true
  | .mark .minus => true
  | .mark .plus => true
  | .mark .tilde => true
  | _ => false

/-- Scans a `SELECT` whose columns begin with something that can begin an expression. -/
def takeSelect : Parser Statement := do
  if (← ahead)[1]?.any opensColumns then otherStatement cx expr
  else
    advance 1
    unexpected cx

/-- Reads a statement chosen by its first word. -/
def takeStatement : Parser Statement := do
  match (← ahead).head?.bind Lexeme.dispatch? with
  | some .DECLARE => takeDeclare cx expr
  | some .SET => takeSet cx expr
  | some .EXEC => takeExecute cx expr
  | some .EXECUTE => takeExecute cx expr
  | some .CREATE => takeCreate cx expr statement
  | some .ALTER => takeCreate cx expr statement
  | some .BEGIN => takeBegin cx expr statement
  | some .IF => takeIf cx expr statement
  | some .WHILE => takeWhile cx expr statement
  | some .RETURN => takeReturn cx expr
  | some .SELECT => takeSelect cx expr
  | some .ELSE => unexpected cx
  | some .END => unexpected cx
  | _ => otherStatement cx expr

end

/-- Reads a statement with `levels` levels of nesting left. -/
def statement (cx : Context) : Nat → Parser Statement
  | 0 => tooDeep cx
  | levels + 1 => takeStatement cx (expr cx levels) (statement cx levels)

end Parser

end SqlLint
