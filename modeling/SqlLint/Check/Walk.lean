import SqlLint.Check.SymbolTable
import SqlLint.DataType.Assignment
import SqlLint.Syntax.Statement

/-!
# Walking over statements

The checks visit every statement once, in the order of the script, and carry along the symbols
declared so far, the diagnostics found so far, and whether `SET NOCOUNT ON` has been met in the
procedure being visited.
-/

namespace SqlLint

/-- The state of the checks. -/
structure Check where
  symbols : SymbolTable
  diagnostics : List Diagnostic
  /-- Whether row counts have been switched off in the current procedure. -/
  nocount : Bool
  deriving DecidableEq, Repr

namespace Check

/-- The state at the start. -/
def start : Check := ⟨.empty, [], false⟩

/-- The state with more diagnostics at the end. -/
def report (ds : List Diagnostic) (c : Check) : Check :=
  { c with diagnostics := c.diagnostics ++ ds }

/-- The state after a declaration. -/
def declare (v : Variable) (type : DataType) (c : Check) : Check :=
  { c with symbols := c.symbols.declare v.name type v.line }

/-! ## Types of expressions -/

/-- The type of an expression, as far as literals, declared variables, casts and arithmetic
give one. -/
def typeOf (symbols : SymbolTable) : Expr → DataType
  | .string text national =>
    .known (if national then .nVarChar else .varChar) (.explicit text.length)
  | .var v => (symbols.typeOf? v.name).getD .unknown
  | .cast _ _ target _ => (DataType.ofRef target).withDefaultLength implicitCastLength
  | .binary op left right =>
    if op.isArithmetic then (typeOf symbols left).meet (typeOf symbols right) else .unknown
  | .paren inner => typeOf symbols inner
  | _ => .unknown

/-! ## Expressions -/

/-- The use of a variable. The server's own variables need no declaration. In an argument
`@p = value`, the name `@p` inside the value is not looked up; it names the parameter. -/
def use (parameter : Option String) (v : Variable) (c : Check) : Check :=
  if v.isGlobal then c
  else if parameter.any fun p => Text.equalFold p v.name then c
  else if c.symbols.declares v.name then { c with symbols := c.symbols.reference v.name }
  else c.report [.undeclaredVariable v.line v.name]

/-- The remark on a cast to a character type without a length. -/
def castTarget (kind : CastKind) (target : TypeRef) (c : Check) : Check :=
  if (DataType.ofRef target).isUnsizedString then
    c.report [.convertWithoutLength target.line kind.keyword.text target.name]
  else c

mutual

/-- Visits an expression; `parameter` is the name of the argument whose value it is part of. -/
def expr (parameter : Option String) : Expr → Check → Check
  | .var v, c => use parameter v c
  | .cast kind operand target style, c =>
    optionalExpr parameter style (expr parameter operand (castTarget kind target c))
  | .binary _ left right, c => expr parameter right (expr parameter left c)
  | .unary _ operand, c => expr parameter operand c
  | .paren inner, c => expr parameter inner c
  | .call _ args, c => exprs parameter args c
  | .parts items, c => exprs parameter items c
  | .string _ _, c => c
  | .number _, c => c
  | .null, c => c
  | .name _, c => c

/-- Visits expressions in order. -/
def exprs (parameter : Option String) : List Expr → Check → Check
  | [], c => c
  | e :: es, c => exprs parameter es (expr parameter e c)

/-- Visits an expression if there is one. -/
def optionalExpr (parameter : Option String) : Option Expr → Check → Check
  | none, c => c
  | some e, c => expr parameter e c

end

/-! ## Declarations and assignments -/

/-- The declaration of a variable or parameter of a type. -/
def declareTyped (v : Variable) (type : DataType) (c : Check) : Check :=
  let c := if type.isUnsizedString then c.report [.implicitLength v.line v.name] else c
  c.declare v type

/-- Visits a declaration. An initial value is checked like an assigned one, at the line of the
type. -/
def declaration (d : Declaration) (c : Check) : Check :=
  match d with
  | .table name => c.declare name .unknown
  | .scalar name type value =>
    let declared := DataType.ofRef type
    let c := c.declareTyped name declared
    match value with
    | none => c
    | some e =>
      let c := expr none e c
      c.report (assignmentDiagnostics type.line name.name declared (typeOf c.symbols e))

/-- Visits a parameter. -/
def parameter (p : Parameter) (c : Check) : Check :=
  optionalExpr none p.default (c.declareTyped p.name (.ofRef p.type))

/-- The type of what a compound or plain assignment stores. -/
def storedType (op : Option BinaryOp) (target value : DataType) : DataType :=
  match op with
  | none => value
  | some op => if op.isArithmetic then target.meet value else .unknown

/-- Visits an assignment. If the target is not declared, its use has been reported and there is
nothing to compare. -/
def setVariable (target : Variable) (op : Option BinaryOp) (value : Expr) (c : Check) : Check :=
  let c := expr none value (c.use none target)
  match c.symbols.typeOf? target.name with
  | none => c
  | some type =>
    let source := storedType op type (typeOf c.symbols value)
    c.report (assignmentDiagnostics target.line target.name type source)

/-- Visits the options of `SET`. -/
def setOption (options : List String) (on : Bool) (c : Check) : Check :=
  if on && options.contains "NOCOUNT" then { c with nocount := true } else c

/-! ## Calls -/

/-- Visits an argument of a call. -/
def argument (a : Argument) (c : Check) : Check :=
  optionalExpr (a.name.map (·.name)) a.value c

/-- Visits the variable that takes the status of a call, if there is one. -/
def status : Option Variable → Check → Check
  | some v, c => c.use none v
  | none, c => c

/-- Visits a call. -/
def execution (e : Execution) (c : Check) : Check :=
  e.arguments.foldl (fun c a => c.argument a) (expr none e.procedure (status e.status c))

/-! ## Statements -/

/-- The remark on the name of a procedure. -/
def procedureName (name : String) (line : Nat) (c : Check) : Check :=
  match (Text.lowerCase name).toList with
  | 's' :: 'p' :: '_' :: _ => c.report [.procedureWithSpPrefix line name]
  | _ => c

/-- The remark on a procedure whose body has been visited, which then no longer matters for row
counts. -/
def closeProcedure (name : String) (line : Nat) (outer : Bool) (c : Check) : Check :=
  let c := if c.nocount then c else c.report [.procedureWithoutNoCount line name]
  { c with nocount := outer }

mutual

/-- Visits a statement. -/
def statement : Statement → Check → Check
  | .declare items, c => items.foldl (fun c d => c.declaration d) c
  | .setVariable target op value, c => c.setVariable target op value
  | .setOption _ options on, c => c.setOption options on
  | .procedure name line parameters body, c =>
    let opened := parameters.foldl (fun c p => c.parameter p) (c.procedureName (baseName name) line)
    (statements body { opened with nocount := false }).closeProcedure (baseName name) line c.nocount
  | .function _ _ parameters result body, c =>
    let opened := parameters.foldl (fun c p => c.parameter p) c
    let opened := match result with
      | some v => opened.declare v .unknown
      | none => opened
    { statements body { opened with nocount := false } with nocount := c.nocount }
  | .execute call, c => c.execution call
  | .block body, c => statements body c
  | .conditional condition body otherwise, c =>
    optionalStatement otherwise (statement body (expr none condition c))
  | .returns value, c => optionalExpr none value c
  | .other items, c => exprs none items c

/-- Visits statements in order. -/
def statements : List Statement → Check → Check
  | [], c => c
  | s :: ss, c => statements ss (statement s c)

/-- Visits a statement if there is one. -/
def optionalStatement : Option Statement → Check → Check
  | none, c => c
  | some s, c => statement s c

end

/-! ## Batches -/

/-- The diagnostics for symbols that have not been used. -/
def unusedDiagnostics (symbols : SymbolTable) : List Diagnostic :=
  symbols.unreferenced.map fun s => .unusedVariable s.line s.name

/-- Visits a batch. It begins and ends without symbols, and what is declared and not used in it
is reported at its end. -/
def batch (b : Batch) (c : Check) : Check :=
  let visited := statements b.statements { c with symbols := .empty, nocount := false }
  { visited.report (unusedDiagnostics visited.symbols) with
    symbols := .empty, nocount := c.nocount }

/-- Visits batches in order. -/
def script (batches : List Batch) (c : Check) : Check :=
  batches.foldl (fun c b => c.batch b) c

end Check

end SqlLint
