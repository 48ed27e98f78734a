/-!
# Key words

The words that the reader of scripts reacts to. Which word is a key word is decided by its text
alone, so a key word is also a possible name wherever a name may stand.
-/

namespace SqlLint

/-- The words with a meaning of their own. The first group begins statements. -/
inductive Keyword where
  | ALTER | BEGIN | BREAK | CLOSE | COMMIT | CONTINUE | CREATE | DEALLOCATE | DECLARE | DELETE
  | DENY | DROP | ELSE | END | EXEC | EXECUTE | FETCH | GOTO | GRANT | IF | INSERT | MERGE | OPEN
  | PRINT | RAISERROR | RETURN | REVOKE | ROLLBACK | SAVE | SELECT | SET | THROW | TRUNCATE
  | UPDATE | USE | WAITFOR | WHILE
  | AND | AS | BETWEEN | CASE | CAST | CATCH | COLLATE | CONVERSATION | CONVERT | CURSOR | DEFAULT
  | DIALOG | DISTRIBUTED | ESCAPE | EXISTS | FOR | FUNCTION | GO | GROUP | IIF | IN | IS | LIKE
  | NOT | NULL | OFF | ON | OR | OUT | OUTPUT | OVER | PRECISION | PROC | PROCEDURE | READONLY
  | REPLICATION | RETURNS | TABLE | THEN | TRAN | TRANSACTION | TRY | TRY_CAST | TRY_CONVERT
  | VARYING | WHEN | WITH | WITHIN
  deriving DecidableEq, Repr

namespace Keyword

/-- The words that begin a statement. Outside parentheses each of them also ends the statement
before it. -/
def starters : List Keyword :=
  [ALTER, BEGIN, BREAK, CLOSE, COMMIT, CONTINUE, CREATE, DEALLOCATE, DECLARE, DELETE, DENY, DROP,
   ELSE, END, EXEC, EXECUTE, FETCH, GOTO, GRANT, IF, INSERT, MERGE, OPEN, PRINT, RAISERROR,
   RETURN, REVOKE, ROLLBACK, SAVE, SELECT, SET, THROW, TRUNCATE, UPDATE, USE, WAITFOR, WHILE]

/-- Every key word. -/
def all : List Keyword :=
  starters ++
  [AND, AS, BETWEEN, CASE, CAST, CATCH, COLLATE, CONVERSATION, CONVERT, CURSOR, DEFAULT, DIALOG,
   DISTRIBUTED, ESCAPE, EXISTS, FOR, FUNCTION, GO, GROUP, IIF, IN, IS, LIKE, NOT, NULL, OFF, ON,
   OR, OUT, OUTPUT, OVER, PRECISION, PROC, PROCEDURE, READONLY, REPLICATION, RETURNS, TABLE, THEN,
   TRAN, TRANSACTION, TRY, TRY_CAST, TRY_CONVERT, VARYING, WHEN, WITH, WITHIN]

/-- The key word in upper case. -/
def text : Keyword → String
  | ALTER => "ALTER"
  | BEGIN => "BEGIN"
  | BREAK => "BREAK"
  | CLOSE => "CLOSE"
  | COMMIT => "COMMIT"
  | CONTINUE => "CONTINUE"
  | CREATE => "CREATE"
  | DEALLOCATE => "DEALLOCATE"
  | DECLARE => "DECLARE"
  | DELETE => "DELETE"
  | DENY => "DENY"
  | DROP => "DROP"
  | ELSE => "ELSE"
  | END => "END"
  | EXEC => "EXEC"
  | EXECUTE => "EXECUTE"
  | FETCH => "FETCH"
  | GOTO => "GOTO"
  | GRANT => "GRANT"
  | IF => "IF"
  | INSERT => "INSERT"
  | MERGE => "MERGE"
  | OPEN => "OPEN"
  | PRINT => "PRINT"
  | RAISERROR => "RAISERROR"
  | RETURN => "RETURN"
  | REVOKE => "REVOKE"
  | ROLLBACK => "ROLLBACK"
  | SAVE => "SAVE"
  | SELECT => "SELECT"
  | SET => "SET"
  | THROW => "THROW"
  | TRUNCATE => "TRUNCATE"
  | UPDATE => "UPDATE"
  | USE => "USE"
  | WAITFOR => "WAITFOR"
  | WHILE => "WHILE"
  | AND => "AND"
  | AS => "AS"
  | BETWEEN => "BETWEEN"
  | CASE => "CASE"
  | CAST => "CAST"
  | CATCH => "CATCH"
  | COLLATE => "COLLATE"
  | CONVERSATION => "CONVERSATION"
  | CONVERT => "CONVERT"
  | CURSOR => "CURSOR"
  | DEFAULT => "DEFAULT"
  | DIALOG => "DIALOG"
  | DISTRIBUTED => "DISTRIBUTED"
  | ESCAPE => "ESCAPE"
  | EXISTS => "EXISTS"
  | FOR => "FOR"
  | FUNCTION => "FUNCTION"
  | GO => "GO"
  | GROUP => "GROUP"
  | IIF => "IIF"
  | IN => "IN"
  | IS => "IS"
  | LIKE => "LIKE"
  | NOT => "NOT"
  | NULL => "NULL"
  | OFF => "OFF"
  | ON => "ON"
  | OR => "OR"
  | OUT => "OUT"
  | OUTPUT => "OUTPUT"
  | OVER => "OVER"
  | PRECISION => "PRECISION"
  | PROC => "PROC"
  | PROCEDURE => "PROCEDURE"
  | READONLY => "READONLY"
  | REPLICATION => "REPLICATION"
  | RETURNS => "RETURNS"
  | TABLE => "TABLE"
  | THEN => "THEN"
  | TRAN => "TRAN"
  | TRANSACTION => "TRANSACTION"
  | TRY => "TRY"
  | TRY_CAST => "TRY_CAST"
  | TRY_CONVERT => "TRY_CONVERT"
  | VARYING => "VARYING"
  | WHEN => "WHEN"
  | WITH => "WITH"
  | WITHIN => "WITHIN"

/-- The letters of the key word. -/
def spelling : Keyword → List Char
  | ALTER => ['A', 'L', 'T', 'E', 'R']
  | BEGIN => ['B', 'E', 'G', 'I', 'N']
  | BREAK => ['B', 'R', 'E', 'A', 'K']
  | CLOSE => ['C', 'L', 'O', 'S', 'E']
  | COMMIT => ['C', 'O', 'M', 'M', 'I', 'T']
  | CONTINUE => ['C', 'O', 'N', 'T', 'I', 'N', 'U', 'E']
  | CREATE => ['C', 'R', 'E', 'A', 'T', 'E']
  | DEALLOCATE => ['D', 'E', 'A', 'L', 'L', 'O', 'C', 'A', 'T', 'E']
  | DECLARE => ['D', 'E', 'C', 'L', 'A', 'R', 'E']
  | DELETE => ['D', 'E', 'L', 'E', 'T', 'E']
  | DENY => ['D', 'E', 'N', 'Y']
  | DROP => ['D', 'R', 'O', 'P']
  | ELSE => ['E', 'L', 'S', 'E']
  | END => ['E', 'N', 'D']
  | EXEC => ['E', 'X', 'E', 'C']
  | EXECUTE => ['E', 'X', 'E', 'C', 'U', 'T', 'E']
  | FETCH => ['F', 'E', 'T', 'C', 'H']
  | GOTO => ['G', 'O', 'T', 'O']
  | GRANT => ['G', 'R', 'A', 'N', 'T']
  | IF => ['I', 'F']
  | INSERT => ['I', 'N', 'S', 'E', 'R', 'T']
  | MERGE => ['M', 'E', 'R', 'G', 'E']
  | OPEN => ['O', 'P', 'E', 'N']
  | PRINT => ['P', 'R', 'I', 'N', 'T']
  | RAISERROR => ['R', 'A', 'I', 'S', 'E', 'R', 'R', 'O', 'R']
  | RETURN => ['R', 'E', 'T', 'U', 'R', 'N']
  | REVOKE => ['R', 'E', 'V', 'O', 'K', 'E']
  | ROLLBACK => ['R', 'O', 'L', 'L', 'B', 'A', 'C', 'K']
  | SAVE => ['S', 'A', 'V', 'E']
  | SELECT => ['S', 'E', 'L', 'E', 'C', 'T']
  | SET => ['S', 'E', 'T']
  | THROW => ['T', 'H', 'R', 'O', 'W']
  | TRUNCATE => ['T', 'R', 'U', 'N', 'C', 'A', 'T', 'E']
  | UPDATE => ['U', 'P', 'D', 'A', 'T', 'E']
  | USE => ['U', 'S', 'E']
  | WAITFOR => ['W', 'A', 'I', 'T', 'F', 'O', 'R']
  | WHILE => ['W', 'H', 'I', 'L', 'E']
  | AND => ['A', 'N', 'D']
  | AS => ['A', 'S']
  | BETWEEN => ['B', 'E', 'T', 'W', 'E', 'E', 'N']
  | CASE => ['C', 'A', 'S', 'E']
  | CAST => ['C', 'A', 'S', 'T']
  | CATCH => ['C', 'A', 'T', 'C', 'H']
  | COLLATE => ['C', 'O', 'L', 'L', 'A', 'T', 'E']
  | CONVERSATION => ['C', 'O', 'N', 'V', 'E', 'R', 'S', 'A', 'T', 'I', 'O', 'N']
  | CONVERT => ['C', 'O', 'N', 'V', 'E', 'R', 'T']
  | CURSOR => ['C', 'U', 'R', 'S', 'O', 'R']
  | DEFAULT => ['D', 'E', 'F', 'A', 'U', 'L', 'T']
  | DIALOG => ['D', 'I', 'A', 'L', 'O', 'G']
  | DISTRIBUTED => ['D', 'I', 'S', 'T', 'R', 'I', 'B', 'U', 'T', 'E', 'D']
  | ESCAPE => ['E', 'S', 'C', 'A', 'P', 'E']
  | EXISTS => ['E', 'X', 'I', 'S', 'T', 'S']
  | FOR => ['F', 'O', 'R']
  | FUNCTION => ['F', 'U', 'N', 'C', 'T', 'I', 'O', 'N']
  | GO => ['G', 'O']
  | GROUP => ['G', 'R', 'O', 'U', 'P']
  | IIF => ['I', 'I', 'F']
  | IN => ['I', 'N']
  | IS => ['I', 'S']
  | LIKE => ['L', 'I', 'K', 'E']
  | NOT => ['N', 'O', 'T']
  | NULL => ['N', 'U', 'L', 'L']
  | OFF => ['O', 'F', 'F']
  | ON => ['O', 'N']
  | OR => ['O', 'R']
  | OUT => ['O', 'U', 'T']
  | OUTPUT => ['O', 'U', 'T', 'P', 'U', 'T']
  | OVER => ['O', 'V', 'E', 'R']
  | PRECISION => ['P', 'R', 'E', 'C', 'I', 'S', 'I', 'O', 'N']
  | PROC => ['P', 'R', 'O', 'C']
  | PROCEDURE => ['P', 'R', 'O', 'C', 'E', 'D', 'U', 'R', 'E']
  | READONLY => ['R', 'E', 'A', 'D', 'O', 'N', 'L', 'Y']
  | REPLICATION => ['R', 'E', 'P', 'L', 'I', 'C', 'A', 'T', 'I', 'O', 'N']
  | RETURNS => ['R', 'E', 'T', 'U', 'R', 'N', 'S']
  | TABLE => ['T', 'A', 'B', 'L', 'E']
  | THEN => ['T', 'H', 'E', 'N']
  | TRAN => ['T', 'R', 'A', 'N']
  | TRANSACTION => ['T', 'R', 'A', 'N', 'S', 'A', 'C', 'T', 'I', 'O', 'N']
  | TRY => ['T', 'R', 'Y']
  | TRY_CAST => ['T', 'R', 'Y', '_', 'C', 'A', 'S', 'T']
  | TRY_CONVERT => ['T', 'R', 'Y', '_', 'C', 'O', 'N', 'V', 'E', 'R', 'T']
  | VARYING => ['V', 'A', 'R', 'Y', 'I', 'N', 'G']
  | WHEN => ['W', 'H', 'E', 'N']
  | WITH => ['W', 'I', 'T', 'H']
  | WITHIN => ['W', 'I', 'T', 'H', 'I', 'N']

theorem spelling_eq (k : Keyword) : k.spelling = k.text.toList := by
  cases k <;> decide +kernel

/-- The key word with a spelling, which has to be in upper case. -/
def ofSpelling? (cs : List Char) : Option Keyword :=
  all.find? fun k => k.spelling == cs

theorem ofSpelling?_spelling (k : Keyword) : ofSpelling? k.spelling = some k := by
  cases k <;> decide +kernel

/-- A spelling is that of the key word found for it. -/
theorem spelling_of_ofSpelling? {cs : List Char} {k : Keyword} (h : ofSpelling? cs = some k) :
    k.spelling = cs := by
  simpa using List.find?_some h

/-- Key words are told apart by their spelling. -/
theorem spelling_injective {k l : Keyword} (h : k.spelling = l.spelling) : k = l := by
  have hk := ofSpelling?_spelling k
  rw [h, ofSpelling?_spelling l] at hk
  exact (Option.some.inj hk).symm

/-- Whether the word begins a statement. -/
def startsStatement (k : Keyword) : Bool :=
  starters.contains k

end Keyword

end SqlLint
