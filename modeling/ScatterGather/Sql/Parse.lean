/-
**From text to statement.**

* `Parser.statementOf`: the statement that a keyword begins;
* `Parser.statement`: any statement;
* `Grammar.atDepth`: the rules of limited nesting, down to a given depth;
* `Statement.parseAll`: the statements of a text. Behind an `END` that follows one nothing is read;
* `Statement.parse`: the one statement of a text.
-/
import ScatterGather.Sql.Parser.Alteration
import ScatterGather.Sql.Parser.Cursor
import ScatterGather.Sql.Parser.Grant
import ScatterGather.Sql.Parser.Session
import ScatterGather.Sql.Parser.Transfer
import ScatterGather.Sql.Parser.Upkeep
import ScatterGather.Sql.Token.Scan

namespace ScatterGather.Sql.Parser

/-- The statement that an insertion is. -/
def ofInsertion : Insertion → Statement
  | .table insert => .insert insert
  | .directory _ => .other

/-- The statement that a keyword begins. The keyword has been read. -/
def statementOf (grammar : Grammar) (keyword : String) : Parser Statement :=
  match keyword with
  | "INSERT" | "REPLACE" => ofInsertion <$> insertion grammar keyword
  | "UPDATE" => .update <$> change grammar
  | "DELETE" => .delete <$> deletion grammar
  | "MERGE" => merge grammar
  | "CREATE" => create grammar
  | "ALTER" => alter grammar
  | "DROP" => drop grammar
  | "TRUNCATE" => truncate grammar
  | "EXPLAIN" | "DESCRIBE" | "DESC" => explain grammar
  | "SHOW" => showStatement grammar
  | "SET" => setStatement grammar
  | "USE" => useStatement
  | "BEGIN" => begin
  | "START" => start
  | "COMMIT" | "END" => commit
  | "ROLLBACK" => rollback
  | "SAVEPOINT" => savepoint
  | "RELEASE" => release
  | "CALL" => callStatement grammar
  | "KILL" => kill
  | "GRANT" => grant
  | "REVOKE" => revoke
  | "DECLARE" => declareCursor grammar
  | "FETCH" => fetchRows
  | "CLOSE" => closeCursor
  | "PREPARE" => prepare grammar
  | "EXECUTE" | "EXEC" => execute grammar
  | "DEALLOCATE" => deallocate
  | "COPY" => copy grammar
  | "UNLOAD" => unload grammar
  | "FLUSH" => flush
  | "ANALYZE" => analyze grammar
  | "MSCK" => repair
  | "ASSERT" => assert grammar
  | "CACHE" => cache grammar
  | "UNCACHE" => uncache
  | "DISCARD" => discard
  | "ATTACH" => attach grammar
  | "PRAGMA" => pragma
  | _ => refuse

/-- A statement, with the rules one level deeper. -/
def statement (grammar : Grammar) : Parser Statement := do
  if ← keywords? ["LOCK", "TABLES"] then lockTables
  else if ← keywords? ["UNLOCK", "TABLES"] then return .other
  else if ← symbolAt 0 "(" then return .query (← grammar.query)
  else
    let keyword ← keywordAt 0
    if ["SELECT", "WITH", "VALUES"].contains keyword then return .query (← grammar.query)
    else
      skip 1
      statementOf grammar keyword

end ScatterGather.Sql.Parser

namespace ScatterGather.Sql

/-- The rules of limited nesting, down to a depth. -/
def Grammar.atDepth : Nat → Grammar
  | 0 => Grammar.bottom
  | depth + 1 =>
    let below := Grammar.atDepth depth
    { exprAbove := Parser.exprAbove below
      query := Parser.query below
      statement := Parser.statement below }

/-- The greatest depth of statements, queries and expressions within one another. -/
def maxDepth : Nat := 50

/-- Why a text is not one statement. -/
inductive StatementError where
  | invalid (cause : SyntaxError)
  /-- There is no statement, or more than one. -/
  | notSingle
  deriving DecidableEq, Repr

namespace Statement

/-- The statements of a text. -/
def parseAll (text : String) : Except SyntaxError (List Statement) := do
  let tokens ← Token.scan text.toList
  let (statements, _) ← Parser.statements (Grammar.atDepth maxDepth) tokens
  return statements

/-- The one statement of a text. -/
def parse (text : String) : Except StatementError Statement :=
  match parseAll text with
  | .error cause => .error (.invalid cause)
  | .ok [statement] => .ok statement
  | .ok _ => .error .notSingle

end Statement

end ScatterGather.Sql
