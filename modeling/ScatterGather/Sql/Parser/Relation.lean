/-
**Reading relations.**

* `Parser.tableAlias?`: the name that a statement gives a relation;
* `Parser.relation`: a table, the rows of a function, a document or a query, or a join in
  parentheses, with the pivots behind it;
* `Parser.source`: an item of a `FROM` list, a relation with what is joined to it.

How deep joins nest in parentheses is not limited.
-/
import ScatterGather.Sql.Parser.Expr

namespace ScatterGather.Sql.Parser

/-! ### Aliases -/

/-- Names for columns in parentheses, some of them with types, where they are written. -/
def aliasColumns : Parser (List AliasColumn) := do
  if ← symbolAt 0 "(" then
    inParens <| commaSeparated do
      let name ← ident
      return { name, type := ← attempt? typeText }
  else return []

/-- An alias for a table, with names for its columns. -/
def tableAlias? : Parser (Option Alias) := do
  match ← alias? Keyword.notTableAlias with
  | none => return none
  | some name => return some { name, columns := ← aliasColumns }

/-- An alias for a table behind its `AS`, where one is written. -/
def tableAlias : Parser String := do
  return aliasText (← tableAlias?)

/-! ### Documents -/

/-- What stands for a value that is missing or wrong, if one is told. -/
def substitute? : Parser (Option String) := do
  match ← oneOf? ["NULL", "ERROR", "DEFAULT"] with
  | none => return none
  | some keyword =>
    let value ← if keyword == "DEFAULT" then pure [← literalText] else pure []
    expectKeyword "ON"
    return some (joined " " (keyword :: value))

/-- What stands for values that are missing and wrong, the last one told of each. -/
def substitutes : Parser String := do
  let found ← many do
    match ← substitute? with
    | none => return none
    | some text => return some (← expectOneOf ["EMPTY", "ERROR"], text)
  let last := fun kind : String =>
    match (found.filter fun (told, _) => told == kind).getLast? with
    | some (_, text) => " " ++ text ++ " ON " ++ kind
    | none => ""
  return last "EMPTY" ++ last "ERROR"

/-- A column of a document's rows. -/
def documentColumn (column : Parser String) : Parser String := do
  if ← keyword? "NESTED" then
    passOver (keyword? "PATH")
    let path ← literalText
    expectKeyword "COLUMNS"
    let columns ← inParens (commaSeparated column)
    return "NESTED PATH " ++ path ++ " COLUMNS (" ++ commaJoined columns ++ ")"
  let name ← ident
  if ← keyword? "FOR" then
    expectKeyword "ORDINALITY"
    return name.text ++ " FOR ORDINALITY"
  let type ← typeText
  let test ← if ← keyword? "EXISTS" then pure " EXISTS" else pure ""
  expectKeyword "PATH"
  let path ← literalText
  return name.text ++ " " ++ type ++ test ++ " PATH " ++ path ++ (← substitutes)

/-- The rows of a document, behind the keyword. -/
def documentTable (grammar : Grammar) : Parser String := do
  let rows ← inParens do
    let document ← grammar.expr
    expectSymbol ","
    let path ← literalText
    expectKeyword "COLUMNS"
    let columns ← inParens (commaSeparated (nested documentColumn))
    return "JSON_TABLE(" ++ document.text ++ ", " ++ path ++ " COLUMNS(" ++ commaJoined columns ++
      "))"
  return rows ++ (← tableAlias)

/-- A column of an opened document. -/
def openedColumn : Parser String := do
  let name ← ident
  let type ← typeText
  let path ← do
    match ← peek with
    | some (.string quote text) =>
      if quote = singleQuote then
        skip 1
        pure (" " ++ Quoted.write quote text)
      else pure ""
    | _ => pure ""
  let document ← if ← keyword? "AS" then expectKeyword "JSON" *> pure " AS JSON" else pure ""
  return name.text ++ " " ++ type ++ path ++ document

/-- The rows of an opened document, behind the keyword. -/
def openedDocument (grammar : Grammar) : Parser String := do
  let rows ← inParens do
    let document ← grammar.expr
    let path ← if ← symbol? "," then pure (", " ++ (← literalText)) else pure ""
    return "OPENJSON(" ++ document.text ++ path ++ ")"
  let columns ← after? ["WITH"] do
    return " WITH (" ++ commaJoined (← inParens (commaSeparated openedColumn)) ++ ")"
  return rows ++ columns.getD "" ++ (← tableAlias)

/-! ### Pivots -/

/-- A function call with an alias. -/
def aliasedCall (grammar : Grammar) : Parser String := do
  match ← next with
  | .word name _ =>
    let called ← call grammar name.name
    let byname ← after? ["AS"] ident
    return joined " AS " (called.text :: byname.toList.map Ident.text)
  | _ => refuse

/-- An expression with an alias. -/
def aliasedExpr (grammar : Grammar) : Parser String := do
  let expr ← grammar.expr
  let byname ← after? ["AS"] ident
  return joined " AS " (expr.text :: byname.toList.map Ident.text)

/-- The values that become columns. -/
def pivotedValues (grammar : Grammar) : Parser String := do
  if ← keyword? "ANY" then
    return joined " " ("ANY" :: (← orderClause? grammar).toList)
  else if ["SELECT", "WITH"].contains (← keywordAt 0) then return (← grammar.query).text
  else return commaJoined (← commaSeparated (aliasedExpr grammar))

/-- A pivot from rows to columns, behind its keyword. -/
def pivot (grammar : Grammar) : Parser String := inParens do
  let calls ← commaSeparated (aliasedCall grammar)
  expectKeyword "FOR"
  let column ← path
  expectKeyword "IN"
  let values ← inParens (pivotedValues grammar)
  let default ← after? ["DEFAULT", "ON", "NULL"] do
    return " DEFAULT ON NULL " ++ (← exprInParens grammar)
  return " PIVOT(" ++ commaJoined calls ++ " FOR " ++ pathText column ++ " IN (" ++ values ++ ")" ++
    default.getD "" ++ ")"

/-- A pivot from columns to rows, behind its keyword. -/
def unpivot : Parser String := inParens do
  let value ← ident
  expectKeyword "FOR"
  let name ← ident
  expectKeyword "IN"
  let columns ← identList
  return " UNPIVOT(" ++ value.text ++ " FOR " ++ name.text ++ " IN (" ++
    commaJoined (columns.map Ident.text) ++ "))"

/-- A relation with the pivots that follow it. -/
def pivoted (grammar : Grammar) (relation : Relation) : Parser Relation := do
  let pivots ← many do
    match ← oneOf? ["PIVOT", "UNPIVOT"] with
    | none => return none
    | some "PIVOT" => return some ((← pivot grammar) ++ (← tableAlias))
    | some _ => return some ((← unpivot) ++ (← tableAlias))
  return if pivots.isEmpty then relation else .derived (relation.text ++ String.join pivots)

/-! ### Relations -/

/-- A query in parentheses in place of a table. The opening parenthesis has been read. -/
def derivedTable (grammar : Grammar) (lateral : Bool) : Parser Relation := do
  let query ← grammar.query
  expectSymbol ")"
  return .derived ((if lateral then "LATERAL (" else "(") ++ query.text ++ ")" ++ (← tableAlias))

/-- A query or the rows of a function that may look at the relations before it, behind the
keyword. -/
def lateralTable (grammar : Grammar) : Parser Relation := do
  if ← symbol? "(" then derivedTable grammar true
  else
    let name ← path
    expectSymbol "("
    let args ← commaSeparatedUpto ")" (argument grammar)
    expectSymbol ")"
    return .derived ("LATERAL " ++ pathText name ++ "(" ++ commaJoined args ++ ")" ++
      (← tableAlias))

/-- Hints in parentheses behind `WITH`, where they are written. -/
def hints (grammar : Grammar) : Parser (List String) := do
  if (← keywordAt 0) == "WITH" && (← symbolAt 1 "(") then
    skip 1
    inParens (exprTexts grammar)
  else return []

/-- A table by its name. -/
def namedTable (grammar : Grammar) : Parser Relation := do
  let name ← path
  let partition ← after? ["PARTITION"] identList
  let arguments ← if ← symbol? "(" then do
      let args ← commaSeparatedUpto ")" (argument grammar)
      expectSymbol ")"
      pure (some args)
    else pure none
  let numbered ← keywords? ["WITH", "ORDINALITY"]
  let byname ← tableAlias?
  return .table
    { name, partition := partition.getD [], arguments, numbered, byname, hints := ← hints grammar }

/-! ### Joins -/

/-- The words of a join that takes a condition, up to `JOIN`, if one comes next. -/
def joinWords? : Parser (Option String) := do
  match ← keywordAt 0 with
  | "INNER" | "JOIN" =>
    passOver (keyword? "INNER")
    expectKeyword "JOIN"
    return some "JOIN "
  | side@"LEFT" | side@"RIGHT" =>
    skip 1
    match ← expectOneOf ["OUTER", "SEMI", "ANTI", "JOIN"] with
    | "JOIN" => return some (side ++ " JOIN ")
    | "OUTER" =>
      expectKeyword "JOIN"
      return some (side ++ " JOIN ")
    | kind =>
      expectKeyword "JOIN"
      return some (side ++ " " ++ kind ++ " JOIN ")
  | kind@"SEMI" | kind@"ANTI" =>
    skip 1
    expectKeyword "JOIN"
    return some (kind ++ " JOIN ")
  | "FULL" =>
    skip 1
    passOver (keyword? "OUTER")
    expectKeyword "JOIN"
    return some "FULL JOIN "
  | "OUTER" => refuse
  | _ => return none

/-- The condition of a join, where one is written. -/
def joinCondition (grammar : Grammar) : Parser String := do
  if ← keyword? "ON" then return " ON " ++ (← grammar.expr).text
  else if ← keyword? "USING" then
    return " USING(" ++ commaJoined ((← identList).map Ident.text) ++ ")"
  else return ""

/-- A join that takes a condition, or is natural, if one comes next. -/
def conditionalJoin? (grammar : Grammar) (relation : Parser Relation) :
    Parser (Option String) := do
  let natural ← keyword? "NATURAL"
  match ← joinWords? with
  | none => if natural then refuse else return none
  | some words =>
    let joined ← relation
    if natural then return some (" NATURAL " ++ words ++ joined.text)
    else return some (" " ++ words ++ joined.text ++ (← joinCondition grammar))

/-- A relation joined to what stands before it, if one comes next. A `GLOBAL` before it is taken in
any case. -/
def join? (grammar : Grammar) (relation : Parser Relation) : Parser (Option String) := do
  let scope ← if ← keyword? "GLOBAL" then pure " GLOBAL" else pure ""
  let join ← do
    if ← keyword? "CROSS" then
      let kind ← expectOneOf ["JOIN", "APPLY"]
      pure (some (" CROSS " ++ kind ++ " " ++ (← relation).text))
    else if ← keyword? "OUTER" then
      expectKeyword "APPLY"
      pure (some (" OUTER APPLY " ++ (← relation).text))
    else if ← keyword? "ASOF" then
      expectKeyword "JOIN"
      let joined ← relation
      expectKeyword "MATCH_CONDITION"
      let condition ← exprInParens grammar
      pure (some (" ASOF JOIN " ++ joined.text ++ " MATCH_CONDITION " ++ condition ++
        (← joinCondition grammar)))
    else conditionalJoin? grammar relation
  return join.map (scope ++ ·)

/-- A relation with what is joined to it. -/
def sourceOf (grammar : Grammar) (relation : Parser Relation) : Parser Source := do
  let first ← relation
  return ⟨first, ← many (join? grammar relation)⟩

/-! ### Sources -/

/-- A join in parentheses. The opening parenthesis has been read; a relation other than a join may
not stand in parentheses alone. -/
def joinInParens (grammar : Grammar) (relation : Parser Relation) : Parser Relation := do
  let inner ← sourceOf grammar relation
  match inner with
  | ⟨.table _, []⟩ | ⟨.derived _, []⟩ => refuse
  | _ =>
    expectSymbol ")"
    return .joined ("(" ++ inner.text ++ ")" ++ (← tableAlias))

/-- A relation whose parts may be relations. -/
def relationRule (grammar : Grammar) (relation : Parser Relation) : Parser Relation := do
  if ← keyword? "LATERAL" then lateralTable grammar
  else if ← keyword? "TABLE" then
    return .derived ("TABLE" ++ (← exprInParens grammar) ++ (← tableAlias))
  else if ← symbol? "(" then
    match ← attempt? (derivedTable grammar false) with
    | some derived => pivoted grammar derived
    | none => joinInParens grammar relation
  else if (← symbolAt 1 "(") && ["JSON_TABLE", "OPENJSON"].contains (← keywordAt 0) then
    if ← keyword? "JSON_TABLE" then return .derived (← documentTable grammar)
    else
      skip 1
      return .derived (← openedDocument grammar)
  else pivoted grammar (← namedTable grammar)

/-- A relation by itself. -/
def relation (grammar : Grammar) : Parser Relation :=
  nested (relationRule grammar)

/-- An item of a `FROM` list. -/
def source (grammar : Grammar) : Parser Source :=
  sourceOf grammar (relation grammar)

end ScatterGather.Sql.Parser
