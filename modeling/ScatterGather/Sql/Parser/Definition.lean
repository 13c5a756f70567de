/-
**Reading definitions.**

Of a definition only the names that decide where it goes are kept; all else is checked for its form
and left out.

* `Parser.createTable`, `Parser.createIndex`, `Parser.createView` and their kin: a definition behind
  the word for what it defines;
* `Parser.create`: a statement behind `CREATE`.
-/
import ScatterGather.Sql.Parser.Column

namespace ScatterGather.Sql.Parser

/-! ### Storage -/

/-- The group of servers that a change is made on, where it is written. -/
def onCluster : Parser Unit :=
  passOver (after? ["ON", "CLUSTER"] ident)

/-- A mark in the files of a table, behind its words, if one is told. -/
def rowMark? : Parser (Option Bool) := do
  let marked := fun words : List String => do
    if ← keywords? words then
      passOver ident
      return some true
    else return some false
  match ← oneOf? ["FIELDS", "COLLECTION", "MAP", "LINES", "NULL"] with
  | none => return none
  | some "FIELDS" =>
    let found ← marked ["TERMINATED", "BY"]
    if found == some true then passOver (after? ["ESCAPED", "BY"] ident)
    return found
  | some "COLLECTION" => marked ["ITEMS", "TERMINATED", "BY"]
  | some "MAP" => marked ["KEYS", "TERMINATED", "BY"]
  | some "LINES" => marked ["TERMINATED", "BY"]
  | some _ => marked ["DEFINED", "AS"]

/-- How rows stand in the files of a table, behind `ROW`. A word that begins no mark ends them. -/
def rowFormat : Parser Unit := do
  expectKeyword "FORMAT"
  if ← keyword? "SERDE" then passOver stringOrWord
  else
    passOver (keyword? "DELIMITED")
    passOver <| many do
      match ← rowMark? with
      | some true => return some ()
      | _ => return none

/-- How the files of a table are written, behind `STORED`. -/
def storedAs (grammar : Grammar) : Parser Unit := do
  expectKeyword "AS"
  if ← keyword? "INPUTFORMAT" then
    passOver grammar.expr
    expectKeyword "OUTPUTFORMAT"
    passOver grammar.expr
  else passOver fileFormat

/-- Where and how the files of a table are kept. -/
def storage (grammar : Grammar) : Parser Unit :=
  passOver <| many <| firstOf [
    after? ["ROW"] rowFormat,
    after? ["STORED"] (storedAs grammar),
    after? ["LOCATION"] (passOver stringOrWord),
    after? ["WITH", "SERDEPROPERTIES"] (passOver (inParens (commaSeparated (option grammar))))]

/-- The columns that part a table into files, behind their words, where they are written. -/
def partitionColumns (grammar : Grammar) : Parser Unit :=
  passOver <| after? ["PARTITIONED", "BY"]
    (passOver (inParens (commaSeparated (columnDefinition grammar))))

/-! ### Tables -/

/-- Takes a name of several parts, and the first token that is no part of it in its place. -/
def anyName : Parser Unit :=
  passOver <| many do
    match (← get).head? with
    | some (.word ..) | some (.string ..) =>
      skip 1
      if ← symbol? "." then return some () else return none
    | _ =>
      skip 1
      return none

/-- A word behind an equals sign. -/
def wordSetting : Parser Unit := do
  expectSymbol "="
  match ← next with
  | .word .. => return
  | _ => refuse

/-- The number that the rows of a table are counted from. -/
def firstNumber : Parser Unit := do
  passOver (symbol? "=")
  if (← whole) < 0x100000000 then return else refuse

/-- The order of the rows in a table. -/
def rowOrder (grammar : Grammar) : Parser Unit := do
  if ← symbolAt 0 "(" then passOver (inParens (commaSeparatedUpto ")" grammar.expr))
  else passOver grammar.expr

/-- What becomes of the rows of a table when a transaction ends. -/
def onCommit : Parser Unit := do
  match ← expectOneOf ["DELETE", "PRESERVE", "DROP"] with
  | "DROP" => return
  | _ => expectKeyword "ROWS"

/-- The settings of a table behind its columns. -/
def tableSettings (grammar : Grammar) : Parser Unit := do
  passOver (keywords? ["WITHOUT", "ROWID"])
  partitionColumns grammar
  storage grammar
  options grammar "WITH"
  options grammar "TBLPROPERTIES"
  passOver <| after? ["ENGINE"] (wordSetting *> identList?)
  passOver <| after? ["AUTO_INCREMENT"] firstNumber
  passOver <| after? ["ORDER", "BY"] (rowOrder grammar)
  passOver <| after? ["DEFAULT", "CHARSET"] wordSetting
  passOver <| after? ["COLLATE"] wordSetting
  passOver <| after? ["ON", "COMMIT"] onCommit
  passOver (keyword? "STRICT")
  passOver <| after? ["COMMENT"] (symbol? "=" *> singleQuoted)

/-- A table, behind its keyword. -/
def createTable (grammar : Grammar) : Parser Statement := do
  passOver (keywords? ["IF", "NOT", "EXISTS"])
  let name ← path
  onCluster
  if ← either? (keyword? "LIKE") (keyword? "ILIKE") then anyName
  passOver (after? ["CLONE"] anyName)
  columns grammar
  tableSettings grammar
  if ← keyword? "AS" then passOver grammar.query
  else if (← keywordAt 0) == "SELECT" then passOver grammar.query
  return .createTable name

/-- A table of files that exist already, behind its first keyword. -/
def createExternalTable (grammar : Grammar) : Parser Statement := do
  expectKeyword "TABLE"
  passOver (keywords? ["IF", "NOT", "EXISTS"])
  let name ← path
  columns grammar
  partitionColumns grammar
  storage grammar
  options grammar "TBLPROPERTIES"
  return .createTable name

/-- A table whose rows a module makes, behind its first keyword. -/
def createVirtualTable : Parser Statement := do
  expectKeyword "TABLE"
  passOver (keywords? ["IF", "NOT", "EXISTS"])
  passOver path
  expectKeyword "USING"
  passOver ident
  passOver identList?
  return .other

/-! ### Indexes and views -/

/-- An index, behind its keyword. -/
def createIndex (grammar : Grammar) : Parser Statement := do
  passOver (keyword? "CONCURRENTLY")
  if ← keywords? ["IF", "NOT", "EXISTS"] then
    passOver path
    expectKeyword "ON"
  else unless ← keyword? "ON" do
    passOver path
    expectKeyword "ON"
  let table ← path
  passOver (after? ["USING"] ident)
  passOver (inParens (commaSeparated (orderItem grammar)))
  passOver (after? ["INCLUDE"] identList)
  distinctNulls
  passOver (after? ["WHERE"] grammar.expr)
  return .createIndex table

/-- A view, behind the words before its keyword. -/
def createView (grammar : Grammar) : Parser Statement := do
  expectKeyword "VIEW"
  passOver path
  if ← symbolAt 0 "(" then passOver (inParens (commaSeparatedUpto ")" ident))
  options grammar "WITH"
  passOver <| after? ["CLUSTER"] (expectKeyword "BY" *> identList?)
  expectKeyword "AS"
  passOver grammar.query
  return .other

/-! ### Schemas, roles, sequences and types -/

/-- A schema, behind its keyword: by its name, its owner or both. -/
def createSchema : Parser Statement := do
  passOver (keywords? ["IF", "NOT", "EXISTS"])
  unless (← keywordAt 0) == "AUTHORIZATION" do passOver path
  passOver (after? ["AUTHORIZATION"] ident)
  return .other

/-- A database, behind its keyword. -/
def createDatabase : Parser Statement := do
  passOver (keywords? ["IF", "NOT", "EXISTS"])
  passOver path
  passOver <| many do
    match ← oneOf? ["LOCATION", "MANAGEDLOCATION"] with
    | some _ => return some (← stringOrWord)
    | none => return none
  return .other

/-- Roles, behind their keyword. -/
def createRole : Parser Statement := do
  passOver (keywords? ["IF", "NOT", "EXISTS"])
  passOver (commaSeparated path)
  passOver (keyword? "WITH")
  return .other

/-- A sequence, behind its keyword. -/
def createSequence : Parser Statement := do
  passOver (keywords? ["IF", "NOT", "EXISTS"])
  passOver path
  passOver (after? ["AS"] dataType)
  sequenceOptions
  passOver <| after? ["OWNED", "BY"] do
    unless ← keyword? "NONE" do passOver path
  return .other

/-- Items with commas between them up to a closing parenthesis. A comma may stand behind the last
one. -/
def itemsUptoParenthesis (item : Parser Unit) : Nat → Parser Unit
  | 0 => refuse
  | rounds + 1 => do
    item
    let comma ← symbol? ","
    if ← symbol? ")" then return
    else if comma then itemsUptoParenthesis item rounds
    else refuse

/-- A field of a type of several fields. -/
def field : Parser Unit := do
  passOver ident
  passOver dataType
  passOver (after? ["COLLATE"] path)

/-- A type, behind its keyword: one of several names, or several fields. -/
def createType : Parser Statement := do
  passOver path
  expectKeyword "AS"
  if ← keyword? "ENUM" then passOver (inParens (commaSeparatedUpto ")" ident))
  else if ← symbol? "(" then
    unless ← symbol? ")" do itemsUptoParenthesis field ((← get).length + 1)
  return .other

/-! ### Procedures, policies, secrets and extensions -/

/-- A parameter of a procedure; a place without a word has none. -/
def parameter : Parser Unit := do
  match ← peek with
  | some (.word ..) =>
    passOver ident
    passOver dataType
  | _ => return

/-- A procedure, behind its keyword. -/
def createProcedure (grammar : Grammar) : Parser Statement := do
  passOver path
  if ← symbol? "(" then
    unless ← symbol? ")" do itemsUptoParenthesis parameter ((← get).length + 1)
  expectKeyword "AS"
  expectKeyword "BEGIN"
  passOver (statements grammar)
  expectKeyword "END"
  return .other

/-- The rows that a policy admits. -/
def policyRows (grammar : Grammar) : Parser Unit := do
  passOver <| after? ["TO"] (commaSeparated ident)
  passOver <| after? ["USING"] (inParens grammar.expr)
  passOver <| after? ["WITH", "CHECK"] (inParens grammar.expr)

/-- The name of a policy and of its table. -/
def policyName : Parser Unit := do
  passOver ident
  expectKeyword "ON"
  passOver path

/-- A policy, behind its keyword. -/
def createPolicy (grammar : Grammar) : Parser Statement := do
  policyName
  passOver <| after? ["AS"] (expectOneOf ["PERMISSIVE", "RESTRICTIVE"])
  passOver <| after? ["FOR"] (expectOneOf ["ALL", "SELECT", "INSERT", "UPDATE", "DELETE"])
  policyRows grammar
  return .other

/-- Takes a token, and tells whether it is a name. -/
def anyIdent : Parser Bool := do
  let token := (← get).head?
  skip 1
  match token with
  | some (.word ..) | some (.string ..) => return true
  | _ => return false

/-- Where a secret is kept, where it is written behind its keyword. -/
def secretPlace : Parser Unit := do
  if ← keyword? "IN" then passOver anyIdent

/-- A secret, behind its keyword. -/
def createSecret : Parser Statement := do
  passOver (keywords? ["IF", "NOT", "EXISTS"])
  unless ← symbolAt 0 "(" do
    if ← keyword? "IN" then
      unless ← anyIdent do secretPlace
    else
      passOver anyIdent
      secretPlace
  inParens do
    expectKeyword "TYPE"
    passOver ident
    if ← symbol? "," then passOver (commaSeparated (ident *> ident))
  return .other

/-- An extension, behind its keyword. -/
def createExtension : Parser Statement := do
  passOver (keywords? ["IF", "NOT", "EXISTS"])
  passOver ident
  if ← keyword? "WITH" then
    passOver (after? ["SCHEMA"] ident)
    passOver (after? ["VERSION"] ident)
    passOver (keyword? "CASCADE")
  return .other

/-! ### All definitions -/

/-- The words that may stand before the word for what is defined. The answer tells whether what is
there already is to be replaced. -/
def createWords : Parser Bool := do
  let replaces ← keywords? ["OR", "REPLACE"]
  passOver (keywords? ["OR", "ALTER"])
  for word in ["LOCAL", "GLOBAL", "TRANSIENT"] do passOver (keyword? word)
  passOver (oneOf? ["TEMP", "TEMPORARY"])
  return replaces

/-- A definition that nothing replaces, behind its first keyword. -/
def createNew (grammar : Grammar) : Parser Statement := do
  match ← expectOneOf ["EXTENSION", "INDEX", "UNIQUE", "VIRTUAL", "SCHEMA", "DATABASE", "ROLE",
      "SEQUENCE", "TYPE", "PROCEDURE"] with
  | "EXTENSION" => createExtension
  | "INDEX" => createIndex grammar
  | "UNIQUE" => expectKeyword "INDEX" *> createIndex grammar
  | "VIRTUAL" => createVirtualTable
  | "SCHEMA" => createSchema
  | "DATABASE" => createDatabase
  | "ROLE" => createRole
  | "SEQUENCE" => createSequence
  | "TYPE" => createType
  | _ => createProcedure grammar

/-- A statement behind `CREATE`. -/
def create (grammar : Grammar) : Parser Statement := do
  let replaces ← createWords
  match ← oneOf? ["TABLE", "MATERIALIZED", "POLICY", "EXTERNAL", "SECRET"] with
  | some "TABLE" => createTable grammar
  | some "MATERIALIZED" => createView grammar
  | some "POLICY" => createPolicy grammar
  | some "EXTERNAL" => createExternalTable grammar
  | some _ => createSecret
  | none =>
    if (← keywordAt 0) == "VIEW" then createView grammar
    else if replaces then refuse
    else createNew grammar

end ScatterGather.Sql.Parser
