/-
**Reading the columns of a table.**

Columns, their properties and the constraints on them are checked for their form alone.

* `Parser.columnDefinition`: a column with its type and properties;
* `Parser.constraint?`: a constraint on a table;
* `Parser.columns`: the columns and constraints of a table;
* `Parser.option`, `Parser.sequenceOptions`: settings of tables, views and sequences.
-/
import ScatterGather.Sql.Parser.Query

namespace ScatterGather.Sql.Parser

/-! ### Settings -/

/-- A name with a value. -/
def option (grammar : Grammar) : Parser Unit := do
  passOver ident
  expectSymbol "="
  passOver grammar.expr

/-- Names with values in parentheses, behind a keyword, where it comes next. -/
def options (grammar : Grammar) (keyword : String) : Parser Unit :=
  passOver <| after? [keyword] (inParens (commaSeparatedUpto ")" (option grammar)))

/-- What decides the numbers that a sequence gives. -/
def sequenceOptions : Parser Unit := do
  passOver <| after? ["INCREMENT"] (keyword? "BY" *> signedNumber)
  for bound in ["MINVALUE", "MAXVALUE"] do
    if ← keyword? bound then passOver signedNumber else passOver (keywords? ["NO", bound])
  passOver <| after? ["START"] (keyword? "WITH" *> signedNumber)
  passOver <| after? ["CACHE"] signedNumber
  unless ← keywords? ["NO", "CYCLE"] do passOver (keyword? "CYCLE")

/-- What decides the numbers that a sequence gives, in parentheses, where it is written. -/
def sequenceOptionsInParens : Parser Unit := do
  if ← symbolAt 0 "(" then inParens sequenceOptions

/-! ### References -/

/-- What becomes of a row when the row it refers to changes or goes. -/
def referentialAction : Parser Unit := do
  match ← expectOneOf ["RESTRICT", "CASCADE", "SET", "NO"] with
  | "SET" => passOver (expectOneOf ["NULL", "DEFAULT"])
  | "NO" => expectKeyword "ACTION"
  | _ => return

/-- Takes the first of several rules that applies, and again each time one does, but none of them
twice. -/
def eachOnce : Nat → List (Parser (Option Unit)) → Parser Unit
  | 0, _ => return
  | rounds + 1, rules => do
    let applied ← firstOf <| rules.zipIdx.map fun (rule, place) => do
      return (← rule).map fun _ => place
    match applied with
    | some place => eachOnce rounds (rules.eraseIdx place)
    | none => return

/-- The changes to a referenced row that a foreign key answers to, each at most once. -/
def referentialActions : Parser Unit :=
  eachOnce 2
    [after? ["ON", "DELETE"] referentialAction, after? ["ON", "UPDATE"] referentialAction]

/-- When a constraint holds, each property at most once. -/
def characteristics : Parser Unit :=
  eachOnce 3 [
    firstOf [after? ["NOT", "DEFERRABLE"] (pure ()), after? ["DEFERRABLE"] (pure ())],
    after? ["INITIALLY"] (passOver (expectOneOf ["DEFERRED", "IMMEDIATE"])),
    firstOf [after? ["ENFORCED"] (pure ()), after? ["NOT", "ENFORCED"] (pure ())]]

/-- What a column refers to, behind its keyword. -/
def reference : Parser Unit := do
  passOver path
  passOver identList?
  referentialActions
  characteristics

/-! ### Properties of a column -/

/-- A column computed from others, behind its keyword. -/
def computed (grammar : Grammar) : Parser Unit := do
  passOver (inParens grammar.expr)
  passOver (oneOf? ["STORED", "VIRTUAL"])

/-- A column whose values are generated, behind its keyword. Without the words that tell how, the
keyword is passed over and is no property. -/
def generated? (grammar : Grammar) : Parser (Option Unit) := do
  if ← either? (keywords? ["ALWAYS", "AS", "IDENTITY"])
      (keywords? ["BY", "DEFAULT", "AS", "IDENTITY"]) then
    sequenceOptionsInParens
    return some ()
  else if (← keywords? ["ALWAYS", "AS"]) && (← symbolAt 0 "(") then
    computed grammar
    return some ()
  else return none

/-- A property of a column, if one comes next. Some words that are no properties here are passed
over, and the properties that may follow them are few. -/
def columnProperty? (grammar : Grammar) : Parser (Option Unit) := do
  let property ← firstOf [
    after? ["CHARACTER", "SET"] (passOver path),
    after? ["NOT", "NULL"] (pure ()),
    after? ["COMMENT"] (passOver singleQuoted),
    after? ["NULL"] (pure ()),
    after? ["DEFAULT"] (passOver grammar.expr),
    after? ["PRIMARY", "KEY"] characteristics,
    after? ["UNIQUE"] characteristics,
    after? ["REFERENCES"] reference,
    after? ["CHECK"] (passOver (inParens grammar.expr)),
    after? ["AUTO_INCREMENT"] (pure ())]
  if property.isSome then return property
  for word in ["AUTOINCREMENT", "ASC", "DESC"] do passOver (keyword? word)
  if ← keywords? ["ON", "UPDATE"] then some <$> passOver grammar.expr
  else if ← keyword? "GENERATED" then generated? grammar
  else if ← keyword? "AS" then some <$> computed grammar
  else
    passOver (keyword? "IDENTITY")
    return none

/-- A property of a column, which has to come next. -/
def columnProperty (grammar : Grammar) : Parser Unit := do
  match ← columnProperty? grammar with
  | some () => return
  | none => refuse

/-- The properties of a column, some of them named. -/
def columnProperties (grammar : Grammar) : Parser Unit :=
  passOver <| many <| firstOf [
    after? ["CONSTRAINT"] (ident *> columnProperty grammar),
    columnProperty? grammar,
    after? ["COLLATE"] (passOver path)]

/-- A column with its type and properties. -/
def columnDefinition (grammar : Grammar) : Parser Unit := do
  passOver ident
  passOver dataType
  columnProperties grammar

/-! ### Constraints -/

/-- The kind of an index, behind its keyword, where it is written. -/
def indexKind? : Parser (Option Unit) :=
  after? ["USING"] (passOver (expectOneOf ["BTREE", "HASH"]))

/-- The columns of an index behind its name, if it has one. -/
def indexColumns : Parser Unit := do
  passOver (attempt? ident)
  passOver indexKind?
  passOver identList

/-- The columns of an index that a constraint makes, with its options. -/
def constraintIndex : Parser Unit := do
  indexColumns
  passOver <| many <| firstOf [indexKind?, after? ["COMMENT"] (passOver stringOrWord)]
  characteristics

/-- Whether one NULL differs from another, where it is written. -/
def distinctNulls : Parser Unit :=
  passOver <| after? ["NULLS"] (keyword? "NOT" *> expectKeyword "DISTINCT")

/-- The columns whose values may not repeat, behind the keyword. -/
def uniqueIndex : Parser Unit := do
  passOver (oneOf? ["KEY", "INDEX"])
  distinctNulls
  constraintIndex

/-- The columns of a foreign key and what they refer to. -/
def foreignKey : Parser Unit := do
  passOver identList
  expectKeyword "REFERENCES"
  passOver path
  passOver identList
  referentialActions
  characteristics

/-- A constraint that may have a name, if one comes next. -/
def nameableConstraint? (grammar : Grammar) : Parser (Option Unit) :=
  firstOf [
    after? ["UNIQUE"] uniqueIndex,
    after? ["PRIMARY"] (expectKeyword "KEY" *> constraintIndex),
    after? ["FOREIGN"] (expectKeyword "KEY" *> foreignKey),
    after? ["CHECK"] (passOver (inParens grammar.expr))]

/-- An index that is no constraint, behind its keyword. Its name may not be `USING`. -/
def plainIndex : Parser Unit := do
  if (← keywordAt 0) == "USING" then
    passOver indexKind?
    passOver identList
  else indexColumns

/-- An index of words or of places, behind its keyword. -/
def wideIndex : Parser Unit := do
  passOver (oneOf? ["KEY", "INDEX"])
  passOver (attempt? ident)
  passOver identList

/-- A constraint on a table, if one comes next. -/
def constraint? (grammar : Grammar) : Parser (Option Unit) := do
  if ← keyword? "CONSTRAINT" then
    passOver ident
    match ← nameableConstraint? grammar with
    | some () => return some ()
    | none => refuse
  else firstOf [
    nameableConstraint? grammar,
    after? ["INDEX"] plainIndex, after? ["KEY"] plainIndex,
    after? ["FULLTEXT"] wideIndex, after? ["SPATIAL"] wideIndex]

/-! ### All columns -/

/-- A column or a constraint. -/
def columnOrConstraint (grammar : Grammar) : Parser Unit := do
  match ← constraint? grammar with
  | some () => return
  | none =>
    match ← peek with
    | some (.word ..) => columnDefinition grammar
    | _ => refuse

/-- The columns and constraints of a table in parentheses, where they are written. -/
def columns (grammar : Grammar) : Parser Unit := do
  if ← symbolAt 0 "(" then
    passOver (inParens (commaSeparatedUpto ")" (columnOrConstraint grammar)))

end ScatterGather.Sql.Parser
