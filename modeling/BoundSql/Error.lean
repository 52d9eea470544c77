import BoundSql.Ident
import BoundSql.Value.Coerce

/-!
# Errors

An error is the cause for which a statement was not built or not run. Each
cause has one wording.
-/

namespace BoundSql

/-- Why a guard rule cannot be used. -/
inductive RuleFault where
  | empty
  | notSelect
  | separator
  | keyword (word : String)
  | positional
  | missingParameters (names : List String)
  | noRow
  | missingColumn (column : String)
  | nullColumn (column : String)
  | notBoolean (column : String)
  deriving DecidableEq, Repr

/-- Why an entity does not allow what was asked of it. -/
inductive EntityFault where
  | mappedTwice (column : String)
  | compositeKey
  | secondToken
  | noSoftDelete
  | noAudit
  | noToken
  | valueCount (expected got : Nat)
  deriving DecidableEq, Repr

/-- Why a configuration is refused. -/
inductive ConfigFault where
  | document
  | anonymousUser
  | rulesTable (fault : NameFault)
  | canDeleteColumn (fault : NameFault)
  deriving DecidableEq, Repr

/-- What was looked for in vain. -/
inductive Missing where
  | table (name : String)
  | function (name : String)
  | row
  | named (text : String)
  deriving DecidableEq, Repr

/-- Why a statement was not answered. -/
inductive QueryFault where
  | database (code : String)
  | parameter (index : Nat)
  | parameterCount (expected got : Nat)
  | rowCount
  deriving DecidableEq, Repr

/-- Why a value could not be read from a row: there is no such column, or the cell at a place does
not hold what was asked of it. -/
inductive ReadFault where
  | noColumn (column : String)
  | cell (place : Nat)
  deriving DecidableEq, Repr

/-- The kinds of constraints that a statement can violate. -/
inductive Constraint where
  | unique
  | foreignKey
  | check
  deriving DecidableEq, Repr

/-- The cause of a failure. -/
inductive Error where
  | badName (fault : NameFault)
  | unknownField (entity field : String)
  | fixedField (entity field : String)
  | emptyPredicate
  | nothingToUpdate
  | missingToken (entity : String)
  | missingKey (entity : String)
  | ruleInvalid (rule : String) (fault : RuleFault)
  | ruleBlocked (rule : String)
  | invalidValue (column : String) (refusal : Refusal)
  | cancelled
  | query (fault : QueryFault)
  | notFound (what : Missing)
  | violation (kind : Constraint) (constraint : Option String) (message : String)
  | decode (column : String) (fault : ReadFault)
  | badEntity (name : String) (fault : EntityFault)
  | stampMissing
  | config (fault : ConfigFault)
  | rollbackFailed (cause : Error)
  deriving Repr

/-- The wording of a rule's fault. -/
def RuleFault.message : RuleFault → String
  | .empty => "predicate is empty"
  | .notSelect => "predicate must start with SELECT"
  | .separator => "statement separators are not allowed"
  | .keyword word => "mutating keyword '" ++ word ++ "' is not allowed"
  | .positional => "positional parameters are not allowed; use @name markers"
  | .missingParameters names => "missing parameters: " ++ ", ".intercalate names
  | .noRow => "predicate returned no row"
  | .missingColumn column => "predicate did not return column '" ++ column ++ "'"
  | .nullColumn column => "'" ++ column ++ "' is NULL"
  | .notBoolean column => "'" ++ column ++ "' is not a boolean"

/-- The wording of an entity's fault. -/
def EntityFault.message (name : String) : EntityFault → String
  | .mappedTwice column => name ++ ": column '" ++ column ++ "' is mapped twice"
  | .compositeKey => name ++ ": composite primary keys are not supported"
  | .secondToken => name ++ ": only one concurrency token column is allowed"
  | .noSoftDelete => name ++ " does not declare a soft-delete column"
  | .noAudit => name ++ " does not declare audit columns"
  | .noToken => name ++ " does not declare a concurrency token"
  | .valueCount expected got =>
    name ++ ": expected " ++ Text.decimalText expected ++ " values, got " ++ Text.decimalText got

/-- The wording of a fault in a name. -/
def NameFault.errorMessage (fault : NameFault) : String :=
  "Invalid identifier: " ++ fault.message

/-- The wording of a configuration's fault. -/
def ConfigFault.message : ConfigFault → String
  | .document => "invalid config"
  | .anonymousUser => "anonymous_user must not be empty"
  | .rulesTable fault => "guard.rules_table: " ++ fault.errorMessage
  | .canDeleteColumn fault => "guard.can_delete_column: " ++ fault.errorMessage

/-- The wording for what is missing. -/
def Missing.message : Missing → String
  | .table name => "table '" ++ name ++ "'"
  | .function name => "function '" ++ name ++ "'"
  | .row => "Expected one row, got none"
  | .named text => text

/-- The wording of a failed query. -/
def QueryFault.message : QueryFault → String
  | .database _ => "db error"
  | .parameter index => "error serializing parameter " ++ Text.decimalText index
  | .parameterCount expected got =>
    "expected " ++ Text.decimalText expected ++ " parameters but got " ++ Text.decimalText got
  | .rowCount => "query returned an unexpected number of rows"

/-- The wording of a fault in reading a row. -/
def ReadFault.message : ReadFault → String
  | .noColumn column => "invalid column `" ++ column ++ "`"
  | .cell place => "error deserializing column " ++ Text.decimalText place

/-- The name of a violated kind of constraint. -/
def Constraint.label : Constraint → String
  | .unique => "Unique constraint violation"
  | .foreignKey => "Foreign key violation"
  | .check => "Check constraint violation"

/-- The wording of an error. -/
def Error.message : Error → String
  | .badName fault => fault.errorMessage
  | .unknownField entity field =>
    "Invalid identifier: " ++ entity ++ " has no field '" ++ field ++ "'"
  | .fixedField entity field =>
    "Invalid identifier: " ++ entity ++ "." ++ field ++ " cannot be assigned"
  | .emptyPredicate => "Refusing to build an empty predicate"
  | .nothingToUpdate => "No fields to update"
  | .missingToken entity =>
    "Entity '" ++ entity ++ "' declares a concurrency token but none was supplied"
  | .missingKey entity => "Entity '" ++ entity ++ "' has no primary key declaration"
  | .ruleInvalid rule fault => "Guard rule '" ++ rule ++ "' is invalid: " ++ fault.message
  | .ruleBlocked rule => "Blocked by guard rule '" ++ rule ++ "'"
  | .invalidValue column refusal =>
    "Invalid value for column '" ++ column ++ "': " ++ refusal.message
  | .cancelled => "Operation cancelled"
  | .query fault => "Query error: " ++ fault.message
  | .notFound what => "Not found: " ++ what.message
  | .violation kind constraint message =>
    kind.label ++ ": " ++ constraint.getD "unknown" ++ ": " ++ message
  | .decode column fault => "Decode error on column '" ++ column ++ "': " ++ fault.message
  | .badEntity name fault => "Validation error: " ++ fault.message name
  | .stampMissing => "Validation error: audit requested without an audit stamp"
  | .config fault => "Config error: " ++ fault.message
  | .rollbackFailed cause => cause.message ++ " (rollback failed)"

/-- Whether a guard rule is the cause. -/
def Error.isGuardRejection : Error → Bool
  | .ruleInvalid .. => true
  | .ruleBlocked _ => true
  | _ => false

/-- Whether a unique constraint is the cause. -/
def Error.isUniqueViolation : Error → Bool
  | .violation .unique .. => true
  | _ => false

/-- Whether something missing is the cause. -/
def Error.isNotFound : Error → Bool
  | .notFound _ => true
  | _ => false

/-- The state code of a failed query, if the database gave one. -/
def Error.stateCode? : Error → Option String
  | .query (.database code) => some code
  | _ => none

/-- The error of a failed statement: a violated constraint is told apart by its state code. -/
def Error.ofState (code message : String) (constraint : Option String) : Error :=
  if code = "23505" then .violation .unique constraint message
  else if code = "23503" then .violation .foreignKey constraint message
  else if code = "23514" then .violation .check constraint message
  else .query (.database code)

/-- The identifier of a qualified name, or the error for its fault. -/
def Ident.qualified (name : String) : Except Error Ident :=
  (Ident.qualified? name).mapError .badName

/-- The identifier of a column name, or the error for its fault. -/
def Ident.column (name : String) : Except Error Ident :=
  (Ident.column? name).mapError .badName

end BoundSql
