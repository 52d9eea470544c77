import BoundSql.Config
import BoundSql.Toml.Reader

/-!
# Configuration documents

A configuration is read from a document in which every setting may be
missing and unknown ones are ignored. What is there has to be a text. The
guard's settings are a table, or an array of them in order.
-/

namespace BoundSql

/-- A setting, or its default. -/
def Toml.textOr? (default : String) : Option Toml → Option String
  | none => some default
  | some (.text s) => some s
  | _ => none

/-- The guard's settings from a way to look them up by name or by place. -/
def GuardConfig.ofLookup? (find : String → Nat → Option Toml) : Option GuardConfig := do
  let rulesTable ← Toml.textOr? ({} : GuardConfig).rulesTable (find "rules_table" 0)
  let canDeleteColumn ← Toml.textOr? ({} : GuardConfig).canDeleteColumn (find "can_delete_column" 1)
  pure { rulesTable, canDeleteColumn }

/-- The guard's settings. A date or a time counts as a table without any of them. -/
def GuardConfig.ofToml? : Option Toml → Option GuardConfig
  | none => some {}
  | some (.time _) => some {}
  | some (.table _ fields) => ofLookup? fun name _ => Toml.get? fields name
  | some (.array _ items) => ofLookup? fun _ place => items[place]?
  | _ => none

namespace Config

/-- The settings of a document. -/
def ofToml? (fields : Toml.Fields) : Option Config := do
  let anonymousUser ← Toml.textOr? ({} : Config).anonymousUser (Toml.get? fields "anonymous_user")
  let guard ← GuardConfig.ofToml? (Toml.get? fields "guard")
  pure { anonymousUser, guard }

/-- The configuration of a document. -/
def ofDocument (s : String) : Except Error Config :=
  match (Toml.ofText? s).bind ofToml? with
  | none => .error (.config .document)
  | some c => c.validated

end Config

end BoundSql
