import QueryTemplate.Compilation.Assembly
import QueryTemplate.Error
import QueryTemplate.Settings
import QueryTemplate.Template.Basic
import QueryTemplate.Text.Bytes

/-! # Log events

Each compilation is reported by one event. Query and template texts are shortened to the limit of
the settings.
-/
namespace QueryTemplate

inductive Event
  | compiled (placeholders blocks droppedBlocks : Nat) (sql : Text)
  | failed (template error : Text)
  deriving DecidableEq

namespace Event

def target : Text := .ofString "sqltemplate.compile"

def level : Text := .ofString "DEBUG"

def message : Event → Text
  | .compiled _ _ _ _ => .ofString "compiled sql template"
  | .failed _ _ => .ofString "sql template compilation failed"

def ofAssembly (settings : Settings) (template : Template) (assembly : Assembly) : Event :=
  .compiled template.placeholderCount template.blockCount assembly.droppedBlocks
    (Text.shorten settings.loggedLength assembly.sql)

def ofError (settings : Settings) (template : Template) (error : Error) : Event :=
  .failed (Text.shorten settings.loggedLength template.source) error.message

end Event
end QueryTemplate
