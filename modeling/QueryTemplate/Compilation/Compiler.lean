import QueryTemplate.Compilation.Basic
import QueryTemplate.Escaper

/-! # Compilers

A compiler is an escaper without effects and settings. Besides compiling, it can observe a
compilation: the texts that were escaped and the events that were reported, in order.
-/
namespace QueryTemplate

/-- An escaper and the settings it is used with. -/
structure Compiler where
  escaper : Escaper := .mysql
  settings : Settings := {}

/-- The result of a compilation and its visible effects. -/
structure Observation where
  result : Except Error Text
  escaped : List Text
  events : List Event

/-- The effects of a compilation up to some moment. -/
structure Record where
  escaped : List Text := []
  events : List Event := []

namespace Compiler

/-- The host that escapes and ignores events. -/
def quietHost (compiler : Compiler) : Host Id where
  escape raw := compiler.escaper raw
  report _ := ()

/-- The host that escapes, and records the texts it is given and the events. -/
def recordingHost (compiler : Compiler) : Host (StateM Record) where
  escape raw := do
    modify fun record => { record with escaped := record.escaped ++ [raw] }
    return compiler.escaper raw
  report event := modify fun record => { record with events := record.events ++ [event] }

def compileTemplate (compiler : Compiler) (template : Template) (arguments : List Argument) :
    Except Error Text :=
  (template.compileWith compiler.quietHost compiler.settings arguments).run

/-- The query of a template text and its arguments. -/
def compile (compiler : Compiler) (source : Text) (arguments : List Argument) :
    Except Error Text :=
  compiler.compileTemplate (.parse source) arguments

def observe (compiler : Compiler) (template : Template) (arguments : List Argument) :
    Observation :=
  let (result, record) :=
    (template.compileWith compiler.recordingHost compiler.settings arguments).run {}
  ⟨result, record.escaped, record.events⟩

end Compiler
end QueryTemplate
