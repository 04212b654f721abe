import DynamicSql.Text.Basic

/-!
# Invocations

What a command line asks for. A command is a word followed by options; an option is written
`--name value`, with the short form `-n value`, and the order of options does not matter. A
command line with an unknown option, or without what its command needs, asks for nothing.
-/

namespace DynamicSql

/-- A command with the names of its files. -/
inductive Invocation where
  /-- Apply a template to parameters, which are read from the input if not given. -/
  | render (template : String) (parameters config : Option String) (pretty : Bool)
  /-- Check a template. -/
  | check (template : String) (config : Option String)
  /-- Fill in the properties of a text. -/
  | substitute (text : String) (config : Option String)
  deriving DecidableEq

namespace Invocation

/-- The options of a command line, and its other words. -/
structure Options where
  /-- The file of the template. -/
  template : Option String := none
  /-- The parameters, in JSON. -/
  parameters : Option String := none
  /-- The file of the configuration. -/
  config : Option String := none
  /-- Whether the answer is written on several lines. -/
  pretty : Bool := false
  /-- The words that are no options, in order. -/
  words : List String := []

/-- The options after some that have been read. -/
def Options.read? (o : Options) : List String → Option Options
  | [] => some o
  | "--verbose" :: rest | "-v" :: rest => o.read? rest
  | "--pretty" :: rest => { o with pretty := true }.read? rest
  | "--template" :: file :: rest | "-t" :: file :: rest =>
    { o with template := some file }.read? rest
  | "--params" :: json :: rest | "-p" :: json :: rest =>
    { o with parameters := some json }.read? rest
  | "--config" :: file :: rest | "-c" :: file :: rest => { o with config := some file }.read? rest
  | word :: rest =>
    if word.startsWith "-" then none else { o with words := o.words ++ [word] }.read? rest

/-- The command that options ask for. -/
def ofOptions? (o : Options) : Option Invocation :=
  match o.words, o.template with
  | ["render"], some template => some (.render template o.parameters o.config o.pretty)
  | ["check"], some template => some (.check template o.config)
  | ["substitute", text], _ => some (.substitute text o.config)
  | _, _ => none

/-- The command that a command line asks for. -/
def ofArguments? (arguments : List String) : Option Invocation :=
  (Options.read? {} arguments).bind ofOptions?

/-- How a command line is written. -/
def usage : String :=
  "usage: render --template FILE [--params JSON] [--config FILE] [--pretty]\n" ++
  "       check --template FILE [--config FILE]\n" ++
  "       substitute TEXT [--config FILE]"

end Invocation

end DynamicSql
