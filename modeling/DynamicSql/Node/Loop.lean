import DynamicSql.Delimited
import DynamicSql.Node.Run

/-!
# Loops

A loop runs its body once for each entry of a collection. The value and the index of the entry
are bound to the loop's aliases, and also to names made from alias and a unique id, which no
other entry shares. Placeholders that the body writes are renamed to those names, so that the SQL
text can tell the entries apart when all of them have been run.

Entries that write nothing but white space are not separated from the others.
-/

namespace DynamicSql

/-- What a loop adds to its body. -/
structure Loop where
  /-- The expression of the collection. -/
  collection : Text
  /-- The alias of an entry's value. -/
  item : Option Text := none
  /-- The alias of an entry's index. -/
  index : Option Text := none
  /-- What is written before the first entry. -/
  opening : Option Text := none
  /-- What is written after the last entry. -/
  closing : Option Text := none
  /-- What is written between entries. -/
  separator : Option Text := none
  deriving DecidableEq

/-- The name of an alias for one entry. -/
def syntheticName (name : Text) (id : Nat) : Text :=
  "__gen_".toList ++ name ++ '_' :: Text.ofNat id

/-- Whether a character may follow a name in a placeholder. -/
def endsAlias (c : Char) : Bool := Text.isBlank c || c == '.' || c == ',' || c == ':' || c == '['

/-- The content of a placeholder with the alias that leads it replaced, if it does. The alias has
to be a whole word; white space before it is dropped. -/
def renameAlias? (name replacement content : Text) : Option Text :=
  if name.isEmpty then none
  else
    match name.isPrefixOf? (Text.trimStart content) with
    | none => none
    | some [] => some replacement
    | some (c :: rest) => if endsAlias c then some (replacement ++ c :: rest) else none

namespace Loop

/-- The content of a placeholder with an optional alias renamed. -/
def renameSome? (name? : Option Text) (id : Nat) (content : Text) : Option Text :=
  name?.bind fun name => renameAlias? name (syntheticName name id) content

/-- The content of a placeholder as it leaves the loop: the alias of the value is tried first,
then that of the index. -/
def renameContent (loop : Loop) (id : Nat) (content : Text) : Text :=
  ((renameSome? loop.item id content).or (renameSome? loop.index id content)).getD content

/-- A fragment as it leaves the loop. -/
def renameFragment (loop : Loop) (id : Nat) (fragment : Text) : Text :=
  Delimiters.placeholder.replaceAll
    (fun content => Delimiters.placeholder.wrap (loop.renameContent id content)) fragment

/-- Whether fragments hold anything but white space. -/
def contributes (fragments : List Text) : Bool := fragments.any fun f => !Text.allBlank f

/-- The fragments with a separator before the first that is not blank. -/
def separated (separator : Text) : List Text → List Text
  | [] => []
  | f :: rest => if Text.allBlank f then f :: separated separator rest else separator :: f :: rest

/-- The fragments of an entry; it is separated from earlier ones that contributed. -/
def entryFragments (loop : Loop) (contributed : Bool) (id : Nat) (fragments : List Text) :
    List Text :=
  let renamed := fragments.map (loop.renameFragment id)
  match loop.separator with
  | some separator => if contributed then separated separator renamed else renamed
  | none => renamed

/-- Binds an alias, if there is one, by itself and by its name for the entry. -/
def bindAlias (name? : Option Text) (id : Nat) (value : Value) : Run Unit :=
  match name? with
  | none => Run.pure ()
  | some name => do
    Run.bindName name value
    Run.bindName (syntheticName name id) value

/-- Runs the body for one entry; tells whether it contributed. -/
def runEntry (loop : Loop) (body : Run Bool) (contributed : Bool) (entry : Entry) : Run Bool := do
  let id ← Run.nextId
  bindAlias loop.index id entry.index
  bindAlias loop.item id entry.item
  let (_, fragments) ← (body.mapWritten (loop.entryFragments contributed id)).listened
  return contributes fragments

/-- Runs the body for every entry; `contributed` tells whether an earlier one did. -/
def runEntries (loop : Loop) (body : Run Bool) : Bool → List Entry → Run Unit
  | _, [] => Run.pure ()
  | contributed, entry :: rest => do
    let now ← loop.runEntry body contributed entry
    loop.runEntries body (contributed || now) rest

/-- Runs a loop around a body. An empty collection leaves no trace; otherwise the aliases are
unbound at the end. -/
def run (loop : Loop) (body : Run Bool) : Run Bool := do
  let entries ← Run.ofBindings (·.evalEntries loop.collection)
  if entries.isEmpty then
    return true
  else
    Run.writeSome loop.opening
    loop.runEntries body false entries
    Run.writeSome loop.closing
    Run.unbindSome loop.item
    Run.unbindSome loop.index
    return true

end Loop

end DynamicSql
