/-!
# Notices

What the library reports about its work besides its results. Notices are returned as data,
in the order in which they arise; `Logged` pairs a value with them.
-/

namespace Outline

/-- How serious a notice is. -/
inductive Level where
  | debug
  | warn
deriving DecidableEq

/-- An event worth reporting. -/
inductive Notice where
  /-- A dump of the tree with this root label begins. -/
  | dumpStarted (label : String)
  /-- Every node of the tree with this root label has been dumped. -/
  | dumpFinished (label : String)
  /-- A node of this type has no dump operation of its own. -/
  | unhandledKind (type : String)
  /-- The value of a record of this kind has no use. -/
  | ignoredValue (kind : String)
  /-- Neither the value nor the name of a record of this kind has a use. -/
  | ignoredValueAndName (kind : String)
  /-- The description at this path has been read. -/
  | loading (path : String)
  /-- A format is added under this name. -/
  | registering (name : String)
deriving DecidableEq

namespace Notice

/-- Only nodes that no dump operation was made for are worth a warning. -/
def level : Notice → Level
  | unhandledKind _ => .warn
  | _ => .debug

/-- The text of a notice. -/
def text : Notice → String
  | dumpStarted label => "dumping tree rooted at `" ++ label ++ "`"
  | dumpFinished label => "dump of `" ++ label ++ "` finished"
  | unhandledKind type => "no specialized dump handler for node kind `" ++ type ++ "`"
  | ignoredValue kind => "ignoring value of `" ++ kind ++ "` node"
  | ignoredValueAndName kind => "ignoring value and name of `" ++ kind ++ "` node"
  | loading path => "loading tree description from " ++ path
  | registering name => "registering `" ++ name ++ "` format"

end Notice

/-- A value with the notices that arose on the way to it. -/
structure Logged (α : Type) where
  value : α
  notices : List Notice

namespace Logged

/-- A value without notices. -/
def quiet {α : Type} (value : α) : Logged α := ⟨value, []⟩

/-- Adds notices that arose before the others. -/
def after {α : Type} (earlier : List Notice) (logged : Logged α) : Logged α :=
  ⟨logged.value, earlier ++ logged.notices⟩

/-- Changes the value and keeps the notices. -/
def map {α β : Type} (f : α → β) (logged : Logged α) : Logged β :=
  ⟨f logged.value, logged.notices⟩

/-- Goes on with a value; the notices of both steps are kept in order. -/
def andThen {α β : Type} (logged : Logged α) (next : α → Logged β) : Logged β :=
  (next logged.value).after logged.notices

end Logged

end Outline
