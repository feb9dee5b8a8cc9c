import CommandBridge.Catalog.Descriptor

/-!
# CommandBridge.Catalog.Basic

A catalog lists resources, tools and prompts in the order in which they were
registered.  Names may repeat; a look-up finds the first descriptor of a name.
The catalog advertises and nothing more: a target that is not in it can be
dispatched all the same.
-/

namespace CommandBridge

/-- What a bridge advertises. -/
structure Catalog where
  resources : List ResourceDescriptor := []
  tools : List ToolDescriptor := []
  prompts : List PromptDescriptor := []
  deriving DecidableEq, Repr

namespace Catalog

/-- The first resource with a URI. -/
def resource? (c : Catalog) (uri : String) : Option ResourceDescriptor :=
  c.resources.find? fun r => r.uri = uri

/-- The first tool with a name. -/
def tool? (c : Catalog) (name : String) : Option ToolDescriptor :=
  c.tools.find? fun t => t.name = name

/-- The first prompt with a name. -/
def prompt? (c : Catalog) (name : String) : Option PromptDescriptor :=
  c.prompts.find? fun p => p.name = name

/-- How many descriptors of each kind there are. -/
def summary (c : Catalog) : List (String × Json) :=
  [("resources", .nat c.resources.length), ("tools", .nat c.tools.length),
    ("prompts", .nat c.prompts.length)]

/-- Reads descriptors, up to the first one that does not validate. -/
def readAll {α : Type} (read : Json → Validated α) : List Json → Validated (List α)
  | [] => .ok []
  | j :: r => do return (← read j) :: (← readAll read r)

end Catalog

end CommandBridge
