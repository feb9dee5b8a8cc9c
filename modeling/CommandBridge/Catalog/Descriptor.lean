import CommandBridge.Schema.Validation

/-!
# CommandBridge.Catalog.Descriptor

What the bridge advertises: resources, tools and prompts.  A descriptor has two
object forms.  The wire form, `toJson`, names two fields in camel case
(`mimeType`, `inputSchema`); `fields` is the same with the plain field names.
`ofJson` reads both, the wire name first.
-/

namespace CommandBridge

/-- A readable resource. -/
structure ResourceDescriptor where
  uri : String
  name : String
  description : String := ""
  mimeType : String := "application/json"
  deriving DecidableEq, Repr

/-- A callable tool with a schema of its arguments. -/
structure ToolDescriptor where
  name : String
  description : String := ""
  inputSchema : List (Text × Json) :=
    [("type", .string "object"), ("properties", .obj [])]
  deriving DecidableEq, Repr

/-- A prompt template. -/
structure PromptDescriptor where
  name : String
  description : String := ""
  deriving DecidableEq, Repr

namespace ResourceDescriptor

/-- Reads a resource. -/
def ofJson (j : Json) : Validated ResourceDescriptor :=
  readRecord "ResourceDescriptor" (j := j) fun ms =>
    (Validated.seq (.ok ResourceDescriptor.mk) (readField ms ["uri"] .string none))
      |>.seq (readField ms ["name"] .string none)
      |>.seq (readField ms ["description"] .string (some ""))
      |>.seq (readField ms ["mimeType", "mime_type"] .string (some "application/json"))

/-- The wire form of a resource. -/
def toJson (d : ResourceDescriptor) : Json :=
  .object [("uri", .string d.uri), ("name", .string d.name),
    ("description", .string d.description), ("mimeType", .string d.mimeType)]

/-- The members of a resource under the plain field names. -/
def fields (d : ResourceDescriptor) : List (Text × Json) :=
  [("uri", .string d.uri), ("name", .string d.name),
    ("description", .string d.description), ("mime_type", .string d.mimeType)]

end ResourceDescriptor

namespace ToolDescriptor

/-- The schema of a tool that gives none. -/
def defaultSchema : List (Text × Json) := [("type", .string "object"), ("properties", .obj [])]

/-- Reads a tool. -/
def ofJson (j : Json) : Validated ToolDescriptor :=
  readRecord "ToolDescriptor" (j := j) fun ms =>
    (Validated.seq (.ok ToolDescriptor.mk) (readField ms ["name"] .string none))
      |>.seq (readField ms ["description"] .string (some ""))
      |>.seq (readField ms ["inputSchema", "input_schema"] .object (some defaultSchema))

/-- The wire form of a tool. -/
def toJson (d : ToolDescriptor) : Json :=
  .object [("name", .string d.name), ("description", .string d.description),
    ("inputSchema", .obj d.inputSchema)]

/-- The members of a tool under the plain field names. -/
def fields (d : ToolDescriptor) : List (Text × Json) :=
  [("name", .string d.name), ("description", .string d.description),
    ("input_schema", .obj d.inputSchema)]

/-- The value under `required` in a tool's schema, if it can be listed: the
elements of an array, the names of an object, or the characters of a string. -/
def requiredArguments (d : ToolDescriptor) : Except Json (List Json) :=
  match Json.lookup "required" d.inputSchema with
  | none => .ok []
  | some (.arr es) => .ok es
  | some (.obj ms) => .ok (ms.map fun m => .str m.1)
  | some (.str t) => .ok (t.map fun p => .str [p])
  | some j => .error j

end ToolDescriptor

namespace PromptDescriptor

/-- Reads a prompt. -/
def ofJson (j : Json) : Validated PromptDescriptor :=
  readRecord "PromptDescriptor" (j := j) fun ms =>
    (Validated.seq (.ok PromptDescriptor.mk) (readField ms ["name"] .string none))
      |>.seq (readField ms ["description"] .string (some ""))

/-- The members of a prompt, which are its wire form too. -/
def fields (d : PromptDescriptor) : List (Text × Json) :=
  [("name", .string d.name), ("description", .string d.description)]

/-- The wire form of a prompt. -/
def toJson (d : PromptDescriptor) : Json := .obj d.fields

end PromptDescriptor

end CommandBridge
