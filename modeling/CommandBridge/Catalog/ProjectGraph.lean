import CommandBridge.Catalog.Basic

/-!
# CommandBridge.Catalog.ProjectGraph

The catalog of a Project Graph application: nodes, edges, tags and screenshots
to read, tools that change the graph, and two prompts.
-/

namespace CommandBridge.Catalog

/-- An argument of a tool: its type and what it means. -/
def argument (name type description : String) : Text × Json :=
  (name, .object [("type", .string type), ("description", .string description)])

/-- A tool with its arguments and the names of those it needs. -/
def toolWith (name description : String) (arguments : List (Text × Json))
    (required : List String) : ToolDescriptor where
  name := name
  description := description
  inputSchema := [("type", .string "object"), ("properties", .obj arguments),
    ("required", .arr (required.map Json.string))]

/-- The catalog of a Project Graph application. -/
def projectGraph : Catalog where
  resources :=
    [{ uri := "project://nodes", name := "All Nodes"
       description := "List all text nodes with their locations and sizes" },
     { uri := "project://edges", name := "All Edges"
       description := "List all edges (connections) between nodes" },
     { uri := "project://screenshot", name := "Screenshot"
       description := "Capture screenshot of the current project view"
       mimeType := "image/png" },
     { uri := "project://tags", name := "Tags"
       description := "List all tags in the project" }]
  tools :=
    [toolWith "addNode" "Add a new text node to the project"
      [argument "text" "string" "The text content of the node",
       argument "x" "number" "X coordinate of the node",
       argument "y" "number" "Y coordinate of the node",
       argument "width" "number" "Width of the node (default: 200)",
       argument "height" "number" "Height of the node (default: 100)"]
      ["text", "x", "y"],
     toolWith "updateNode" "Update the text content of a node"
      [argument "nodeId" "string" "UUID of the node to update",
       argument "text" "string" "New text content"]
      ["nodeId", "text"],
     toolWith "updateNodePosition" "Update the position of a node"
      [argument "nodeId" "string" "UUID of the node to update",
       argument "x" "number" "New X coordinate",
       argument "y" "number" "New Y coordinate"]
      ["nodeId", "x", "y"],
     toolWith "updateNodeSize" "Update the size of a node"
      [argument "nodeId" "string" "UUID of the node to update",
       argument "width" "number" "New width",
       argument "height" "number"
        "New height (optional, auto-calculated from the text if not provided)"]
      ["nodeId", "width"],
     toolWith "connectNodes" "Create an edge connecting two nodes"
      [argument "sourceId" "string" "UUID of the source node",
       argument "targetId" "string" "UUID of the target node"]
      ["sourceId", "targetId"],
     toolWith "updateEdgeDirection"
      ("Update the direction of an edge connection. Controls which side of the nodes "
        ++ "the edge connects to. Use rate values between 0 and 1 to specify the position "
        ++ "on the node's rectangle. Common values: 0.5 (center), 0.01 (left/top edge), "
        ++ "0.99 (right/bottom edge)")
      [argument "edgeId" "string" "UUID of the edge to update",
       argument "sourceRateX" "number" "X rate for source connection point (0-1, where 0.5 is center)",
       argument "sourceRateY" "number" "Y rate for source connection point (0-1, where 0.5 is center)",
       argument "targetRateX" "number" "X rate for target connection point (0-1, where 0.5 is center)",
       argument "targetRateY" "number" "Y rate for target connection point (0-1, where 0.5 is center)"]
      ["edgeId"],
     toolWith "deleteNode" "Delete a node from the project"
      [argument "nodeId" "string" "UUID of the node to delete"]
      ["nodeId"]]
  prompts :=
    [{ name := "analyze-project"
       description := "Analyze the current project structure and provide insights" },
     { name := "suggest-organization"
       description := "Suggest ways to organize and improve the project structure" }]

end CommandBridge.Catalog
