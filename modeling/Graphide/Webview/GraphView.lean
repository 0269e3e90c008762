import Graphide.Webview.App
import Graphide.Webview.Handler

/-!
# The dataflow graph view: `GraphView`

Package `Webview`, file 7. The component `GraphView` of `webview-ui/src/App.tsx` (l. 513–627):
a Load Graph button that posts `getGraph`, and a listener of its own that takes each
`graphData` message the host posts back into four pieces of state, the canvas's nodes and
relationships, the loading flag and the counts shown beside the button.

* `toNvlNode`, `toNvlRel`, `graphInfoOf`, `graphOf` — what the listener makes of a reply: each
  node's and relationship's fields, and the counts (`data.nodeCount || 0`, ...).
* `GraphView.handleMessage`, `listen` — the listener. It clears the loading flag, then, for a
  reply with nodes (`data && data.nodes`), sets the counts and only then maps the two lists, so
  a list that does not map throws after the counts have changed; React keeps every update queued
  before the throw.
* `listen_eq` — **the listener's step**, said once: what each message does to each field.
* `listen_run` — **over any sequence of messages**, from any number of overlapping loads: the
  counts are those of the latest reply with nodes, the canvas holds the graph of the latest
  reply whose two lists both map, and the loading flag is down once any `graphData` came.
* `loadRoundTrip` — one click of Load Graph with the host's answer, if its request resolves,
  taken by the listener.

Not modelled: the canvas (`InteractiveNvlWrapper`) itself, and the error React throws when a
count is an object (`{graphInfo.nodeCount}` as a child). The state lives as long as the view
stays mounted (`activeView === 'graph'`, l. 227); switching views drops it.
-/

namespace Graphide.Webview

/-! ## What the listener makes of a reply -/

/-- A node as the canvas gets it (`Node` of `@neo4j-nvl/base`), with the fields the code sets.
Source: `src/ide/webview-ui/src/App.tsx` l. 536–543
Kind: D -/
structure NvlNode where
  id : Option Json
  /-- The value of its one caption. -/
  caption : Option Json
  color : String
  size : Nat

/-- A relationship as the canvas gets it (`Relationship` of `@neo4j-nvl/base`).
Source: `src/ide/webview-ui/src/App.tsx` l. 545–550
Kind: D -/
structure NvlRel where
  id : Option Json
  /-- `from`. -/
  fromId : Option Json
  /-- `to`. -/
  toId : Option Json
  caption : Option Json

/-- The counts shown beside the button. Source: `src/ide/webview-ui/src/App.tsx` l. 517, 534,
587–591. Kind: D -/
structure GraphInfo where
  nodeCount : Option Json
  edgeCount : Option Json

/-- `GraphView`'s state. Source: `src/ide/webview-ui/src/App.tsx` l. 514–517. Kind: D -/
structure GraphState where
  nodes : List NvlNode
  rels : List NvlRel
  loading : Bool
  graphInfo : Option GraphInfo

/-- The state on mount. Source: `src/ide/webview-ui/src/App.tsx` l. 514–517. Kind: D -/
def GraphState.initial : GraphState := ⟨[], [], false, none⟩

/-- A node's color: `n.type === 'source' ? '#ef4444' : n.type === 'sink' ? '#f97316' :
'#22d3ee'`. Source: `src/ide/webview-ui/src/App.tsx` l. 539–541. Kind: D -/
def nodeColor (type : Option Json) : String :=
  if isStr type "source" then "#ef4444" else if isStr type "sink" then "#f97316" else "#22d3ee"

/-- A node's size: 30 for a source or a sink, 20 otherwise. Source:
`src/ide/webview-ui/src/App.tsx` l. 542. Kind: D -/
def nodeSize (type : Option Json) : Nat :=
  if isStr type "source" || isStr type "sink" then 30 else 20

/-- The node made of an element of `data.nodes`. A `null` element throws at its first read; the
other reads of an element are of the same value and cannot throw, so they are read in turn.
Source: `src/ide/webview-ui/src/App.tsx` l. 536–543
Kind: D
Fidelity: exact -/
def toNvlNode (n : Json) : Except TypeError NvlNode := do
  let id ← getProp (some n) "id"
  let caption ← getProp (some n) "caption"
  let code ← getProp (some n) "code"
  let type ← getProp (some n) "type"
  return ⟨id, jsOr caption (jsOr code id), nodeColor type, nodeSize type⟩

/-- The relationship made of an element of `data.relationships`: `r.caption || 'FLOWS_TO'`.
Source: `src/ide/webview-ui/src/App.tsx` l. 545–550
Kind: D
Fidelity: exact -/
def toNvlRel (r : Json) : Except TypeError NvlRel := do
  let id ← getProp (some r) "id"
  let fromId ← getProp (some r) "from"
  let toId ← getProp (some r) "to"
  let caption ← getProp (some r) "caption"
  return ⟨id, fromId, toId, jsOr caption (some (.str "FLOWS_TO"))⟩

/-- The counts of a reply: `{ nodeCount: data.nodeCount || 0, edgeCount: data.edgeCount || 0 }`.
Source: `src/ide/webview-ui/src/App.tsx` l. 534
Kind: D
Fidelity: exact -/
def graphInfoOf (data : Json) : Except TypeError GraphInfo := do
  let nodeCount ← getProp (some data) "nodeCount"
  let edgeCount ← getProp (some data) "edgeCount"
  return ⟨jsOr nodeCount (some (.num 0)), jsOr edgeCount (some (.num 0))⟩

/-- The graph of a reply: `data.nodes.map(...)`, then `data.relationships.map(...)`.
Source: `src/ide/webview-ui/src/App.tsx` l. 536–550
Kind: D
Fidelity: exact -/
def graphOf (data : Json) : Except TypeError (List NvlNode × List NvlRel) := do
  let nodes ← (← mapList (← getProp (some data) "nodes")).mapM toNvlNode
  let rels ← (← mapList (← getProp (some data) "relationships")).mapM toNvlRel
  return (nodes, rels)

/-- A truthy reply's reads never throw, so its counts are always there. Source: none:
infrastructure. Kind: L -/
theorem graphInfoOf_of_truthy {data : Json} (hd : data.truthy = true) :
    ∃ info, graphInfoOf data = .ok info := by
  obtain ⟨n, hn⟩ := getProp_of_truthy (v := some data) hd "nodeCount"
  obtain ⟨e, he⟩ := getProp_of_truthy (v := some data) hd "edgeCount"
  exact ⟨_, by simp only [graphInfoOf, hn, he]; rfl⟩

/-! ## The listener -/

namespace GraphView

/-- The message listener of `GraphView`'s effect.
Source: `src/ide/webview-ui/src/App.tsx` l. 527–561
Kind: D
Fidelity: exact -/
def handleMessage : ToWebview → Handler TypeError GraphState Unit
  | .graphData data => do
    modify ({ · with loading := false })
    if data.truthy then
      if truthy (← getProp (some data) "nodes") then
        let info ← graphInfoOf data
        modify ({ · with graphInfo := some info })
        let graph ← graphOf data
        modify ({ · with nodes := graph.1, rels := graph.2 })
  | _ => pure ()

/-- `loadGraph(filePath)`: the view starts loading and posts `getGraph` with `filePath ||
undefined` and no scan id.
Source: `src/ide/webview-ui/src/App.tsx` l. 519–525
Kind: D
Fidelity: exact -/
def loadGraph (filePath : Option String) (g : GraphState) : GraphState × ToHost :=
  ({ g with loading := true }, .getGraph (filePath.filter (!·.isEmpty)) none)

/-- A click of Load Graph, `loadGraph(selectedFile?.path)`; the button is disabled while the
view loads.
Source: `src/ide/webview-ui/src/App.tsx` l. 576–580
Kind: D -/
def clickLoadGraph (selectedFile : Option SelectedFile) (g : GraphState) :
    GraphState × Option ToHost :=
  if g.loading then (g, none)
  else
    let (g', msg) := loadGraph (selectedFile.map (·.path)) g
    (g', some msg)

end GraphView

/-- The state the listener leaves, whether or not it threw: a throw in a window listener is
reported and dropped, and the updates queued before it are rendered.
Source: `src/ide/webview-ui/src/App.tsx` l. 527–561
Kind: D -/
def listen (g : GraphState) (m : ToWebview) : GraphState :=
  ((GraphView.handleMessage m).run.run g).2

/-! ## The listener's step -/

/-- Whether a message is `graphData`. Source: none: infrastructure. Kind: D -/
def ToWebview.isGraphData : ToWebview → Bool
  | .graphData _ => true
  | _ => false

/-- Whether the listener takes a reply: `data && data.nodes`.
Source: `src/ide/webview-ui/src/App.tsx` l. 533
Kind: D -/
def takesReply (data : Json) : Bool :=
  data.truthy && match getProp (some data) "nodes" with
    | .ok nodes => truthy nodes
    | .error _ => false

/-- The counts a message sets: those of a reply the listener takes. Source:
`src/ide/webview-ui/src/App.tsx` l. 533–534. Kind: D -/
def countsOf : ToWebview → Option GraphInfo
  | .graphData data => if takesReply data then (graphInfoOf data).toOption else none
  | _ => none

/-- The graph a message puts on the canvas: that of a reply the listener takes, when both of
its lists map. Source: `src/ide/webview-ui/src/App.tsx` l. 533–554. Kind: D -/
def graphSetBy : ToWebview → Option (List NvlNode × List NvlRel)
  | .graphData data => if takesReply data then (graphOf data).toOption else none
  | _ => none

/-- **The listener's step.** A `graphData` message lowers the loading flag; a reply with nodes
sets the counts, and its graph when both lists map; every other message changes nothing.
Source: `src/ide/webview-ui/src/App.tsx` l. 527–561
Kind: L -/
theorem listen_eq (g : GraphState) (m : ToWebview) :
    listen g m =
      { nodes := ((graphSetBy m).map (·.1)).getD g.nodes
        rels := ((graphSetBy m).map (·.2)).getD g.rels
        loading := g.loading && !m.isGraphData
        graphInfo := (countsOf m).or g.graphInfo } := by
  cases m with
  | graphData data =>
    simp only [listen, GraphView.handleMessage, countsOf, graphSetBy, takesReply,
      ToWebview.isGraphData, Bool.not_true, Bool.and_false, Handler.run_modify_bind]
    by_cases hd : data.truthy
    · obtain ⟨nodes, hn⟩ := getProp_of_truthy (v := some data) hd "nodes"
      obtain ⟨info, hi⟩ := graphInfoOf_of_truthy hd
      by_cases ht : truthy nodes
      · cases hg : graphOf data <;>
          simp only [hd, hn, ht, hi, hg, if_true, Bool.true_and, Handler.run_lift_ok_bind,
            Handler.run_lift_error_bind, Handler.run_modify_bind, Handler.run_modify,
            Except.toOption, Option.map_some', Option.map_none', Option.getD_some,
            Option.getD_none, Option.or_some]
      · simp only [hd, hn, ht, if_true, if_false, Bool.true_and, Bool.false_eq_true,
          Handler.run_lift_ok_bind, Handler.run_pure, Option.map_none', Option.getD_none,
          Option.none_or]
    · simp only [hd, if_false, Bool.false_and, Bool.false_eq_true, Handler.run_pure,
        Option.map_none', Option.getD_none, Option.none_or]
  | _ => simp [listen, GraphView.handleMessage, countsOf, graphSetBy, ToWebview.isGraphData]

/-! ## Over a run -/

/-- **Any sequence of messages.** Whatever messages reach the listener, from however many
overlapping loads, the counts are those of the latest reply with nodes, the canvas holds the
graph of the latest reply whose nodes and relationships both map, and the loading flag is down
once a `graphData` came. The two can be of different replies: a reply with nodes whose
`relationships` is not an array sets the counts and leaves the previous graph.
Source: `src/ide/webview-ui/src/App.tsx` l. 514–561
Kind: P -/
theorem listen_run (ms : List ToWebview) (g : GraphState) :
    (ms.foldl listen g).graphInfo = (ms.reverse.findSome? countsOf).or g.graphInfo ∧
      ((ms.foldl listen g).nodes, (ms.foldl listen g).rels) =
        (ms.reverse.findSome? graphSetBy).getD (g.nodes, g.rels) ∧
      (ms.foldl listen g).loading = (g.loading && !ms.any ToWebview.isGraphData) := by
  induction ms generalizing g with
  | nil => simp
  | cons m ms ih =>
    obtain ⟨hi, hgraph, hl⟩ := ih (listen g m)
    simp only [List.foldl_cons]
    rw [hi, hgraph, hl, listen_eq]
    simp only [List.reverse_cons, List.findSome?_append, List.findSome?, List.any_cons]
    refine ⟨?_, ?_, ?_⟩
    · cases ms.reverse.findSome? countsOf <;> cases countsOf m <;> rfl
    · cases ms.reverse.findSome? graphSetBy <;> cases graphSetBy m <;> rfl
    · cases m.isGraphData <;> simp

/-- A reply whose nodes map but whose `relationships` is missing shows its counts beside the
graph of the reply before it. -/
example :
    let before : Json := .obj [("nodes", .arr [.obj [("id", .num 1)]]), ("relationships", .arr []),
      ("nodeCount", .num 1)]
    let after : Json := .obj [("nodes", .arr [.obj [("id", .num 2)]]), ("nodeCount", .num 7)]
    let g := [ToWebview.graphData before, .graphData after].foldl listen GraphState.initial
    (g.graphInfo.map (·.nodeCount), g.nodes.map (·.id)) = (some (some (.num 7)), [some (.num 1)]) :=
  rfl

/-! ## The round trip -/

/-- The data of the `graphData` message the host posts for a graph request: the parsed reply,
or the empty graph with the status `'error'` when the request or its parse failed.
Source: `graphideWebviewProvider.ts` l. 167–177
Kind: D -/
def graphReply : Except String Json → Json
  | .ok data => data
  | .error _ => .obj [("nodes", .arr []), ("relationships", .arr []), ("status", .str "error")]

/-- The host answers a graph request with one `graphData` once its request resolves. Source:
`graphideWebviewProvider.ts` l. 156–179. Kind: L -/
theorem handleMessage_getGraph (H : Host) (filePath scanId : Option String) :
    GraphideWebviewProvider.handleMessage H (.getGraph filePath scanId) =
      (H.fetch (.graph (GraphideWebviewProvider.graphParams filePath scanId))).toList.map
        (.graphData ∘ graphReply) := by
  simp only [GraphideWebviewProvider.handleMessage]
  rcases H.fetch (.graph (GraphideWebviewProvider.graphParams filePath scanId)) with _ | _ | _ <;>
    rfl

/-- One click of Load Graph, to the state the host's answer leaves.
Source: `src/ide/webview-ui/src/App.tsx` l. 519–561, 576–580; `graphideWebviewProvider.ts`
l. 156–179
Kind: D -/
def loadRoundTrip (H : Host) (selectedFile : Option SelectedFile) (g : GraphState) :
    GraphState :=
  match GraphView.clickLoadGraph selectedFile g with
  | (g', some msg) => (GraphideWebviewProvider.handleMessage H msg).foldl listen g'
  | (g', none) => g'

end Graphide.Webview
