import Graphide.Json

/-!
# The host: `GraphideWebviewProvider.handleMessage`

Package `Webview`, file 2. The VS Code side of the panel (`graphideWebviewProvider.ts`): it
receives the webview's messages and answers each by posting messages back, after asking the file
dialog or the backend.

* `ToHost`, `ToWebview` — the messages each way, with the fields the other side reads.
* `Request`, `Host` — the three backend calls (the scan `POST /agent/request` with its JSON body,
  `GET /`, `GET /graph` with its search parameters) and what the host's environment answers:
  the dialog's choice, and for each call either nothing, for a request that never resolves
  (every call passes `CancellationToken.None` and sets no timeout), or the body `asJson` parsed
  (`null` for an empty reply), or the message of whatever `request` or `asJson` threw — a
  transport failure, an HTTP status `asJson` rejects, a body that does not parse. Every theorem
  quantifies over the host.
* `GraphideWebviewProvider.handleMessage` — the four cases of the `switch`; `analyzeFiles` is
  the scan.
* `analyzeFiles_eq` — **the scan's messages**: an empty path gets one `analysisError`; any other
  gets `analysisProgress` and then, once its request resolves, exactly one terminal message,
  `analysisResult` with the parsed reply or `analysisError` with the failure's text; a request
  that never resolves leaves the handler waiting after the progress message.
* `Host.hangsOn` — whether the handler of a message is left waiting for good.

Not modelled: `getWebviewHtml` (the page the panel loads), and the `data` field of
`healthCheckResult`, which the webview does not read.
-/

namespace Graphide.Webview

/-- `BACKEND_URL`. Source:
`src/ide/src/vs/workbench/contrib/graphide/browser/graphideWebviewProvider.ts`
l. 19. Kind: D -/
def backendUrl : String := "http://localhost:8000"

/-- A message the webview posts to the host, with the fields the host reads.
Source: `src/ide/webview-ui/src/App.tsx` l. 126, 138, 156–160, 521–524; the provider's
`switch (message.type)` (l. 66–180)
Kind: D -/
inductive ToHost
  | selectFiles
  | analyzeFiles (filePath language : String)
  | healthCheck
  | getGraph (filePath scanId : Option String)

/-- A message the host posts to the webview.
Source: `graphideWebviewProvider.ts` l. 80–84, 92, 97–101, 120–130, 142–151, 168–176
Kind: D -/
inductive ToWebview
  | fileSelected (filePath fileName : String)
  | analysisProgress (step total : Nat) (message : String)
  | analysisResult (data : Json)
  | analysisError (error : String)
  | healthCheckResult (status : String)
  | graphData (data : Json)

/-- A call of the backend, by what the host sends.
Source: `graphideWebviewProvider.ts` l. 111–116, 137–140, 163–166
Kind: D -/
inductive Request
  /-- `POST ${BACKEND_URL}/agent/request` with this JSON body. -/
  | agent (payload : Json)
  /-- `GET ${BACKEND_URL}/`. -/
  | health
  /-- `GET ${BACKEND_URL}/graph?...` with these search parameters, in order. -/
  | graph (params : List (String × String))

/-- The host's environment, as an oracle.
Source: `graphideWebviewProvider.ts` l. 69–75, 111–118, 137–141, 163–167
Kind: D -/
structure Host where
  /-- `showOpenDialog`: the chosen URI's `fsPath` and `basename`, or nothing chosen. -/
  openDialog : Option (String × String)
  /-- `requestService.request` and `asJson` of its reply, awaited with `CancellationToken.None`
  and no timeout: `none` for a request that never resolves; else the parsed body, or the text
  the catch clause makes of what was thrown (`error.message` of an `Error`, `String(error)`
  otherwise). -/
  fetch : Request → Option (Except String Json)

namespace GraphideWebviewProvider

/-- The scan request's body: `language || 'c'`.
Source: `graphideWebviewProvider.ts` l. 104–109
Kind: D
Fidelity: exact -/
def scanPayload (filePath language : String) : Json :=
  .obj [("intent", .str "scan"), ("filePath", .str filePath),
    ("language", .str (if language.isEmpty then "c" else language)),
    ("userQuery", .str "Analyze this file")]

/-- The `analyzeFiles` case.
Source: `graphideWebviewProvider.ts` l. 89–133
Kind: D
Fidelity: exact -/
def analyzeFiles (H : Host) (filePath language : String) : List ToWebview :=
  if filePath.isEmpty then [.analysisError "No file selected"]
  else
    .analysisProgress 1 5 "Sending to backend..." ::
      match H.fetch (.agent (scanPayload filePath language)) with
      | some (.ok data) => [.analysisResult data]
      | some (.error errorMessage) => [.analysisError
          s!"Backend Error: {errorMessage}\n\nEnsure the backend is running at {backendUrl}"]
      | none => []

/-- The search parameters of `getGraph`: each of the two, when the message holds a truthy one.
Source: `graphideWebviewProvider.ts` l. 157–161
Kind: D
Fidelity: exact -/
def graphParams (filePath scanId : Option String) : List (String × String) :=
  (match filePath with
    | some p => if p.isEmpty then [] else [("file_path", p)]
    | none => []) ++
  (match scanId with
    | some s => if s.isEmpty then [] else [("scan_id", s)]
    | none => [])

/-- `handleMessage`: the messages the host posts in answer to one message of the webview.
Source: `graphideWebviewProvider.ts` l. 65–181
Kind: D
Fidelity: exact -/
def handleMessage (H : Host) : ToHost → List ToWebview
  | .selectFiles =>
    match H.openDialog with
    | some (path, name) => [.fileSelected path name]
    | none => []
  | .analyzeFiles filePath language => analyzeFiles H filePath language
  | .healthCheck =>
    match H.fetch .health with
    | some (.ok _) => [.healthCheckResult "connected"]
    | some (.error _) => [.healthCheckResult "disconnected"]
    | none => []
  | .getGraph filePath scanId =>
    match H.fetch (.graph (graphParams filePath scanId)) with
    | some (.ok data) => [.graphData data]
    | some (.error _) => [.graphData (.obj [("nodes", .arr []), ("relationships", .arr []),
        ("status", .str "error")])]
    | none => []

end GraphideWebviewProvider

/-! ## The scan's messages -/

/-- Whether a message ends a scan: `analysisResult` or `analysisError`. Source: none:
infrastructure. Kind: D -/
def ToWebview.isTerminal : ToWebview → Bool
  | .analysisResult _ => true
  | .analysisError _ => true
  | _ => false

/-- The terminal message of a scan whose request got this reply.
Source: `graphideWebviewProvider.ts` l. 118–130
Kind: D -/
def terminalFor : Except String Json → ToWebview
  | .ok data => .analysisResult data
  | .error errorMessage => .analysisError
      s!"Backend Error: {errorMessage}\n\nEnsure the backend is running at {backendUrl}"

/-- A scan's answer is terminal, whatever the reply. Source: none: infrastructure. Kind: L -/
@[simp]
theorem terminalFor_isTerminal (reply : Except String Json) :
    (terminalFor reply).isTerminal = true := by
  cases reply <;> rfl

/-- The scan's messages, as a whole: a path is required, and a request is answered by a
progress message and then, once it resolves, its one terminal message.
Source: `graphideWebviewProvider.ts` l. 89–133
Kind: L -/
theorem analyzeFiles_eq (H : Host) (filePath language : String) :
    GraphideWebviewProvider.analyzeFiles H filePath language =
      if filePath.isEmpty then [.analysisError "No file selected"]
      else .analysisProgress 1 5 "Sending to backend..." ::
        (H.fetch (.agent (GraphideWebviewProvider.scanPayload filePath language))).toList.map
          terminalFor := by
  unfold GraphideWebviewProvider.analyzeFiles
  split
  · rfl
  · rcases H.fetch (.agent (GraphideWebviewProvider.scanPayload filePath language))
      with _ | _ | _ <;> rfl

/-- Whether the host's handler of a message is left waiting for good: it awaits a backend
request that never resolves.
Source: `graphideWebviewProvider.ts` l. 89–117, 135–141, 155–167
Kind: D -/
def Host.hangsOn (H : Host) : ToHost → Bool
  | .selectFiles => false
  | .analyzeFiles filePath language =>
    !filePath.isEmpty &&
      (H.fetch (.agent (GraphideWebviewProvider.scanPayload filePath language))).isNone
  | .healthCheck => (H.fetch .health).isNone
  | .getGraph filePath scanId =>
    (H.fetch (.graph (GraphideWebviewProvider.graphParams filePath scanId))).isNone

end Graphide.Webview
