import Graphide.Webview.Js
import Graphide.Webview.Provider

/-!
# The webview's state: `App`

Package `Webview`, file 3. The React component `App` of `webview-ui/src/App.tsx`: its state,
the handler of the host's messages, the actions of the analysis view, and the dashboard data it
derives on every render.

* `AppState` — the `useState` hooks that the analysis flow reads and writes.
* `App.handleMessage` — the `switch (msg.type)` of the message effect (l. 91–122); React applies
  its setter calls together, so one message is one state change.
* `App.handleAnalyze`, `App.handleClear`, `App.detectLanguage` — the actions; `handleAnalyze`
  returns the new state and the message it posts, if any.
* `dashboard` — the derived data of l. 173–179: the vulnerabilities of every reply in the
  history, the severity counts, and `cleanCount`, the code's own notion of a clean reply
  (`isCleanReply`). It is computed on every render, so a throw there empties the whole panel.

Not modelled: `GraphView` (its own state, fed by `graphData`), the scroll effect, and the
lookup of a name of `Object.prototype` in `langMap` (an extension such as `.constructor`); an
extension is looked up among the table's own keys, lower-cased on ASCII letters, which gives the
same entry as JavaScript's `toLowerCase` on every key of the table.
-/

namespace Graphide.Webview

/-- The chosen file. Source: `src/ide/webview-ui/src/App.tsx` l. 72. Kind: D -/
structure SelectedFile where
  path : String
  name : String

/-- A progress report. Source: `src/ide/webview-ui/src/App.tsx` l. 51–55. Kind: D -/
structure ProgressStep where
  step : Nat
  total : Nat
  message : String

/-- The three views. Source: `src/ide/webview-ui/src/App.tsx` l. 18. Kind: D -/
inductive ViewType
  | analysis
  | dashboard
  | graph
  deriving DecidableEq, Repr

/-- `App`'s state. `results` is whatever reply was set (`null` when there is none); `error` is
the last error text.
Source: `src/ide/webview-ui/src/App.tsx` l. 69–84
Kind: D -/
structure AppState where
  activeView : ViewType
  selectedFile : Option SelectedFile
  isAnalyzing : Bool
  progress : Option ProgressStep
  results : Json
  error : Option String
  backendStatus : String
  analysisHistory : List Json

/-- The state on mount. Source: `src/ide/webview-ui/src/App.tsx` l. 69–84. Kind: D -/
def AppState.initial : AppState :=
  ⟨.analysis, none, false, none, .null, none, "checking", []⟩

/-- The error text when it is truthy (`error && ...`): a non-empty one. Source:
`src/ide/webview-ui/src/App.tsx` l. 308, 345, 417. Kind: D -/
def AppState.errorShown (s : AppState) : Option String :=
  s.error.filter (!·.isEmpty)

namespace App

/-- The message effect's `handleMessage`.
Source: `src/ide/webview-ui/src/App.tsx` l. 91–122
Kind: D
Fidelity: exact -/
def handleMessage (s : AppState) : ToWebview → AppState
  | .fileSelected filePath fileName =>
    { s with selectedFile := some ⟨filePath, fileName⟩, error := none }
  | .analysisProgress step total message => { s with progress := some ⟨step, total, message⟩ }
  | .analysisResult data =>
    { s with isAnalyzing := false, progress := none, results := data,
             analysisHistory :=
               if data.truthy then data :: s.analysisHistory else s.analysisHistory }
  | .analysisError error => { s with isAnalyzing := false, progress := none, error := some error }
  | .healthCheckResult status => { s with backendStatus := status }
  | .graphData _ => s

/-- `langMap`. Source: `src/ide/webview-ui/src/App.tsx` l. 149–153. Kind: D -/
def langMap : List (String × String) :=
  [("c", "c"), ("h", "c"), ("cpp", "cpp"), ("cc", "cpp"), ("cxx", "cpp"), ("py", "python"),
    ("js", "javascript"), ("ts", "typescript"), ("java", "java"), ("go", "go"), ("rs", "rust"),
    ("rb", "ruby")]

/-- The language sent for a file: `langMap[ext] || 'c'`, where `ext` is the lower-cased text
after the last dot of the name (the whole name when it has none).
Source: `src/ide/webview-ui/src/App.tsx` l. 147–154
Kind: D -/
def detectLanguage (name : String) : String :=
  let ext := ((name.splitOn ".").getLast?.getD "").toLower
  (langMap.lookup ext).getD "c"

/-- `handleAnalyze`: nothing without a file or while a scan runs; otherwise the scan starts,
clearing the last outcome, and the request is posted.
Source: `src/ide/webview-ui/src/App.tsx` l. 141–161
Kind: D
Fidelity: exact -/
def handleAnalyze (s : AppState) : AppState × Option ToHost :=
  match s.selectedFile with
  | none => (s, none)
  | some f =>
    if s.isAnalyzing then (s, none)
    else ({ s with isAnalyzing := true, error := none, results := .null },
      some (.analyzeFiles f.path (detectLanguage f.name)))

/-- `handleClear`. Source: `src/ide/webview-ui/src/App.tsx` l. 163–168. Kind: D -/
def handleClear (s : AppState) : AppState :=
  { s with results := .null, error := none, progress := none, selectedFile := none }

end App

/-! ## The derived dashboard data -/

/-- The elements `flatMap` takes from a callback's value: an array's elements, or the value.
Source: ECMAScript `FlattenIntoArray` at depth one. Kind: D -/
def spread : Json → List Json
  | .arr xs => xs
  | v => [v]

/-- `analysisHistory.flatMap(r => r.vulnerabilities || [])`.
Source: `src/ide/webview-ui/src/App.tsx` l. 173–174
Kind: D
Fidelity: exact -/
def allVulnerabilities : List Json → Except TypeError (List Json)
  | [] => .ok []
  | r :: rs => do
    let v ← getProp (some r) "vulnerabilities"
    let found := match v with
      | some x => if x.truthy then x else .arr []
      | none => .arr []
    let rest ← allVulnerabilities rs
    return spread found ++ rest

/-- `vulnerabilities.filter(v => v.severity === severity).length`.
Source: `src/ide/webview-ui/src/App.tsx` l. 176–177
Kind: D
Fidelity: exact -/
def countSeverity (severity : String) : List Json → Except TypeError Nat
  | [] => .ok 0
  | v :: vs => do
    let s ← getProp (some v) "severity"
    let n ← countSeverity severity vs
    return (if isStr s severity then 1 else 0) + n

/-- The dashboard's test of a clean reply: `r.status === 'success' && (!r.vulnerabilities ||
r.vulnerabilities.length === 0)`.
Source: `src/ide/webview-ui/src/App.tsx` l. 179
Kind: D
Fidelity: exact -/
def isCleanReply (r : Json) : Except TypeError Bool := do
  if isStr (← getProp (some r) "status") "success" then
    let v ← getProp (some r) "vulnerabilities"
    if !truthy v then return true
    return isZero (← getProp v "length")
  else return false

/-- `analysisHistory.filter(isCleanReply).length`. Source: `src/ide/webview-ui/src/App.tsx`
l. 179. Kind: D -/
def countClean : List Json → Except TypeError Nat
  | [] => .ok 0
  | r :: rs => do
    let c ← isCleanReply r
    let n ← countClean rs
    return (if c then 1 else 0) + n

/-- The data `App` hands to `DashboardView`. Source: `src/ide/webview-ui/src/App.tsx`
l. 218–225. Kind: D -/
structure Dashboard where
  vulnerabilities : List Json
  criticalCount : Nat
  highCount : Nat
  totalCount : Nat
  cleanCount : Nat
  scanCount : Nat

/-- The derived data, computed on every render of `App`.
Source: `src/ide/webview-ui/src/App.tsx` l. 172–179
Kind: D
Fidelity: exact -/
def dashboard (history : List Json) : Except TypeError Dashboard := do
  let all ← allVulnerabilities history
  let criticalCount ← countSeverity "critical" all
  let highCount ← countSeverity "high" all
  let cleanCount ← countClean history
  return ⟨all, criticalCount, highCount, all.length, cleanCount, history.length⟩

end Graphide.Webview
