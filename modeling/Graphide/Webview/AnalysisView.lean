import Graphide.Webview.App

/-!
# What the analysis view shows

Package `Webview`, file 4. `AnalysisView` of `webview-ui/src/App.tsx` (l. 254–434), rendered
from `App`'s state: the toolbar, the progress section, and the results area with its error
alert, status banner, vulnerability cards, agent outputs, patches and empty state.

* `hasFindings`, `bannerClass`, `bannerTexts` — the status banner: its class
  (`'vulnerable'`, `'error'`, or `'clean'` for everything else) and which of its three
  conditional texts render.
* `RenderError`, `reactChild`, `renderMarkdown` — what makes rendering throw: a `TypeError` of
  the view's code, React's error for an object as a child, and `marked`'s for a markdown input
  that is not a string. App has no error boundary, so React 18 unmounts the whole tree and the
  panel is blank.
* `renderCard`, `renderAgentOutput`, `renderPatch` — each list element's reads, class strings
  and markdown, and the children it renders.
* `renderBanner`, `renderLists`, `renderResults`, `renderAnalysis` — the results area for a
  truthy reply, and the whole view: the view's code evaluated first, then React's check of the
  children it built, in the order of the tree.

Not modelled: the text `0` React renders for a guard (`results && ...`, `v && v.length > 0
&& ...`) whose value is the number `0`, and the HTML `marked` makes of a string.
-/

namespace Graphide.Webview

/-! ## The status banner -/

/-- `results.status === 'success' && results.vulnerabilities &&
results.vulnerabilities.length > 0`.
Source: `src/ide/webview-ui/src/App.tsx` l. 355–356
Kind: D
Fidelity: exact -/
def hasFindings (J : JsEngine) (results : Json) : Except TypeError Bool := do
  if isStr (← getProp (some results) "status") "success" then
    let v ← getProp (some results) "vulnerabilities"
    if truthy v then gtZero J (← getProp v "length") else return false
  else return false

/-- The banner's class: `vulnerable` for findings, `error` for the status `'error'`, and
`clean` for every other reply.
Source: `src/ide/webview-ui/src/App.tsx` l. 355
Kind: D
Fidelity: exact -/
def bannerClass (J : JsEngine) (results : Json) : Except TypeError String := do
  if (← hasFindings J results) then return "vulnerable"
  if isStr (← getProp (some results) "status") "error" then return "error"
  return "clean"

/-- A text of the banner: the findings' count, or the message shown for a success without
findings or for an error (`results.message || default`).
Source: `src/ide/webview-ui/src/App.tsx` l. 356–364
Kind: D -/
inductive BannerText
  /-- `Found {results.vulnerabilities.length} vulnerability issue(s)`. -/
  | found (count : Option Json)
  /-- `{results.message || 'No vulnerabilities detected'}`. -/
  | noneFound (shown : Json)
  /-- `{results.message || 'Analysis error'}`. -/
  | analysisError (shown : Json)

/-- `v || default` for a text default. Source: ECMAScript `||`. Kind: D -/
def orText (v : Option Json) (default : String) : Json :=
  match v with
  | some x => if x.truthy then x else .str default
  | none => .str default

/-- The banner's texts that render, in order: each of the three is guarded by its own
condition. These are the values the banner's code puts as children; whether React can render
them is `reactChild`'s to say.
Source: `src/ide/webview-ui/src/App.tsx` l. 356–364
Kind: D
Fidelity: exact -/
def bannerTexts (J : JsEngine) (results : Json) : Except TypeError (List BannerText) := do
  let status ← getProp (some results) "status"
  let vulns ← getProp (some results) "vulnerabilities"
  let message ← getProp (some results) "message"
  let first ← if (← hasFindings J results) then do
      pure [BannerText.found (← getProp vulns "length")]
    else pure []
  let second ← if isStr status "success" then do
      if !truthy vulns then
        pure [BannerText.noneFound (orText message "No vulnerabilities detected")]
      else if isZero (← getProp vulns "length") then
        pure [BannerText.noneFound (orText message "No vulnerabilities detected")]
      else pure []
    else pure []
  let third :=
    if isStr status "error" then [BannerText.analysisError (orText message "Analysis error")]
    else []
  return first ++ second ++ third

/-- The value a banner text puts as a child. Source: `src/ide/webview-ui/src/App.tsx`
l. 357, 360, 363. Kind: D -/
def BannerText.child : BannerText → Option Json
  | .found count => count
  | .noneFound shown => some shown
  | .analysisError shown => some shown

/-- The status banner: its class and texts. Source: `src/ide/webview-ui/src/App.tsx`
l. 354–365. Kind: D -/
structure Banner where
  cls : String
  texts : List BannerText

/-! ## What makes rendering throw -/

/-- Why the view throws while it renders. App has no error boundary, so React 18 unmounts the
whole tree and the panel is left blank.
Source: `src/ide/webview-ui/src/App.tsx` l. 61–63, 254–434
Kind: D -/
inductive RenderError
  /-- A `TypeError` of the view's code: a read of `null`, a `map` of something that is not an
  array, a template literal's `${v}` of an object with no primitive form. -/
  | typeError (e : TypeError)
  /-- React's "Objects are not valid as a React child". -/
  | objectChild
  /-- `marked`'s error for an input that is `undefined`, `null` or not a string. -/
  | markedInput
  deriving DecidableEq, Repr

/-- A value put as a React child: `undefined`, `null`, booleans, numbers and strings render, an
array renders each element, and an object throws.
Source: React's reconciliation of a child (`throwOnInvalidObjectType`), as `{v.id}`,
`{results.message || ...}` and their siblings meet it (`src/ide/webview-ui/src/App.tsx`
l. 357–409)
Kind: D
Fidelity: exact -/
def reactChild : Option Json → Except RenderError Unit
  | some v =>
    if v.someLeaf (fun x => match x with | .obj _ => true | _ => false) then .error .objectChild
    else .ok ()
  | none => .ok ()

/-- `renderMarkdown(md)`, that is `marked.parse(md)`: a string renders; `marked` throws on
anything else (its `silent` option is off).
Source: `src/ide/webview-ui/src/App.tsx` l. 59–63
Kind: D -/
def renderMarkdown : Option Json → Except RenderError Unit
  | some (.str _) => .ok ()
  | _ => .error .markedInput

/-- A read of the view's code, whose `TypeError` empties the panel. Source: none:
infrastructure. Kind: D -/
def liftRead {α : Type} (x : Except TypeError α) : Except RenderError α :=
  x.mapError .typeError

/-! ## The lists -/

/-- One vulnerability card: the reads and class strings its code evaluates, in order (a `null`
element throws at the first read), and the children it renders: the severity, id, type,
description, file and line. A falsy description is its own child, which renders nothing or `0`.
Source: `src/ide/webview-ui/src/App.tsx` l. 370–382
Kind: D
Fidelity: exact -/
def renderCard (v : Json) : Except RenderError (List (Option Json)) := liftRead do
  -- `vuln-card severity-${v.severity}`, then `severity-badge ${v.severity}`
  let severity ← getProp (some v) "severity"
  jsToString severity
  let id ← getProp (some v) "id"
  let type ← getProp (some v) "type"
  -- `v.cwe ? ` (${v.cwe})` : ''`
  let cwe ← getProp (some v) "cwe"
  if truthy cwe then jsToString cwe
  let description ← getProp (some v) "description"
  let file ← getProp (some v) "file"
  let line ← getProp (some v) "line"
  return [severity, id, type, description, file, line]

/-- One agent output: its name, the child it renders, and its `markdownOutput` through
`renderMarkdown`.
Source: `src/ide/webview-ui/src/App.tsx` l. 387–398
Kind: D
Fidelity: exact -/
def renderAgentOutput (output : Json) : Except RenderError (Option Json) := do
  let agentName ← liftRead (getProp (some output) "agentName")
  renderMarkdown (← liftRead (getProp (some output) "markdownOutput"))
  return agentName

/-- One patch card: the children it renders, its description and its code.
Source: `src/ide/webview-ui/src/App.tsx` l. 404–411
Kind: D
Fidelity: exact -/
def renderPatch (patch : Json) : Except RenderError (List (Option Json)) := liftRead do
  let description ← getProp (some patch) "description"
  let code ← getProp (some patch) "code"
  return [description, code]

/-- A list the results area maps over, guarded as the source guards it: each element rendered
by `each`, in order.
Source: `src/ide/webview-ui/src/App.tsx` l. 368–370, 387, 401–404
Kind: D -/
def renderList {α : Type} (guard : Bool) (list : Option Json) (each : Json → Except RenderError α) :
    Except RenderError (List α) := do
  if guard then (← liftRead (mapList list)).mapM each
  else return []

/-- `results.vulnerabilities && results.vulnerabilities.length > 0`, and the same for
`patchProposals`. Source: `src/ide/webview-ui/src/App.tsx` l. 368, 401. Kind: D -/
def nonEmpty (J : JsEngine) (list : Option Json) : Except TypeError Bool := do
  if truthy list then gtZero J (← getProp list "length") else return false

/-! ## The view -/

/-- What the analysis view shows.
Source: `src/ide/webview-ui/src/App.tsx` l. 266–433
Kind: D -/
structure AnalysisScreen where
  /-- The analyze button is enabled: a file, no scan running, a backend not known to be down. -/
  analyzeEnabled : Bool
  /-- The clear button shows: `results || error`. -/
  clearShown : Bool
  /-- The warning that the backend is not reachable. -/
  backendWarning : Bool
  /-- The progress section: `none` when no scan runs; the report, or none yet, while one does. -/
  progress : Option (Option ProgressStep)
  /-- The error alert's text. -/
  alert : Option String
  banner : Option Banner
  /-- Each vulnerability card's children. -/
  cards : List (List (Option Json))
  /-- Each agent output's name. -/
  agentOutputs : List (Option Json)
  /-- Each patch card's children. -/
  patches : List (List (Option Json))
  /-- The "Ready to analyze" empty state. -/
  emptyState : Bool

/-- The status banner for a reply: its class, then its texts.
Source: `src/ide/webview-ui/src/App.tsx` l. 354–365
Kind: D
Fidelity: exact -/
def renderBanner (J : JsEngine) (results : Json) : Except TypeError Banner := do
  let cls ← bannerClass J results
  let texts ← bannerTexts J results
  return ⟨cls, texts⟩

/-- The lists below the banner: vulnerability cards, agent outputs and patches.
Source: `src/ide/webview-ui/src/App.tsx` l. 367–413
Kind: D
Fidelity: exact -/
def renderLists (J : JsEngine) (results : Json) :
    Except RenderError
      (List (List (Option Json)) × List (Option Json) × List (List (Option Json))) := do
  let vulns ← liftRead (getProp (some results) "vulnerabilities")
  let cards ← renderList (← liftRead (nonEmpty J vulns)) vulns renderCard
  let outputs ← liftRead (getProp (some results) "agentOutputs")
  let agentOutputs ← renderList (truthy outputs) outputs renderAgentOutput
  let patches ← liftRead (getProp (some results) "patchProposals")
  let patchCards ← renderList (← liftRead (nonEmpty J patches)) patches renderPatch
  return (cards, agentOutputs, patchCards)

/-- The results area for a truthy reply: the banner and the lists as the view's code evaluates
them, then React's check of the children they put, in the order of the tree.
Source: `src/ide/webview-ui/src/App.tsx` l. 352–415
Kind: D
Fidelity: exact -/
def renderResults (J : JsEngine) (results : Json) :
    Except RenderError
      (Banner × List (List (Option Json)) × List (Option Json) × List (List (Option Json))) := do
  let banner ← liftRead (renderBanner J results)
  let (cards, agentOutputs, patches) ← renderLists J results
  (banner.texts.map BannerText.child ++ cards.flatten ++ agentOutputs ++ patches.flatten).forM
    reactChild
  return (banner, cards, agentOutputs, patches)

/-- `AnalysisView`, rendered from `App`'s state. Its other children (the file's name, the
progress report, the error text) are strings and numbers the host and App put there.
Source: `src/ide/webview-ui/src/App.tsx` l. 254–434
Kind: D
Fidelity: exact -/
def renderAnalysis (J : JsEngine) (s : AppState) : Except RenderError AnalysisScreen := do
  let results ← if s.results.truthy then some <$> renderResults J s.results else pure none
  return {
    analyzeEnabled := s.selectedFile.isSome && !s.isAnalyzing && s.backendStatus != "disconnected"
    clearShown := s.results.truthy || s.errorShown.isSome
    backendWarning := s.backendStatus == "disconnected"
    progress := if s.isAnalyzing then some s.progress else none
    alert := s.errorShown
    banner := results.map (·.1)
    cards := (results.map (·.2.1)).getD []
    agentOutputs := (results.map (·.2.2.1)).getD []
    patches := (results.map (·.2.2.2)).getD []
    emptyState := !s.results.truthy && s.errorShown.isNone && !s.isAnalyzing }

end Graphide.Webview
