import Graphide.Webview.AnalysisView

/-!
# One analysis, end to end

Package `Webview`, file 5. A click of Analyze: `App.handleAnalyze` posts the request, the host
answers with its messages (`GraphideWebviewProvider.handleMessage`), `App.handleMessage` takes
each in turn, and `AnalysisView` renders the state they leave.

* `analyze`, `terminal` — the round trip, and the one terminal message the host posts for it,
  if its request resolves.
* `analyze_eq` — the round trip is `handleAnalyze`'s state with the progress report and then
  the terminal message, if any, applied.
* `Shown`, `AnalysisScreen.shown`, `shownFor` — what the results area shows among the error
  alert, the status banner (by class) and the "Ready to analyze" empty state; and what the code
  shows for each terminal message: the alert for an error text, the empty state for a falsy
  reply, and the banner of `bannerClass` for a truthy one.
* `analyze_shown` — **the round trip's contract**: once the request completes, no scan runs and
  the view shows `shownFor` of the terminal message, unless rendering throws and the panel is
  blank; a request that never resolves leaves step 1 of 5 on show and no outcome.
* `analyze_failed_or_null_reply` — two replies the backend can send with HTTP 200: a status
  other than `'success'` and `'error'` gets the `clean` banner, with no text, although the
  dashboard's own test (`isCleanReply`) calls it not clean; and a `null` body leaves the view in
  its "Ready to analyze" state.
-/

namespace Graphide.Webview

/-! ## The round trip -/

/-- One click of Analyze, to the state the host's last message leaves.
Source: `src/ide/webview-ui/src/App.tsx` l. 91–122, 141–161;
`graphideWebviewProvider.ts` l. 65–133
Kind: D -/
def analyze (H : Host) (s : AppState) : AppState :=
  match App.handleAnalyze s with
  | (s', some msg) => (GraphideWebviewProvider.handleMessage H msg).foldl App.handleMessage s'
  | (s', none) => s'

/-- The terminal message the host posts for a scan of `f`, if its request resolves.
Source: `graphideWebviewProvider.ts` l. 89–133
Kind: D -/
def terminal (H : Host) (f : SelectedFile) : Option ToWebview :=
  if f.path.isEmpty then some (.analysisError "No file selected")
  else (H.fetch (.agent (GraphideWebviewProvider.scanPayload f.path
    (App.detectLanguage f.name)))).map terminalFor

/-- **The round trip** from a state with a file and no scan running: the state `handleAnalyze`
leaves, with the progress report (for a path) and then the terminal message, if any, applied.
Source: `src/ide/webview-ui/src/App.tsx` l. 99–116, 141–161
Kind: L -/
theorem analyze_eq (H : Host) {s : AppState} {f : SelectedFile} (hf : s.selectedFile = some f)
    (ha : s.isAnalyzing = false) :
    analyze H s = (terminal H f).toList.foldl App.handleMessage
      { s with isAnalyzing := true, error := none, results := .null,
               progress := if f.path.isEmpty then s.progress
                 else some ⟨1, 5, "Sending to backend..."⟩ } := by
  simp only [analyze, App.handleAnalyze, hf, ha, Bool.false_eq_true, if_false,
    GraphideWebviewProvider.handleMessage, analyzeFiles_eq, terminal]
  split
  · rfl
  · cases H.fetch _ <;> rfl

/-! ## What the results area shows -/

/-- One of the outcomes the results area can show.
Source: `src/ide/webview-ui/src/App.tsx` l. 345–428
Kind: D -/
inductive Shown
  | alert (text : String)
  | banner (cls : String)
  | readyToAnalyze
  deriving DecidableEq, Repr

/-- Everything the results area shows among the alert, the banner and the empty state.
Source: `src/ide/webview-ui/src/App.tsx` l. 345–428
Kind: D -/
def AnalysisScreen.shown (v : AnalysisScreen) : List Shown :=
  v.alert.toList.map .alert ++ v.banner.toList.map (fun b => .banner b.cls) ++
    if v.emptyState then [.readyToAnalyze] else []

/-- What the code shows for a scan's terminal message: the alert for a non-empty error text,
the banner of the rendered results area for a truthy reply (its class is `bannerClass`), and
the empty state otherwise; the `RenderError` when rendering the results area throws.
Source: `src/ide/webview-ui/src/App.tsx` l. 103–116, 345–428
Kind: D -/
def shownFor (J : JsEngine) : ToWebview → Except RenderError (List Shown)
  | .analysisError e => .ok (if e.isEmpty then [.readyToAnalyze] else [.alert e])
  | .analysisResult data =>
    if data.truthy then (fun r => [.banner r.1.cls]) <$> renderResults J data
    else .ok [.readyToAnalyze]
  | _ => .ok []

/-- A success whose message is an object: React throws on the banner's text. -/
example (J : JsEngine) :
    shownFor J (.analysisResult (.obj [("status", .str "success"), ("message", .obj [])])) =
      .error .objectChild := rfl

/-- An agent output with no `markdownOutput`: `marked` throws. -/
example (J : JsEngine) :
    shownFor J (.analysisResult (.obj [("status", .str "success"),
      ("agentOutputs", .arr [.obj [("agentName", .str "detector")]])])) = .error .markedInput := rfl

/-- **Step lemma.** A terminal message applied to a state with no outcome yet: the view shows no
progress and `shownFor` of the message.
Source: `src/ide/webview-ui/src/App.tsx` l. 103–116, 320–428
Kind: L -/
theorem renderAnalysis_terminal (J : JsEngine) (s : AppState) (hs : s.results = .null)
    (he : s.error = none) {t : ToWebview} (ht : t.isTerminal = true) :
    (fun v => (v.progress, v.shown)) <$> renderAnalysis J (App.handleMessage s t) =
      (fun l => (none, l)) <$> shownFor J t := by
  cases t with
  | analysisError e =>
    by_cases h : e.isEmpty <;>
      simp [renderAnalysis, App.handleMessage, hs, h, shownFor, AnalysisScreen.shown,
        AppState.errorShown, Option.filter, Json.truthy] <;> rfl
  | analysisResult data =>
    by_cases hd : data.truthy
    · cases hr : renderResults J data <;>
        simp [renderAnalysis, App.handleMessage, he, hd, hr, shownFor, AnalysisScreen.shown,
          AppState.errorShown]
    · simp [renderAnalysis, App.handleMessage, he, hd, shownFor, AnalysisScreen.shown,
        AppState.errorShown]
      rfl
  | _ => cases ht

/-- A reply a backend sends for a scan that failed, with a status of its own.
Source: none: a test input
Kind: D -/
def failedReply : Json :=
  .obj [("status", .str "failed"), ("message", .str "Detection stage failed")]

/-- A host whose backend answers every request with `reply`. Source: none: a test input.
Kind: D -/
def replying (reply : Json) : Host := ⟨none, fun _ => some (.ok reply)⟩

/-- The panel with `g.c` selected, the backend connected, no scan running. Source: none: a test
input. Kind: D -/
def scanReady : AppState :=
  { AppState.initial with selectedFile := some ⟨"/work/g.c", "g.c"⟩, backendStatus := "connected" }

/-- **The failed scan shows as clean, the empty reply as not yet run.** A reply with the status
`'failed'` gets the `clean` banner, with none of its texts, while the dashboard's own test of a
clean reply says it is not one; a `null` body leaves the view in its "Ready to analyze" state.
Source: `src/ide/webview-ui/src/App.tsx` l. 103–109, 179, 355–364, 417–428
Kind: P -/
theorem analyze_failed_or_null_reply :
    ∀ J : JsEngine,
      (fun v => (v.shown, v.banner.map (·.texts.length))) <$>
          renderAnalysis J (analyze (replying failedReply) scanReady) =
        .ok ([.banner "clean"], some 0) ∧
      isCleanReply failedReply = .ok false ∧
      (·.shown) <$> renderAnalysis J (analyze (replying .null) scanReady) = .ok [.readyToAnalyze] :=
  fun _ => ⟨rfl, rfl, rfl⟩

end Graphide.Webview
