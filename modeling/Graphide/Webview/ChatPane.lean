import Graphide.Webview.AnalysisView
import Graphide.Webview.Handler

/-!
# The chat view pane: `GraphIDEViewPane`

Package `Webview`, file 8. The view pane class `GraphIDEViewPane`, which
`graphide.contribution.ts` also defines (l. 114–325 of the file): a toolbar with Analyze Files
and Clear, and a log of messages rendered as markdown, in which an error repeated at once is not
shown again but counted on the one before (`(2×)`). The contribution registers the webview
under `graphide.panel` (l. 38–48); this pane is the log-based view beside it.

* `ChatMessage`, `MessageEl`, `Pane` — the pane's fields (`messages`, `lastErrorContent`,
  `errorCount`) and the message elements of its container.
* `addMessage`, `renderMessage`, `clearHistory`, `renderBody` — the log's methods.
  `addMessage_run` says once what an add does: it counts a repeated error on the last message,
  or pushes and renders the message.
* `analyzeStart`, `analyzeReply`, `handleAnalyze` — Analyze Files, cut at its `await`s: the
  "Analysing" message once a file is chosen, then what the reply adds (`showReply`), or the
  `Analysis Failed` error of the `catch`.

The pane's services are oracles (`PaneEnv`): the engine's `> 0` and the message of each
`TypeError`, and whether the markdown renderer takes a content (a content that is not a string
may make `new MarkdownString` throw).

Not modelled: the timestamps, the scroll position, and markup inside a content (the renderer
allows HTML, which the badge's selector would also see).
-/

namespace Graphide.Webview

/-! ## The log -/

/-- Who a message is from. Source: `graphide.contribution.ts` l. 107–112. Kind: D -/
inductive Role
  | user
  | system
  deriving DecidableEq, Repr

/-- A message's kind. Source: `graphide.contribution.ts` l. 107–112. Kind: D -/
inductive MessageType
  | normal
  | error
  | warning
  deriving DecidableEq, Repr

/-- A message of the log, its timestamp aside. The content is typed `string`, but the handler
passes values read from the reply, which may be any JSON value.
Source: `graphide.contribution.ts` l. 107–112
Kind: D -/
structure ChatMessage where
  role : Role
  content : Json
  type : MessageType

/-- A message element of the container: its classes, its icon and label, the rendered content
(`none` when the renderer threw), and the count badge.
Source: `graphide.contribution.ts` l. 186–197, 218–267
Kind: D -/
structure MessageEl where
  roleClass : String
  stateClass : Option String
  icon : String
  label : String
  content : Option Json
  badge : Option String

/-- The element `renderMessage` appends for a message, with the content when the renderer took
it.
Source: `graphide.contribution.ts` l. 218–262
Kind: D
Fidelity: exact -/
def messageEl (m : ChatMessage) (rendered : Bool) : MessageEl where
  roleClass := match m.role with
    | .user => "graphide-message-user"
    | .system => "graphide-message-system"
  stateClass := match m.type with
    | .error => some "graphide-message-error"
    | .warning => some "graphide-message-warning"
    | .normal => none
  icon := match m.role, m.type with
    | .user, _ => "codicon-account"
    | .system, .error => "codicon-error"
    | .system, .warning => "codicon-warning"
    | .system, .normal => "codicon-hubot"
  label := match m.role, m.type with
    | .user, _ => "You"
    | .system, .error => "Error"
    | .system, .warning => "Warning"
    | .system, .normal => "Analysis Result"
  content := if rendered then some m.content else none
  badge := none

/-- The services the pane calls.
Source: `graphide.contribution.ts` l. 133–135, 258–262, 300–316
Kind: D -/
structure PaneEnv where
  js : JsEngine
  /-- `error.message` of a `TypeError` the engine throws. -/
  typeErrorMessage : TypeError → String
  /-- Whether `new MarkdownString(content, ...)` and `markdownRendererService.render` take a
  content: `none`, or the message of the `Error` they throw. -/
  markdownError : Json → Option String

/-- The pane's fields, and the message elements of `messagesContainer`, in order.
Source: `graphide.contribution.ts` l. 117–120
Kind: D -/
structure Pane where
  messages : List ChatMessage
  lastErrorContent : Json
  errorCount : Nat
  dom : List MessageEl

/-- The pane on construction. Source: `graphide.contribution.ts` l. 117–120. Kind: D -/
def Pane.empty : Pane := ⟨[], .str "", 0, []⟩

/-- Whether an element has the error class. Source: `graphide.contribution.ts` l. 183, 229.
Kind: D -/
def MessageEl.isError (el : MessageEl) : Bool :=
  el.stateClass == some "graphide-message-error"

/-- The badge of the last element with the error class set to `text`: its existing badge, or
one created in its role line (every rendered element has one).
Source: `graphide.contribution.ts` l. 183–197
Kind: D
Fidelity: exact -/
def setLastErrorBadge (text : String) : List MessageEl → List MessageEl
  | [] => []
  | el :: els =>
    if els.any MessageEl.isError then el :: setLastErrorBadge text els
    else if el.isError then { el with badge := some text } :: els
    else el :: els

/-- The badge goes on the last element when that one is an error. Source: none:
infrastructure. Kind: L -/
theorem setLastErrorBadge_append {el : MessageEl} (h : el.isError = true) (text : String) :
    ∀ els : List MessageEl,
      setLastErrorBadge text (els ++ [el]) = els ++ [{ el with badge := some text }]
  | [] => by simp [setLastErrorBadge, h]
  | x :: els => by
    simp [setLastErrorBadge, h, setLastErrorBadge_append h text els]

/-- `renderMessage`: the element is appended, and then the markdown is rendered into it, which
may throw.
Source: `graphide.contribution.ts` l. 218–267
Kind: D
Fidelity: exact -/
def renderMessage (E : PaneEnv) (message : ChatMessage) : Handler String Pane Unit := do
  modify fun p =>
    { p with dom := p.dom ++ [messageEl message (E.markdownError message.content).isNone] }
  match E.markdownError message.content with
  | some e => throw e
  | none => pure ()

/-- `addMessage`: an error with the content of the last error, while the last message is an
error, is counted on it (`(n×)`); every other message is pushed and rendered.
Source: `graphide.contribution.ts` l. 176–216
Kind: D
Fidelity: exact -/
def addMessage (E : PaneEnv) (role : Role) (content : Json) (type : MessageType) :
    Handler String Pane Unit := do
  let p ← get
  if type == .error && strictEq content p.lastErrorContent && !p.messages.isEmpty then
    modify fun p => { p with errorCount := p.errorCount + 1 }
    if p.messages.getLast?.map (·.type) == some .error then
      modify fun p => { p with dom := setLastErrorBadge s!"({p.errorCount}×)" p.dom }
      return
  if type == .error then
    modify fun p => { p with lastErrorContent := content, errorCount := 1 }
  else
    modify fun p => { p with lastErrorContent := .str "", errorCount := 0 }
  let message : ChatMessage := ⟨role, content, type⟩
  modify fun p => { p with messages := p.messages ++ [message] }
  renderMessage E message

/-- `clearHistory`. Source: `graphide.contribution.ts` l. 170–174. Kind: D
Fidelity: exact -/
def clearHistory (E : PaneEnv) : Handler String Pane Unit := do
  modify fun p => { p with messages := [], dom := [] }
  addMessage E .system (.str "Results cleared. Select a file to analyze.") .normal

/-- The welcome message of `renderBody`. Source: `graphide.contribution.ts` l. 166–167.
Kind: D -/
def renderBody (E : PaneEnv) : Handler String Pane Unit :=
  addMessage E .system (.str "Select a file to analyze for vulnerabilities.") .normal

/-! ## What an add does -/

/-- Whether an add counts the message on the last one: an error with the content of the last
error, while the last message is an error.
Source: `graphide.contribution.ts` l. 178–182
Kind: D -/
def Pane.counts (p : Pane) (m : ChatMessage) : Bool :=
  m.type == .error && strictEq m.content p.lastErrorContent && !p.messages.isEmpty &&
    p.messages.getLast?.map (·.type) == some .error

/-- The pane after a message is pushed and rendered.
Source: `graphide.contribution.ts` l. 204–215, 218–267
Kind: D -/
def Pane.push (E : PaneEnv) (p : Pane) (m : ChatMessage) : Pane where
  messages := p.messages ++ [m]
  lastErrorContent := if m.type = .error then m.content else .str ""
  errorCount := if m.type = .error then 1 else 0
  dom := p.dom ++ [messageEl m (E.markdownError m.content).isNone]

/-- What the add throws: what the renderer throws for a pushed message. Source:
`graphide.contribution.ts` l. 258–262. Kind: D -/
def renderOutcome (E : PaneEnv) (m : ChatMessage) : Except String Unit :=
  match E.markdownError m.content with
  | some e => .error e
  | none => .ok ()

/-- An add that counts the message sets the badge of the last error element. Source:
`graphide.contribution.ts` l. 178–200. Kind: L -/
theorem addMessage_run_counts {E : PaneEnv} {p : Pane} {m : ChatMessage} (h : p.counts m = true) :
    (addMessage E m.role m.content m.type).run.run p =
      (.ok (), { p with errorCount := p.errorCount + 1
                        dom := setLastErrorBadge s!"({p.errorCount + 1}×)" p.dom }) := by
  rw [Pane.counts, Bool.and_eq_true] at h
  simp only [addMessage, Handler.run_get_bind, h.1, h.2, if_true, Handler.run_modify_bind,
    Handler.run_pure]

/-- An add that does not count the message pushes and renders it. Source:
`graphide.contribution.ts` l. 176–267. Kind: L -/
theorem addMessage_run_push {E : PaneEnv} {p : Pane} {m : ChatMessage} (h : p.counts m = false) :
    (addMessage E m.role m.content m.type).run.run p = (renderOutcome E m, p.push E m) := by
  rcases m with ⟨role, content, type⟩
  rw [Pane.counts, Bool.and_eq_false_iff] at h
  simp only [addMessage, Handler.run_get_bind]
  have tail : ∀ n, (do
      if (type == MessageType.error) = true then
        modify fun p : Pane => { p with lastErrorContent := content, errorCount := 1 }
      else modify fun p : Pane => { p with lastErrorContent := .str "", errorCount := 0 }
      modify fun p : Pane => { p with messages := p.messages ++ [⟨role, content, type⟩] }
      renderMessage E ⟨role, content, type⟩ : Handler String Pane Unit).run.run
        { p with errorCount := n } =
          (renderOutcome E ⟨role, content, type⟩, p.push E ⟨role, content, type⟩) := by
    intro n
    cases hm : E.markdownError content <;> cases type <;>
      simp only [renderMessage, renderOutcome, Pane.push, hm, beq_iff_eq, beq_self_eq_true,
        reduceCtorEq, ↓reduceIte, Option.isNone_none, Option.isNone_some, bind_pure_comp, id_map',
        Handler.run_modify_bind, Handler.run_modify, ExceptT.run_throw, StateT.run_pure, Id.pure_eq]
  by_cases h1 : (type == MessageType.error && strictEq content p.lastErrorContent &&
      !p.messages.isEmpty) = true
  · have h2 : (p.messages.getLast?.map (·.type) == some MessageType.error) = false :=
      h.resolve_left (by rw [h1]; decide)
    simp only [h1, h2, if_true, Bool.false_eq_true, if_false, Handler.run_modify_bind,
      Handler.run_pure_bind]
    exact tail _
  · simp only [h1, if_false, Handler.run_pure_bind]
    exact tail _

/-! ## Analyze Files -/

/-- A read of the reply, whose `TypeError` reaches the `catch` as its message. Source:
`graphide.contribution.ts` l. 307–318. Kind: D -/
def liftJs {α : Type} (E : PaneEnv) (x : Except TypeError α) : Handler String Pane α :=
  liftM (x.mapError E.typeErrorMessage)

/-- The text of an agent output: `output.markdownOutput || output.message || 'No content'`.
Source: `graphide.contribution.ts` l. 309
Kind: D
Fidelity: exact -/
def outputText (output : Json) : Except TypeError Json := do
  let markdownOutput ← getProp (some output) "markdownOutput"
  let message ← getProp (some output) "message"
  return orText (jsOr markdownOutput message) "No content"

/-- The `try` block once the reply is parsed: each agent output as a message, or the reply's
`message` (an error when its status is `'error'`), or a warning that nothing came.
Source: `graphide.contribution.ts` l. 307–315
Kind: D
Fidelity: exact -/
def showReply (E : PaneEnv) (data : Json) : Handler String Pane Unit := do
  let agentOutputs ← liftJs E (getPropOpt (some data) "agentOutputs")
  let hasOutputs ← (if truthy agentOutputs then
      liftJs E (do gtZero E.js (← getProp agentOutputs "length"))
    else pure false : Handler String Pane Bool)
  if hasOutputs then
    (← liftJs E (iterate agentOutputs)).forM fun output => do
      addMessage E .system (← liftJs E (outputText output)) .normal
  else
    match (← liftJs E (getPropOpt (some data) "message")).filter Json.truthy with
    | some message =>
      let status ← liftJs E (getProp (some data) "status")
      addMessage E .system message (if isStr status "error" then .error else .normal)
    | none => addMessage E .system (.str "Analysis completed with no specific output.") .warning

/-- Analyze Files once a file is chosen: the "Analysing" message.
Source: `graphide.contribution.ts` l. 283–285
Kind: D
Fidelity: exact -/
def analyzeStart (E : PaneEnv) (filePath : String) : Handler String Pane Unit :=
  addMessage E .system
    (.str s!"Analysing {filePath}...\n\n(Generating Queries -> Slicing -> Explaining)") .normal

/-- Analyze Files once the request is answered (`reply` is the parsed body, or the text of what
the request or the parse threw): the `try` block, and the `catch` that adds the failure.
Source: `graphide.contribution.ts` l. 290–320
Kind: D
Fidelity: exact -/
def analyzeReply (E : PaneEnv) (reply : Except String Json) : Handler String Pane Unit :=
  tryCatch (do showReply E (← liftM reply)) fun errorMessage =>
    addMessage E .system
      (.str s!"Analysis Failed: {errorMessage}\n\nEnsure backend is running at localhost:8000")
      .error

/-- `handleAnalyze`, run to its end with nothing else between its steps: the dialog, the
"Analysing" message, the scan request (the provider's payload, with the language `'c'`), and what
its answer adds; a request that never resolves leaves the handler at its `await`.
Source: `graphide.contribution.ts` l. 269–321
Kind: D
Fidelity: exact -/
def handleAnalyze (E : PaneEnv) (H : Host) : Handler String Pane Unit :=
  match H.openDialog with
  | none => pure ()
  | some (filePath, _) => do
    analyzeStart E filePath
    match H.fetch (.agent (GraphideWebviewProvider.scanPayload filePath "c")) with
    | some reply => analyzeReply E reply
    | none => pure ()

end Graphide.Webview
