import Graphide.Webview.Streaming

/-!
# The overhauled pane: `GraphIDEViewPane` of the UX overhaul

Package `Webview`, file 15. `src/unnamed/part_003` rewrites the chat pane as a workbench: a
navigation sidebar, and three views (the editor with the message log, a dashboard and a dataflow
graph, both on mock data). It keeps the log's methods, "preserved from original", with two
changes: a message may be shown with loading dots or streamed (`Streaming`), and a repeated
error is still counted, but its element gets no count badge, since nothing creates one.

* `ViewType`, `MessageEl`, `Pane` — the pane's fields (`activeView`, `messages`,
  `lastErrorContent`, `errorCount`), the display of its three view containers, its message
  elements, kept by identity (`elements`, in order of creation) with the children of
  `messagesContainer` as indices into them (`container`), and the intervals it set.
* `renderMessage`, `addMessageWithStreamOption`, `addMessage`, `clearHistory`, `switchView`,
  `renderBody` — the methods.
* `renderMessage_run_dots`, `renderMessage_run_noDots`, `addMessageWithStreamOption_run_counts`,
  `addMessageWithStreamOption_run_push` — what each does, said once.
* `RenderedAs`, `renderMessage_shape` — what every render leaves, whichever branch it took and
  whether it threw: one more element, of the message's role and type, with no count badge, and
  with loading dots only when asked for; at most one more interval, for that element.

Not modelled: the sidebar's highlighted icon, the header, the dashboard's and the graph's mock
markup, the role line's classes, icon and label (they follow from the role and the type as in
`messageEl`), the timestamps and the scroll position.
-/

namespace Graphide.Webview.Overhaul

/-! ## The pane -/

/-- The pane's views. Source: `src/unnamed/part_003` l. 47. Kind: D -/
inductive ViewType
  | editor
  | dashboard
  | graph
  | settings
  deriving DecidableEq, Repr

/-- A message element: the message's role and type, the count badge (`.error-count`) of its role
line if it has one, and its content element: the rendered markdown, and the loading dots' span
with the number of `.` spans in it.
Source: `src/unnamed/part_003` l. 389–453, 370–371
Kind: D -/
structure MessageEl where
  role : Role
  type : MessageType
  countBadge : Option String
  markdown : Option Markdown
  dots : Option Nat
  /-- Proof-only: the message the element was rendered from; the DOM keeps no such field. -/
  source : ChatMessage

/-- The element `renderMessage` appends for a message, before its content is rendered.
Source: `src/unnamed/part_003` l. 390–416
Kind: D -/
def MessageEl.fresh (m : ChatMessage) : MessageEl := ⟨m.role, m.type, none, none, none, m⟩

/-- The pane: its fields, the `style.display` of its three view containers, every message
element it created (an element's index is its identity), the children of `messagesContainer`,
and every interval it set.
Source: `src/unnamed/part_003` l. 53–63, 109–126
Kind: D -/
structure Pane where
  activeView : ViewType
  messages : List ChatMessage
  lastErrorContent : Json
  errorCount : Nat
  editorDisplay : String
  dashboardDisplay : String
  graphDisplay : String
  elements : List MessageEl
  container : List Nat
  intervals : List Interval
  /-- Proof-only: every message added since the last clear, oldest first, counted or not; the
  code keeps no such list. -/
  added : List ChatMessage

/-- The pane on construction, before `renderBody`. Source: `src/unnamed/part_003` l. 60–63.
Kind: D -/
def Pane.initial : Pane := ⟨.editor, [], .str "", 0, "", "", "", [], [], [], []⟩

/-- `dom.append(this.messagesContainer, el)` for a new element. Source: none: infrastructure.
Kind: D -/
def Pane.appendEl (p : Pane) (el : MessageEl) : Pane :=
  { p with elements := p.elements ++ [el], container := p.container ++ [p.elements.length] }

/-- A change to the element `i`. Source: none: infrastructure. Kind: D -/
def Pane.setEl (i : Nat) (f : MessageEl → MessageEl) (p : Pane) : Pane :=
  { p with elements := p.elements.modify f i }

/-- `messagesContainer.querySelectorAll('.graphide-message-error')`, its last element.
Source: `src/unnamed/part_003` l. 367–368
Kind: D -/
def Pane.lastErrorEl (p : Pane) : Option Nat :=
  (p.container.filter fun i => p.elements[i]?.map (·.type) == some .error).getLast?

/-- The last error element does not depend on the proof-only `added`. Source: none:
infrastructure. Kind: L -/
@[simp] theorem Pane.lastErrorEl_added (p : Pane) (added : List ChatMessage) :
    ({ p with added := added } : Pane).lastErrorEl = p.lastErrorEl := rfl

/-- Modifying the last element of a list with one more at its end. Source: none: infrastructure.
Kind: L -/
theorem modify_length_append {α : Type} (f : α → α) (a : α) :
    ∀ l : List α, (l ++ [a]).modify f l.length = l ++ [f a]
  | [] => rfl
  | x :: l => by
    rw [List.cons_append, List.length_cons, List.modify_succ_cons, modify_length_append f a l,
      List.cons_append]

/-- Updating the element just appended is appending the updated one. Source: none: infrastructure.
Kind: L -/
@[simp] theorem setEl_appendEl (p : Pane) (el : MessageEl) (f : MessageEl → MessageEl) :
    (p.appendEl el).setEl p.elements.length f = p.appendEl (f el) := by
  simp only [Pane.setEl, Pane.appendEl, modify_length_append]

/-! ## The log's methods -/

/-- `stream && message.content.length > 20`. Source: `src/unnamed/part_003` l. 427.
Kind: D
Fidelity: exact -/
def streamsContent (E : OverhaulEnv) (stream : Bool) (content : Json) : Except TypeError Bool :=
  if stream then getProp (some content) "length" >>= numLt E.num 20 else .ok false

/-- `renderMessage`: the element is appended, then its content: the markdown with the loading
dots after it, or an interval that streams the content, or the markdown; it returns the element.
Rendering may throw, after the element is appended.
Source: `src/unnamed/part_003` l. 389–453
Kind: D
Fidelity: exact -/
def renderMessage (E : OverhaulEnv) (message : ChatMessage) (stream loadingDots : Bool) :
    Handler String Pane Nat := do
  let id := (← get).elements.length
  modify fun p => p.appendEl (.fresh message)
  if loadingDots then
    modify (Pane.setEl id fun el => { el with dots := some 0 })
    match E.pane.markdownError message.content with
    | some e => throw e
    | none => modify (Pane.setEl id fun el =>
        { el with markdown := some (.value message.content), dots := some 3 })
  else if ← liftJsAt E.pane (streamsContent E stream message.content) then
    modify fun p => { p with intervals := p.intervals ++ [Interval.start id message.content] }
  else
    match E.pane.markdownError message.content with
    | some e => throw e
    | none => modify (Pane.setEl id fun el => { el with markdown := some (.value message.content) })
  return id

/-- `addMessageWithStreamOption`: an error with the content of the last error, while the last
message is an error, is counted on the pane and the last error element is returned, its badge
updated if it has one; every other message is pushed and rendered. Its first line records the
message in the proof-only `added`.
Source: `src/unnamed/part_003` l. 362–387
Kind: D
Fidelity: exact -/
def addMessageWithStreamOption (E : OverhaulEnv) (role : Role) (content : Json)
    (type : MessageType) (stream loadingDots : Bool) : Handler String Pane Nat := do
  modify fun p => { p with added := p.added ++ [⟨role, content, type⟩] }
  let p ← get
  if type == .error && strictEq content p.lastErrorContent && !p.messages.isEmpty then
    modify fun p => { p with errorCount := p.errorCount + 1 }
    if p.messages.getLast?.map (·.type) == some .error then
      match p.lastErrorEl with
      | some i =>
        modify (Pane.setEl i fun el =>
          { el with countBadge := el.countBadge.map fun _ => s!"({p.errorCount + 1}×)" })
        return i
      | none => pure ()
  if type == .error then
    modify fun p => { p with lastErrorContent := content, errorCount := 1 }
  else
    modify fun p => { p with lastErrorContent := .str "", errorCount := 0 }
  let message : ChatMessage := ⟨role, content, type⟩
  modify fun p => { p with messages := p.messages ++ [message] }
  renderMessage E message stream loadingDots

/-- `addMessage`: an add that neither streams nor shows loading dots.
Source: `src/unnamed/part_003` l. 358–360
Kind: D
Fidelity: exact -/
def addMessage (E : OverhaulEnv) (role : Role) (content : Json) (type : MessageType) :
    Handler String Pane Unit := do
  let _ ← addMessageWithStreamOption E role content type false false

/-- `clearHistory`; it also empties the proof-only `added`. Source: `src/unnamed/part_003`
l. 352–356. Kind: D
Fidelity: exact -/
def clearHistory (E : OverhaulEnv) : Handler String Pane Unit := do
  modify fun p => { p with messages := [], container := [], added := [] }
  addMessage E .system (.str "Results cleared. Select a file to analyze.") .normal

/-- `switchView`: every view container hidden, then the chosen one shown; Settings adds a
warning and shows the editor.
Source: `src/unnamed/part_003` l. 170–194
Kind: D
Fidelity: exact -/
def switchView (E : OverhaulEnv) (view : ViewType) : Handler String Pane Unit := do
  modify fun p => { p with
    activeView := view
    editorDisplay := "none"
    dashboardDisplay := "none"
    graphDisplay := "none" }
  match view with
  | .editor => modify fun p => { p with editorDisplay := "flex" }
  | .dashboard => modify fun p => { p with dashboardDisplay := "flex" }
  | .graph => modify fun p => { p with graphDisplay := "block" }
  | .settings =>
    addMessage E .system (.str "Settings view not implemented yet.") .warning
    modify fun p => { p with editorDisplay := "flex" }

/-- `renderBody`, as far as the pane's state goes: the editor shown, with the welcome message, and
the two other views hidden. When the welcome throws, the model still has the two other
containers, which the code then never creates.
Source: `src/unnamed/part_003` l. 90–128, 212–230
Kind: D -/
def renderBody (E : OverhaulEnv) : Handler String Pane Unit := do
  modify fun p => { p with editorDisplay := "flex" }
  addMessage E .system (.str "Welcome to Graphide 2.0. Select a file to analyze.") .normal
  modify fun p => { p with dashboardDisplay := "none", graphDisplay := "none" }

/-! ## What a render does -/

section Render

variable (E : OverhaulEnv) (m : ChatMessage) (p : Pane)

/-- A render with loading dots: the dots' span first, then the markdown before it and three `.`
spans in it; when the renderer throws, the span stays empty. Source: `src/unnamed/part_003`
l. 389–426. Kind: L -/
theorem renderMessage_run_dots (stream : Bool) :
    (renderMessage E m stream true).run.run p =
      match E.pane.markdownError m.content with
      | some e => (.error e, p.appendEl { MessageEl.fresh m with dots := some 0 })
      | none => (.ok p.elements.length,
          p.appendEl
            { MessageEl.fresh m with markdown := some (.value m.content), dots := some 3 }) := by
  simp only [renderMessage, Handler.run_get_bind, Handler.run_modify_bind, if_true,
    setEl_appendEl]
  split <;> simp only [Handler.run_throw, Handler.run_bind, Handler.run_modify, setEl_appendEl,
    Handler.run_pure]

/-- A render without loading dots: an interval for a content to stream, the markdown otherwise;
a throw of the `length` read or of the renderer leaves the element appended, empty.
Source: `src/unnamed/part_003` l. 389–453
Kind: L -/
theorem renderMessage_run_noDots (stream : Bool) :
    (renderMessage E m stream false).run.run p =
      match streamsContent E stream m.content with
      | .error e => (.error (E.pane.typeErrorMessage e), p.appendEl (.fresh m))
      | .ok true => (.ok p.elements.length, { p.appendEl (.fresh m) with
          intervals := p.intervals ++ [Interval.start p.elements.length m.content] })
      | .ok false =>
        match E.pane.markdownError m.content with
        | some e => (.error e, p.appendEl (.fresh m))
        | none => (.ok p.elements.length,
            p.appendEl { MessageEl.fresh m with markdown := some (.value m.content) }) := by
  simp only [renderMessage, Handler.run_get_bind, Handler.run_modify_bind, Bool.false_eq_true,
    if_false]
  rcases streamsContent E stream m.content with e | _ | _
  · simp only [liftJsAt_error_bind]
  · simp only [liftJsAt_ok_bind, Bool.false_eq_true, if_false]
    split <;> simp only [Handler.run_throw, Handler.run_bind, Handler.run_modify, setEl_appendEl,
      Handler.run_pure]
  · simp only [liftJsAt_ok_bind, if_true, Handler.run_modify_bind, Handler.run_pure]
    rfl

end Render

/-- What a render leaves, whether it returned or threw: the element `el` appended, of the
message's role and type, rendered from it, with no count badge, loading dots only when asked
for, and markdown only of the message's content; and at most one more interval, for that
element, still empty, with a content whose `length` is above 20.
Source: `src/unnamed/part_003` l. 389–453
Kind: D -/
structure RenderedAs (E : OverhaulEnv) (m : ChatMessage) (loadingDots : Bool) (p p' : Pane)
    (el : MessageEl) : Prop where
  pane : p' = { p.appendEl el with intervals := p'.intervals }
  role : el.role = m.role
  type : el.type = m.type
  badge : el.countBadge = none
  dots : loadingDots = false → el.dots = none
  markdown : el.markdown = none ∨ el.markdown = some (.value m.content)
  intervals : p'.intervals = p.intervals ∨
    (p'.intervals = p.intervals ++ [Interval.start p.elements.length m.content] ∧
      el.markdown = none ∧ (getProp (some m.content) "length" >>= numLt E.num 20) = .ok true)
  source : el.source = m

/-- Every render leaves that. Source: `src/unnamed/part_003` l. 389–453. Kind: L -/
theorem renderMessage_shape (E : OverhaulEnv) (m : ChatMessage) (stream loadingDots : Bool)
    (p : Pane) :
    ∃ el, RenderedAs E m loadingDots p ((renderMessage E m stream loadingDots).run.run p).2 el := by
  cases loadingDots with
  | true =>
    rw [renderMessage_run_dots]
    split
    · exact ⟨_, rfl, rfl, rfl, rfl, nofun, .inl rfl, .inl rfl, rfl⟩
    · exact ⟨_, rfl, rfl, rfl, rfl, nofun, .inr rfl, .inl rfl, rfl⟩
  | false =>
    rw [renderMessage_run_noDots]
    split
    · exact ⟨_, rfl, rfl, rfl, rfl, fun _ => rfl, .inl rfl, .inl rfl, rfl⟩
    · next h =>
      have hl : (getProp (some m.content) "length" >>= numLt E.num 20) = .ok true := by
        cases stream
        · cases h
        · exact h
      exact ⟨_, rfl, rfl, rfl, rfl, fun _ => rfl, .inl rfl, .inr ⟨rfl, rfl, hl⟩, rfl⟩
    · split
      · exact ⟨_, rfl, rfl, rfl, rfl, fun _ => rfl, .inl rfl, .inl rfl, rfl⟩
      · exact ⟨_, rfl, rfl, rfl, rfl, fun _ => rfl, .inr rfl, .inl rfl, rfl⟩

/-! ## What an add does -/

/-- Whether an add counts the message on the pane: an error with the content of the last
error, while the last message is an error and the container holds an error element; it returns
that element.
Source: `src/unnamed/part_003` l. 363–375
Kind: D -/
def Pane.counts (p : Pane) (m : ChatMessage) : Option Nat :=
  if m.type == .error && strictEq m.content p.lastErrorContent && !p.messages.isEmpty &&
      p.messages.getLast?.map (·.type) == some .error then p.lastErrorEl else none

/-- The pane once a message is pushed, before it is rendered. Source: `src/unnamed/part_003`
l. 377–385. Kind: D -/
def Pane.push (p : Pane) (m : ChatMessage) : Pane :=
  { p with
    messages := p.messages ++ [m]
    lastErrorContent := if m.type = .error then m.content else .str ""
    errorCount := if m.type = .error then 1 else 0
    added := p.added ++ [m] }

section Add

variable {E : OverhaulEnv} {p : Pane} {m : ChatMessage} (stream loadingDots : Bool)

/-- An add that counts the message adds one to `errorCount` and returns the last error element,
whose badge it would update if it had one. Source: `src/unnamed/part_003` l. 363–375.
Kind: L -/
theorem addMessageWithStreamOption_run_counts {i : Nat} (h : p.counts m = some i) :
    (addMessageWithStreamOption E m.role m.content m.type stream loadingDots).run.run p =
      (.ok i, Pane.setEl i (fun el => { el with
        countBadge := el.countBadge.map fun _ => s!"({p.errorCount + 1}×)" })
        { p with errorCount := p.errorCount + 1, added := p.added ++ [m] }) := by
  unfold Pane.counts at h
  split at h
  · rename_i hc
    rw [Bool.and_eq_true] at hc
    simp only [addMessageWithStreamOption, Handler.run_modify_bind, Handler.run_get_bind, hc.1,
      hc.2, if_true, Pane.lastErrorEl_added, h, Handler.run_pure]
  · cases h

/-- An add that does not count the message pushes and renders it. Source:
`src/unnamed/part_003` l. 362–387. Kind: L -/
theorem addMessageWithStreamOption_run_push (h : p.counts m = none) :
    (addMessageWithStreamOption E m.role m.content m.type stream loadingDots).run.run p =
      (renderMessage E m stream loadingDots).run.run (p.push m) := by
  rcases m with ⟨role, content, type⟩
  have tail : ∀ n, (do
      if (type == MessageType.error) = true then
        modify fun p : Pane => { p with lastErrorContent := content, errorCount := 1 }
      else modify fun p : Pane => { p with lastErrorContent := .str "", errorCount := 0 }
      modify fun p : Pane => { p with messages := p.messages ++ [⟨role, content, type⟩] }
      renderMessage E ⟨role, content, type⟩ stream loadingDots : Handler String Pane Nat).run.run
        { p with errorCount := n, added := p.added ++ [⟨role, content, type⟩] } =
      (renderMessage E ⟨role, content, type⟩ stream loadingDots).run.run
        (p.push ⟨role, content, type⟩) := by
    intro n
    cases type <;> rfl
  simp only [addMessageWithStreamOption, Handler.run_modify_bind, Handler.run_get_bind]
  unfold Pane.counts at h
  by_cases h1 : (type == MessageType.error && strictEq content p.lastErrorContent &&
      !p.messages.isEmpty) = true
  · simp only [h1, if_true, Handler.run_modify_bind]
    by_cases h2 : (p.messages.getLast?.map (·.type) == some MessageType.error) = true
    · simp only [h1, h2, Bool.and_self, if_true] at h
      simp only [h2, if_true, Pane.lastErrorEl_added, h, Handler.run_pure_bind]
      exact tail _
    · simp only [h2, Bool.false_eq_true, if_false, Handler.run_pure_bind]
      exact tail _
  · simp only [h1, Bool.false_eq_true, if_false, Handler.run_pure_bind]
    exact tail p.errorCount

end Add

/-- `addMessage` leaves what the add it makes leaves. Source: `src/unnamed/part_003` l. 358–360.
Kind: L -/
theorem addMessage_run_state (E : OverhaulEnv) (role : Role) (content : Json) (type : MessageType)
    (p : Pane) : ((addMessage E role content type).run.run p).2 =
      ((addMessageWithStreamOption E role content type false false).run.run p).2 := by
  simp only [addMessage, Handler.run_bind]
  split <;> simp_all only [Handler.run_pure]

end Graphide.Webview.Overhaul
