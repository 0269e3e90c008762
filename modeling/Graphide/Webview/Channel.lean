import Graphide.Webview.GraphView

/-!
# The webview and its host, together

Package `Webview`, file 11. `App`, its `GraphView` and `GraphideWebviewProvider` talk through two
queues of messages: what the webview posts waits for the host, and what the host posts waits for
the window's listeners. The host runs a handler per message, asynchronously, so the handlers'
posts interleave; each queue keeps its order. `GraphView` is mounted exactly while App shows the
graph view (l. 227): leaving the view drops its state and its listener, and coming back mounts
a fresh one.

* `Click`, `App.click` — what the user can do in App's panel: the state change and the message
  posted. Every click is allowed, the disabled buttons' included: the guards the theorems rest
  on are the code's own.
* `Channel`, `ChannelMove`, `Channel.step` — the two queues, the handlers under way, those left
  waiting on a backend request that never resolves, and the mounted `GraphView`; a move is a
  click, a click of Load Graph, the host taking its oldest message (with whatever the backend
  then answers, or does not), one handler posting its next message, or the window delivering
  its oldest message to the listeners.
* `inFlight` — the requests of one kind not yet answered: those waiting for the host, those
  whose handler waits for good, the answers the handlers under way have still to post, and the
  answers waiting for the webview; `inFlight_click` to `inFlight_deliver` say once what each
  move does to it, and `Channel.foldl_inv` carries an invariant of one move to every run.
* `channel_one_scan` — **in every interleaving**, at most one scan is in flight, and exactly
  when App shows it is analyzing; so every terminal message App takes answers the scan it is
  waiting for.
* `scan_hangs_forever` — a scan whose request never resolves keeps App analyzing in every later
  state, with the Analyze button doing nothing.
* `graph_spinner_answered` — **in every interleaving**, while `GraphView` shows its spinner a
  graph load is in flight. Not one at most: leaving the view and coming back mounts a fresh
  view, whose Load Graph puts one more in flight.
-/

namespace Graphide.Webview

/-! ## Clicks -/

/-- What the user can do in App's panel.
Source: `src/ide/webview-ui/src/App.tsx` l. 137–168, 188–191, 276–305
Kind: D -/
inductive Click
  | selectFile
  | analyze
  | clear
  | navigate (v : ViewType)

/-- A click: App's new state and the message it posts, if any.
Source: `src/ide/webview-ui/src/App.tsx` l. 137–168, 188–191
Kind: D -/
def App.click (s : AppState) : Click → AppState × Option ToHost
  | .selectFile => (s, some .selectFiles)
  | .analyze => App.handleAnalyze s
  | .clear => (App.handleClear s, none)
  | .navigate v => ({ s with activeView := v }, none)

/-- Whether a message asks for a scan. Source: none: infrastructure. Kind: D -/
def ToHost.isAnalyzeFiles : ToHost → Bool
  | .analyzeFiles _ _ => true
  | _ => false

/-- Whether a message asks for the graph. Source: none: infrastructure. Kind: D -/
def ToHost.isGetGraph : ToHost → Bool
  | .getGraph _ _ => true
  | _ => false

/-- A click raises `isAnalyzing` exactly by the scan request it posts, and never lowers it.
Source: `src/ide/webview-ui/src/App.tsx` l. 141–168. Kind: L -/
theorem App.click_isAnalyzing (s : AppState) (c : Click) :
    (if (App.click s c).1.isAnalyzing then 1 else 0) =
      (if s.isAnalyzing then 1 else 0) + (App.click s c).2.toList.countP ToHost.isAnalyzeFiles := by
  cases c with
  | analyze =>
    cases hf : s.selectedFile <;> cases ha : s.isAnalyzing <;>
      simp [App.click, App.handleAnalyze, hf, ha, ToHost.isAnalyzeFiles]
  | _ => simp [App.click, App.handleClear, ToHost.isAnalyzeFiles]

/-- A click of Load Graph asks for the graph and starts the spinner, or, while the spinner
turns, does nothing. Source: `src/ide/webview-ui/src/App.tsx` l. 519–525, 576–580. Kind: L -/
theorem clickLoadGraph_cases (selectedFile : Option SelectedFile) (g : GraphState) :
    GraphView.clickLoadGraph selectedFile g = (g, none) ∨
      ((GraphView.clickLoadGraph selectedFile g).1.loading = true ∧
        ∃ filePath,
          (GraphView.clickLoadGraph selectedFile g).2 = some (.getGraph filePath none)) := by
  unfold GraphView.clickLoadGraph
  split
  · exact .inl rfl
  · exact .inr ⟨rfl, _, rfl⟩

/-- A message App takes changes `isAnalyzing` only if it is terminal, and then lowers it.
Source: `src/ide/webview-ui/src/App.tsx` l. 91–122. Kind: L -/
theorem App.handleMessage_isAnalyzing (s : AppState) (m : ToWebview) :
    (App.handleMessage s m).isAnalyzing = if m.isTerminal then false else s.isAnalyzing := by
  cases m <;> rfl

/-- The listener's loading flag: a `graphData` lowers it, and nothing else moves it.
Source: `src/ide/webview-ui/src/App.tsx` l. 527–531. Kind: L -/
theorem listen_loading (g : GraphState) (m : ToWebview) :
    (listen g m).loading = (g.loading && !m.isGraphData) := by
  rw [listen_eq]

/-! ## The host's answers -/

/-- The host answers a scan request with exactly one terminal message, unless its handler is left
waiting for good, and any other message with none. Source: `graphideWebviewProvider.ts`
l. 65–181. Kind: L -/
theorem countP_terminal_handleMessage (H : Host) (m : ToHost) :
    (GraphideWebviewProvider.handleMessage H m).countP ToWebview.isTerminal =
      if m.isAnalyzeFiles && !H.hangsOn m then 1 else 0 := by
  cases m with
  | analyzeFiles filePath language =>
    rw [GraphideWebviewProvider.handleMessage, analyzeFiles_eq, Host.hangsOn]
    cases filePath.isEmpty <;>
      rcases H.fetch (.agent (GraphideWebviewProvider.scanPayload filePath language)) with
        _ | _ | _ <;> rfl
  | _ =>
    simp only [GraphideWebviewProvider.handleMessage]
    split <;> rfl

/-- The host answers a graph request with exactly one `graphData`, unless its handler is left
waiting for good, and any other message with none. Source: `graphideWebviewProvider.ts`
l. 65–181. Kind: L -/
theorem countP_graphData_handleMessage (H : Host) (m : ToHost) :
    (GraphideWebviewProvider.handleMessage H m).countP ToWebview.isGraphData =
      if m.isGetGraph && !H.hangsOn m then 1 else 0 := by
  cases m with
  | analyzeFiles filePath language =>
    rw [GraphideWebviewProvider.handleMessage, analyzeFiles_eq]
    split
    · rfl
    · rcases H.fetch (.agent (GraphideWebviewProvider.scanPayload filePath language)) with
        _ | _ | _ <;> rfl
  | getGraph f s =>
    rw [handleMessage_getGraph, Host.hangsOn]
    cases H.fetch (.graph (GraphideWebviewProvider.graphParams f s)) <;> rfl
  | _ =>
    simp only [GraphideWebviewProvider.handleMessage]
    split <;> rfl

/-! ## The channel -/

/-- The webview, the host's handlers under way, and the two queues between them.
Source: `src/ide/webview-ui/src/App.tsx` l. 89–129, 227, 513–561; `graphideWebviewProvider.ts`
l. 43–66
Kind: D -/
structure Channel where
  app : AppState
  /-- `GraphView`'s state while it is mounted. -/
  graph : Option GraphState
  /-- Posted by the webview, not yet taken by the host. -/
  toHost : List ToHost
  /-- The host's handlers under way, newest first: the messages each has still to post. -/
  handling : List (List ToWebview)
  /-- The messages whose handlers await a backend request that never resolves. -/
  waiting : List ToHost
  /-- Posted by the host, not yet taken by the window's listeners. -/
  toWebview : List ToWebview

/-- On mount: App's initial state on the analysis view, and its health check on its way.
Source: `src/ide/webview-ui/src/App.tsx` l. 66–84, 123–126
Kind: D -/
def Channel.initial : Channel := ⟨AppState.initial, none, [.healthCheck], [], [], []⟩

/-- `GraphView` across a render of App that shows `next` where `prev` was shown: kept while the
graph view stays, mounted fresh on entering it, dropped on leaving it. A fresh view's listener
(its effect, l. 527–561) is taken as registered before the next message is delivered.
Source: `src/ide/webview-ui/src/App.tsx` l. 227, 514–517
Kind: D -/
def GraphView.remount (prev next : ViewType) (g : Option GraphState) : Option GraphState :=
  if next = .graph then (if prev = .graph then g else some GraphState.initial) else none

/-- A move of the system. Source: none: the interleaving semantics. Kind: D -/
inductive ChannelMove
  | click (c : Click)
  /-- A click of `GraphView`'s Load Graph, which is there while the view is mounted. -/
  | loadGraph
  /-- The host takes its oldest message and starts its handler; `H` is what the backend and the
  dialog answer while that handler runs, a request that never resolves included. -/
  | hostTakes (H : Host)
  /-- Handler `i` posts its next message. -/
  | hostPosts (i : Nat)
  /-- The window delivers its oldest message to App's listener and, while it is mounted,
  `GraphView`'s. -/
  | deliver

/-- One move. A move that cannot happen (an empty queue, a finished handler, Load Graph off the
graph view) changes nothing.
Source: `src/ide/webview-ui/src/App.tsx` l. 89–168, 227, 513–580; `graphideWebviewProvider.ts`
l. 65–181
Kind: D -/
def Channel.step (ch : Channel) : ChannelMove → Channel
  | .click c =>
    { ch with
      app := (App.click ch.app c).1
      graph := GraphView.remount ch.app.activeView (App.click ch.app c).1.activeView ch.graph
      toHost := ch.toHost ++ (App.click ch.app c).2.toList }
  | .loadGraph =>
    match ch.graph with
    | some g =>
      { ch with
        graph := some (GraphView.clickLoadGraph ch.app.selectedFile g).1
        toHost := ch.toHost ++ (GraphView.clickLoadGraph ch.app.selectedFile g).2.toList }
    | none => ch
  | .hostTakes H =>
    match ch.toHost with
    | m :: ms =>
      { ch with
        toHost := ms
        handling := GraphideWebviewProvider.handleMessage H m :: ch.handling
        waiting := if H.hangsOn m then m :: ch.waiting else ch.waiting }
    | [] => ch
  | .hostPosts i =>
    match ch.handling[i]? with
    | some (m :: rest) =>
      { ch with
        handling := ch.handling.set i rest
        toWebview := ch.toWebview ++ [m] }
    | _ => ch
  | .deliver =>
    match ch.toWebview with
    | m :: ms =>
      { ch with
        app := App.handleMessage ch.app m
        graph := ch.graph.map (listen · m)
        toWebview := ms }
    | [] => ch

/-! ### What each move leaves of App and of `GraphView` -/

section Frame

variable {ch : Channel}

/-- Frame: a Load Graph click leaves the App. Source: none: the interleaving semantics. Kind: L -/
@[simp]
theorem Channel.app_loadGraph : (ch.step .loadGraph).app = ch.app := by
  simp only [Channel.step]
  split <;> rfl

/-- Frame: the host taking a message leaves the App. Source: none: the interleaving semantics. Kind:
L -/
@[simp]
theorem Channel.app_hostTakes (H : Host) : (ch.step (.hostTakes H)).app = ch.app := by
  simp only [Channel.step]
  split <;> rfl

/-- Frame: the host taking a message leaves the graph view. Source: none: the interleaving
semantics. Kind: L -/
@[simp]
theorem Channel.graph_hostTakes (H : Host) : (ch.step (.hostTakes H)).graph = ch.graph := by
  simp only [Channel.step]
  split <;> rfl

/-- Frame: the host posting a reply leaves the App. Source: none: the interleaving semantics. Kind:
L -/
@[simp]
theorem Channel.app_hostPosts (i : Nat) : (ch.step (.hostPosts i)).app = ch.app := by
  simp only [Channel.step]
  split <;> rfl

/-- Frame: the host posting a reply leaves the graph view. Source: none: the interleaving semantics.
Kind: L -/
@[simp]
theorem Channel.graph_hostPosts (i : Nat) : (ch.step (.hostPosts i)).graph = ch.graph := by
  simp only [Channel.step]
  split <;> rfl

/-- The host takes the oldest message, starts its handler, and parks it when the backend never
answers. Source: none: the interleaving semantics. Kind: L -/
theorem Channel.step_hostTakes_cons {H : Host} {m : ToHost} {ms : List ToHost}
    (hq : ch.toHost = m :: ms) :
    ch.step (.hostTakes H) =
      { ch with
        toHost := ms
        handling := GraphideWebviewProvider.handleMessage H m :: ch.handling
        waiting := if H.hangsOn m then m :: ch.waiting else ch.waiting } := by
  simp only [Channel.step, hq]

/-- With the graph view not mounted, a Load Graph click does nothing. Source: none: the interleaving
semantics. Kind: L -/
theorem Channel.step_loadGraph_none (hg : ch.graph = none) : ch.step .loadGraph = ch := by
  simp only [Channel.step, hg]

/-- With no reply queued, a delivery does nothing. Source: none: the interleaving semantics. Kind: L
-/
theorem Channel.step_deliver_nil (hq : ch.toWebview = []) : ch.step .deliver = ch := by
  simp only [Channel.step, hq]

/-- A delivered reply goes to the App's listener. Source: `src/ide/webview-ui/src/App.tsx` l.
91–122. Kind: L -/
theorem Channel.app_deliver {m : ToWebview} {ms : List ToWebview} (hq : ch.toWebview = m :: ms) :
    (ch.step .deliver).app = App.handleMessage ch.app m := by
  simp only [Channel.step, hq]

/-- A delivered reply goes to the graph view's listener, when it is mounted. Source:
`src/ide/webview-ui/src/App.tsx` l. 527–561. Kind: L -/
theorem Channel.graph_deliver {m : ToWebview} {ms : List ToWebview} (hq : ch.toWebview = m :: ms) :
    (ch.step .deliver).graph = ch.graph.map (listen · m) := by
  simp only [Channel.step, hq]

end Frame

/-- **The run lemma**, once for every invariant: one that every move keeps holds after any
sequence of moves. Source: none: the interleaving semantics. Kind: L -/
theorem Channel.foldl_inv (Inv : Channel → Prop) (hstep : ∀ ch mv, Inv ch → Inv (ch.step mv))
    (moves : List ChannelMove) {ch : Channel} (h : Inv ch) : Inv (moves.foldl Channel.step ch) := by
  induction moves generalizing ch with
  | nil => exact h
  | cons mv mvs ih => exact ih (hstep ch mv h)

/-! ## Requests in flight -/

/-- The messages the handlers under way have still to post that satisfy `p`.
Source: none: the interleaving semantics
Kind: D -/
def pending (p : ToWebview → Bool) : List (List ToWebview) → Nat
  | [] => 0
  | ms :: handling => ms.countP p + pending p handling

/-- The requests of one kind not yet answered: those waiting for the host, those whose handler
awaits a request that never resolves, the answers the handlers under way have still to post,
and the answers waiting for the webview.
Source: none: the interleaving semantics
Kind: D -/
def inFlight (ask : ToHost → Bool) (answer : ToWebview → Bool) (ch : Channel) : Nat :=
  ch.toHost.countP ask + ch.waiting.countP ask + pending answer ch.handling +
    ch.toWebview.countP answer

/-- The scans requested and not yet answered. Source: none: the interleaving semantics.
Kind: D -/
def scansInFlight : Channel → Nat := inFlight ToHost.isAnalyzeFiles ToWebview.isTerminal

/-- The graph loads requested and not yet answered. Source: none: the interleaving semantics.
Kind: D -/
def loadsInFlight : Channel → Nat := inFlight ToHost.isGetGraph ToWebview.isGraphData

/-- A handler that moves on from `ms` to `rest` moves the pending count by the difference.
Source: none: the interleaving semantics. Kind: L -/
theorem pending_set (p : ToWebview → Bool) :
    ∀ (handling : List (List ToWebview)) (i : Nat) {ms : List ToWebview} (rest : List ToWebview),
      handling[i]? = some ms →
        pending p (handling.set i rest) + ms.countP p = pending p handling + rest.countP p
  | [], _, _, _, h => nomatch h
  | a :: handling, 0, ms, rest, h => by
    rw [List.getElem?_cons_zero] at h
    obtain rfl := Option.some.inj h
    simp only [List.set_cons_zero, pending]
    omega
  | a :: handling, i + 1, ms, rest, h => by
    rw [List.getElem?_cons_succ] at h
    have := pending_set p handling i rest h
    simp only [List.set_cons_succ, pending]
    omega

section InFlight

variable (ask : ToHost → Bool) (answer : ToWebview → Bool) {ch : Channel}

/-- **What each move does to the requests in flight**, said once for every kind of request: a
click adds what it posts. Source: none: the interleaving semantics. Kind: L -/
theorem inFlight_click (c : Click) :
    inFlight ask answer (ch.step (.click c)) =
      inFlight ask answer ch + (App.click ch.app c).2.toList.countP ask := by
  simp only [inFlight, Channel.step, List.countP_append]
  omega

/-- A click of Load Graph adds what it posts. Source: none: the interleaving semantics.
Kind: L -/
theorem inFlight_loadGraph {g : GraphState} (hg : ch.graph = some g) :
    inFlight ask answer (ch.step .loadGraph) =
      inFlight ask answer ch +
        (GraphView.clickLoadGraph ch.app.selectedFile g).2.toList.countP ask := by
  simp only [inFlight, Channel.step, hg, List.countP_append]
  omega

/-- The host answers each request it takes with `hans`'s count of answers, or leaves it waiting.
Source: none: the interleaving semantics. Kind: L -/
theorem inFlight_hostTakes
    (hans : ∀ H m, (GraphideWebviewProvider.handleMessage H m).countP answer =
      if ask m && !H.hangsOn m then 1 else 0)
    (H : Host) :
    inFlight ask answer (ch.step (.hostTakes H)) = inFlight ask answer ch := by
  cases hq : ch.toHost with
  | nil => simp only [Channel.step, hq]
  | cons m ms =>
    simp only [inFlight, Channel.step, hq, pending, hans, List.countP_cons]
    cases h1 : ask m <;> cases h2 : H.hangsOn m <;> simp [List.countP_cons, h1, h2] <;> omega

/-- A handler's post moves an answer along. Source: none: the interleaving semantics.
Kind: L -/
theorem inFlight_hostPosts (i : Nat) :
    inFlight ask answer (ch.step (.hostPosts i)) = inFlight ask answer ch := by
  cases hi : ch.handling[i]? with
  | none => simp only [Channel.step, hi]
  | some ms =>
    cases ms with
    | nil => simp only [Channel.step, hi]
    | cons m rest =>
      have := pending_set answer ch.handling i rest hi
      simp only [inFlight, Channel.step, hi, List.countP_append, List.countP_cons,
        List.countP_nil] at this ⊢
      omega

/-- Delivering an answer ends its request. Source: none: the interleaving semantics. Kind: L -/
theorem inFlight_deliver {m : ToWebview} {ms : List ToWebview} (hq : ch.toWebview = m :: ms) :
    inFlight ask answer (ch.step .deliver) + (if answer m then 1 else 0) =
      inFlight ask answer ch := by
  simp only [inFlight, Channel.step, hq, List.countP_cons]
  omega

end InFlight

/-! ## One scan at a time -/

/-- The scan invariant: one scan in flight while App is analyzing, and none otherwise.
Source: the guard of `handleAnalyze`, `src/ide/webview-ui/src/App.tsx` l. 142
Kind: D -/
def OneScan (ch : Channel) : Prop :=
  scansInFlight ch = if ch.app.isAnalyzing then 1 else 0

/-- **The step lemma.** Every move keeps the count of scans in flight at one while App is
analyzing and at none otherwise. Source: `src/ide/webview-ui/src/App.tsx` l. 91–168;
`graphideWebviewProvider.ts` l. 65–181. Kind: L -/
theorem Channel.step_inv {ch : Channel} (h : OneScan ch) (mv : ChannelMove) :
    OneScan (ch.step mv) := by
  unfold OneScan scansInFlight at *
  cases mv with
  | click c =>
    have := App.click_isAnalyzing ch.app c
    rw [inFlight_click]
    simp only [Channel.step]
    omega
  | loadGraph =>
    cases hg : ch.graph with
    | none => rwa [Channel.step_loadGraph_none hg]
    | some g =>
      rw [inFlight_loadGraph _ _ hg, Channel.app_loadGraph]
      obtain hc | ⟨-, filePath, hc⟩ := clickLoadGraph_cases ch.app.selectedFile g <;>
        simpa only [hc, Option.toList_none, Option.toList_some, List.countP_cons, List.countP_nil,
          ToHost.isAnalyzeFiles, Bool.false_eq_true, if_false, Nat.add_zero] using h
  | hostTakes H =>
    rwa [inFlight_hostTakes _ _ countP_terminal_handleMessage, Channel.app_hostTakes]
  | hostPosts i => rwa [inFlight_hostPosts, Channel.app_hostPosts]
  | deliver =>
    cases hq : ch.toWebview with
    | nil => rwa [Channel.step_deliver_nil hq]
    | cons m ms =>
      have := inFlight_deliver ToHost.isAnalyzeFiles ToWebview.isTerminal hq
      rw [Channel.app_deliver hq, App.handleMessage_isAnalyzing]
      revert h this
      cases m.isTerminal <;> cases ch.app.isAnalyzing <;>
        simp only [Bool.false_eq_true, ↓reduceIte] <;> omega

/-- On mount no scan is in flight: the one message queued is the health check. Source:
`src/ide/webview-ui/src/App.tsx` l. 66–84, 123–126. Kind: L -/
theorem oneScan_initial : OneScan Channel.initial := rfl

/-- Under the scan invariant, a scan in flight means App is analyzing. Source: none: the
interleaving semantics. Kind: L -/
theorem OneScan.analyzing {ch : Channel} (h : OneScan ch) (hp : 0 < scansInFlight ch) :
    ch.app.isAnalyzing = true := by
  unfold OneScan at h
  split at h
  · assumption
  · omega

/-- A handler left waiting stays waiting: no move takes a message out of the waiting list.
Source: none: the interleaving semantics. Kind: L -/
theorem Channel.waiting_subset_step (ch : Channel) (mv : ChannelMove) :
    ch.waiting ⊆ (ch.step mv).waiting := by
  cases mv with
  | hostTakes H =>
    simp only [Channel.step]
    split
    · split
      · exact List.subset_cons_self _ _
      · exact List.Subset.refl _
    · exact List.Subset.refl _
  | click c => exact List.Subset.refl _
  | _ => simp only [Channel.step]; split <;> exact List.Subset.refl _

/-- **A scan the backend never answers keeps App analyzing for good.** Once the host's handler of
a scan awaits a request that never resolves (every request passes `CancellationToken.None` and
sets no timeout), App shows it is analyzing in every later state, whatever the user clicks,
Clear included, and whatever else the host and the window do: the Analyze button stays
disabled and its handler returns at its guard, posting nothing, so the panel can ask for no
other scan.
Source: `graphideWebviewProvider.ts` l. 89–133; `src/ide/webview-ui/src/App.tsx` l. 91–168,
276–305
Kind: P -/
theorem scan_hangs_forever (moves more : List ChannelMove)
    (hw : (moves.foldl Channel.step Channel.initial).waiting.any ToHost.isAnalyzeFiles = true) :
    ((moves ++ more).foldl Channel.step Channel.initial).app.isAnalyzing = true ∧
      (App.click ((moves ++ more).foldl Channel.step Channel.initial).app .analyze).2 = none := by
  have hs := Channel.foldl_inv OneScan (fun _ mv h => Channel.step_inv h mv) (moves ++ more)
    oneScan_initial
  have hw' := Channel.foldl_inv (fun ch => ch.waiting.any ToHost.isAnalyzeFiles = true)
    (fun ch mv h => by
      obtain ⟨m, hm, hp⟩ := List.any_eq_true.mp h
      exact List.any_eq_true.mpr ⟨m, Channel.waiting_subset_step ch mv hm, hp⟩) more hw
  rw [List.foldl_append] at hs ⊢
  have ha := hs.analyzing (by
    have := List.countP_pos_iff.mpr (List.any_eq_true.mp hw')
    simp only [scansInFlight, inFlight]
    omega)
  refine ⟨ha, ?_⟩
  simp only [App.click, App.handleAnalyze, ha, if_true]
  split <;> rfl

/-- A panel whose backend never answers: the health check and then the scan wait for good, and
App is still analyzing after the user clicks Clear and then Analyze again. Source: none: a test
input. Kind: N+ -/
theorem scan_hangs_forever_silent_backend :
    let silent : Host := ⟨some ("/w/a.c", "a.c"), fun _ => none⟩
    let moves : List ChannelMove := [.hostTakes silent, .click .selectFile, .hostTakes silent,
      .hostPosts 0, .deliver, .click .analyze, .hostTakes silent]
    (moves.foldl Channel.step Channel.initial).waiting.any ToHost.isAnalyzeFiles = true ∧
      ((moves ++ [ChannelMove.click .clear, .click .analyze]).foldl Channel.step
          Channel.initial).app.isAnalyzing = true ∧
      (App.click ((moves ++ [ChannelMove.click .clear, .click .analyze]).foldl Channel.step
          Channel.initial).app .analyze).2 = none :=
  ⟨rfl, scan_hangs_forever _ _ rfl⟩

/-! ## The graph view -/

/-- The spinner's invariant: while the mounted `GraphView` is loading, a load is in flight.
Source: `src/ide/webview-ui/src/App.tsx` l. 519–531, 576–580
Kind: D -/
def SpinnerAnswered (ch : Channel) : Prop :=
  ∀ g, ch.graph = some g → g.loading = true → 0 < loadsInFlight ch

/-- Every move keeps the spinner's invariant. Source: `src/ide/webview-ui/src/App.tsx`
l. 227, 513–580; `graphideWebviewProvider.ts` l. 65–181. Kind: L -/
theorem Channel.step_spinner {ch : Channel} (h : SpinnerAnswered ch) (mv : ChannelMove) :
    SpinnerAnswered (ch.step mv) := by
  unfold SpinnerAnswered loadsInFlight at *
  intro g' hg' hl
  cases mv with
  | click c =>
    rw [inFlight_click]
    simp only [Channel.step, GraphView.remount] at hg'
    split_ifs at hg' with hn hp
    · exact Nat.lt_of_lt_of_le (h g' hg' hl) (Nat.le_add_right _ _)
    · cases hg'
      cases hl
  | loadGraph =>
    cases hg : ch.graph with
    | none =>
      rw [Channel.step_loadGraph_none hg] at hg' ⊢
      exact h g' hg' hl
    | some g =>
      rw [inFlight_loadGraph _ _ hg]
      obtain hc | ⟨-, filePath, hc⟩ := clickLoadGraph_cases ch.app.selectedFile g
      · simp only [Channel.step, hg, hc, Option.some.injEq] at hg'
        subst hg'
        simpa only [hc, Option.toList_none, List.countP_nil, Nat.add_zero] using h _ hg hl
      · simp only [hc, Option.toList_some, ToHost.isGetGraph, List.countP_cons_of_pos,
          List.countP_nil, Nat.zero_add, Nat.zero_lt_succ]
  | hostTakes H =>
    rw [inFlight_hostTakes _ _ countP_graphData_handleMessage]
    exact h g' (by rwa [Channel.graph_hostTakes] at hg') hl
  | hostPosts i =>
    rw [inFlight_hostPosts]
    exact h g' (by rwa [Channel.graph_hostPosts] at hg') hl
  | deliver =>
    cases hq : ch.toWebview with
    | nil =>
      rw [Channel.step_deliver_nil hq] at hg' ⊢
      exact h g' hg' hl
    | cons m ms =>
      have hd := inFlight_deliver ToHost.isGetGraph ToWebview.isGraphData hq
      rw [Channel.graph_deliver hq] at hg'
      obtain ⟨g, hg, rfl⟩ := Option.map_eq_some'.mp hg'
      rw [listen_loading, Bool.and_eq_true, Bool.not_eq_true'] at hl
      simp only [hl.2, Bool.false_eq_true, if_false, Nat.add_zero] at hd
      exact hd ▸ h g hg hl.1

/-- Leaving the graph view and coming back mounts a fresh `GraphView`, whose spinner is off, so a
click of its Load Graph puts one more load in flight, whatever is in flight already.
Source: `src/ide/webview-ui/src/App.tsx` l. 227, 514–525, 576–580. Kind: L -/
theorem loadsInFlight_reload (ch : Channel) :
    loadsInFlight ([.click (.navigate .analysis), .click (.navigate .graph), .loadGraph].foldl
      Channel.step ch) = loadsInFlight ch + 1 := by
  have hg : ((ch.step (.click (.navigate .analysis))).step (.click (.navigate .graph))).graph =
      some GraphState.initial := by
    simp [Channel.step, GraphView.remount, App.click]
  simp only [List.foldl_cons, List.foldl_nil, loadsInFlight]
  rw [inFlight_loadGraph _ _ hg, inFlight_click, inFlight_click]
  simp [App.click, GraphView.clickLoadGraph, GraphView.loadGraph, GraphState.initial,
    ToHost.isGetGraph]

/-- **The spinner is always answered, in every interleaving.** Whatever the user clicks and
however the host's handlers and the window's listeners interleave, while the mounted
`GraphView` shows its spinner at least one graph load is in flight: a `graphData` is on its way
to it, unless the backend never answers that load. Not one at most: the disabled button does
not keep loads to one at a time, since leaving the view and coming back mounts a fresh view
whose Load Graph puts a second load in flight beside this one. Both answers then reach the
view, in whatever order the host's handlers post them.
Source: `src/ide/webview-ui/src/App.tsx` l. 227, 513–580; `graphideWebviewProvider.ts`
l. 65–181
Kind: P -/
theorem graph_spinner_answered (moves : List ChannelMove) (g : GraphState)
    (hg : (moves.foldl Channel.step Channel.initial).graph = some g) (hl : g.loading = true) :
    0 < loadsInFlight (moves.foldl Channel.step Channel.initial) ∧
      loadsInFlight ((moves ++ [ChannelMove.click (.navigate .analysis), .click (.navigate .graph),
        .loadGraph]).foldl Channel.step Channel.initial) =
        loadsInFlight (moves.foldl Channel.step Channel.initial) + 1 := by
  refine ⟨Channel.foldl_inv SpinnerAnswered (fun _ mv h => Channel.step_spinner h mv) moves
    (fun _ h => by cases h) g hg hl, ?_⟩
  rw [List.foldl_append]
  exact loadsInFlight_reload _

/-- On the graph view, a click of Load Graph starts the spinner with its load in flight, and a
second one follows it after a remount. Source: none: a test input. Kind: N+ -/
theorem graph_spinner_answered_first_load :
    ([.click (.navigate .graph), .loadGraph].foldl Channel.step Channel.initial).graph =
        some { GraphState.initial with loading := true } ∧
      ({ GraphState.initial with loading := true } : GraphState).loading = true ∧
      0 < loadsInFlight
        ([.click (.navigate .graph), .loadGraph].foldl Channel.step Channel.initial) ∧
      loadsInFlight (([ChannelMove.click (.navigate .graph), .loadGraph] ++
        [ChannelMove.click (.navigate .analysis), .click (.navigate .graph), .loadGraph]).foldl
          Channel.step Channel.initial) =
        loadsInFlight
          ([.click (.navigate .graph), .loadGraph].foldl Channel.step Channel.initial) + 1 :=
  ⟨rfl, rfl, graph_spinner_answered _ _ rfl rfl⟩

end Graphide.Webview
