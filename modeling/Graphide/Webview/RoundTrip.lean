import Graphide.Webview.Channel
import Graphide.Webview.Analysis

/-!
# One request at a time: the channel and the round trips

Package `Webview`, file 12. `Analysis` and `GraphView` state their results over round trips: a
click, the host's handler for what it posted, and each message of the handler taken by the
listeners in turn (`analyze`, `loadRoundTrip`). Here the channel of `Channel` is run under the
schedule that serves each request to its end before the next move, and it computes exactly
those round trips; so what is proved of the round trips holds of the channel so scheduled.

* `serveMoves`, `Channel.foldl_serveMoves` — the moves that post and deliver, one after the
  other, each message of the newest handler; they apply the handler's messages to App and to the
  mounted `GraphView` in order.
* `Channel.roundTrip` — a move run to its end under that schedule.
* `serial_round_trips` — **the bridge**: from a channel with both queues empty, a click of
  Analyze leaves App in `analyze`'s state and a click of Load Graph leaves `GraphView` in
  `loadRoundTrip`'s, and every round trip leaves both queues empty again, so round trips follow
  one another. A handler that waits for good is left waiting; the queues are empty all the
  same.
-/

namespace Graphide.Webview

/-! ## Serving the newest handler -/

/-- The moves that serve the newest handler: each of its messages posted, then delivered.
Source: none: the interleaving semantics
Kind: D -/
def serveMoves : List ToWebview → List ChannelMove
  | [] => []
  | _ :: out => .hostPosts 0 :: .deliver :: serveMoves out

/-- One message of the newest handler posted and delivered, with nothing else in the webview's
queue. Source: none: the interleaving semantics. Kind: L -/
theorem Channel.post_deliver {ch : Channel} {m : ToWebview} {out : List ToWebview}
    {rest : List (List ToWebview)} (hh : ch.handling = (m :: out) :: rest)
    (hw : ch.toWebview = []) :
    (ch.step (.hostPosts 0)).step .deliver =
      { ch with
        app := App.handleMessage ch.app m
        graph := ch.graph.map (listen · m)
        handling := out :: rest } := by
  simp only [Channel.step, hh, hw, List.getElem?_cons_zero, List.set_cons_zero, List.nil_append]

/-- Serving the newest handler applies its messages, in order, to App and to the mounted
`GraphView`, and leaves the webview's queue empty. Source: none: the interleaving semantics.
Kind: L -/
theorem Channel.foldl_serveMoves :
    ∀ (out : List ToWebview) (ch : Channel) (rest : List (List ToWebview)),
      ch.handling = out :: rest → ch.toWebview = [] →
        ((serveMoves out).foldl Channel.step ch).app = out.foldl App.handleMessage ch.app ∧
        ((serveMoves out).foldl Channel.step ch).graph = ch.graph.map (out.foldl listen ·) ∧
        ((serveMoves out).foldl Channel.step ch).toHost = ch.toHost ∧
        ((serveMoves out).foldl Channel.step ch).toWebview = []
  | [], ch, _, _, hw => ⟨rfl, Option.map_id'.symm, rfl, hw⟩
  | m :: out, ch, rest, hh, hw => by
    obtain ⟨happ, hgraph, hhost, hweb⟩ := Channel.foldl_serveMoves out
      { ch with
        app := App.handleMessage ch.app m
        graph := ch.graph.map (listen · m)
        handling := out :: rest } rest rfl hw
    simp only [serveMoves, List.foldl_cons]
    rw [Channel.post_deliver hh hw]
    refine ⟨happ, ?_, hhost, hweb⟩
    rw [hgraph, Option.map_map]
    rfl

/-! ## Round trips -/

/-- A move run to its end, one request at a time: the move and, when it posted a request, the
host taking it (with `H` answering) and each message of its handler posted and delivered in
turn. Source: `src/ide/webview-ui/src/App.tsx` l. 89–168, 513–580; `graphideWebviewProvider.ts`
l. 65–181
Kind: D -/
def Channel.roundTrip (H : Host) (ch : Channel) (mv : ChannelMove) : Channel :=
  match (ch.step mv).toHost with
  | [m] => (.hostTakes H :: serveMoves (GraphideWebviewProvider.handleMessage H m)).foldl
      Channel.step (ch.step mv)
  | _ => ch.step mv

section RoundTrip

variable (H : Host) {ch : Channel}

/-- A request served to its end: its handler's messages applied to App and to the mounted
`GraphView`, and both queues empty again. Source: none: the interleaving semantics. Kind: L -/
theorem Channel.roundTrip_of_post {mv : ChannelMove} {m : ToHost}
    (hq : (ch.step mv).toHost = [m]) (hw : (ch.step mv).toWebview = []) :
    (ch.roundTrip H mv).app =
        (GraphideWebviewProvider.handleMessage H m).foldl App.handleMessage (ch.step mv).app ∧
      (ch.roundTrip H mv).graph =
        (ch.step mv).graph.map ((GraphideWebviewProvider.handleMessage H m).foldl listen ·) ∧
      (ch.roundTrip H mv).toHost = [] ∧ (ch.roundTrip H mv).toWebview = [] := by
  have h := Channel.foldl_serveMoves (GraphideWebviewProvider.handleMessage H m)
    ((ch.step mv).step (.hostTakes H)) (ch.step mv).handling
    (by rw [Channel.step_hostTakes_cons hq]) (by rw [Channel.step_hostTakes_cons hq]; exact hw)
  simp only [Channel.roundTrip, hq, List.foldl_cons]
  rw [Channel.step_hostTakes_cons hq] at h ⊢
  exact h

/-- A request-free move leaves the queues as it found them, and a move that posts one request
is served to its end. Source: none: the interleaving semantics. Kind: L -/
theorem Channel.roundTrip_queues {mv : ChannelMove} (msg : Option ToHost)
    (hq : (ch.step mv).toHost = msg.toList) (hw : (ch.step mv).toWebview = []) :
    (ch.roundTrip H mv).toHost = [] ∧ (ch.roundTrip H mv).toWebview = [] := by
  cases msg with
  | none =>
    simp only [Option.toList_none] at hq
    simp only [Channel.roundTrip, hq, hw, and_self]
  | some _ => exact (Channel.roundTrip_of_post H hq hw).2.2

/-- From a channel with both queues empty, a click or a click of Load Graph run to its end leaves
both queues empty again.
Source: `src/ide/webview-ui/src/App.tsx` l. 137–168, 519–525; `graphideWebviewProvider.ts`
l. 65–181
Kind: L -/
theorem roundTrip_queues_empty (hq : ch.toHost = []) (hw : ch.toWebview = []) :
    (∀ c, (ch.roundTrip H (.click c)).toHost = [] ∧ (ch.roundTrip H (.click c)).toWebview = []) ∧
      (ch.roundTrip H .loadGraph).toHost = [] ∧ (ch.roundTrip H .loadGraph).toWebview = [] := by
  refine ⟨fun c => Channel.roundTrip_queues H (App.click ch.app c).2
    (by simp only [Channel.step, hq, List.nil_append]) hw, ?_⟩
  cases hg : ch.graph with
  | none =>
    exact Channel.roundTrip_queues H none (by simp only [Channel.step, hg, hq]; rfl)
      (by simp only [Channel.step, hg, hw])
  | some g =>
    exact Channel.roundTrip_queues H (GraphView.clickLoadGraph ch.app.selectedFile g).2
      (by simp only [Channel.step, hg, hq, List.nil_append]) (by simp only [Channel.step, hg, hw])

/-- **The bridge.** Run one request at a time from a channel with both queues empty, a click of
Analyze leaves App in the state of the round trip `analyze`, and a click of Load Graph leaves
the mounted `GraphView` in the state of the round trip `loadRoundTrip`: what is proved of the
round trips holds of the channel so scheduled. Every such round trip leaves both queues empty
again, so round trips follow one another.
Source: `src/ide/webview-ui/src/App.tsx` l. 89–168, 513–580; `graphideWebviewProvider.ts`
l. 65–181
Kind: P -/
theorem serial_round_trips (hq : ch.toHost = []) (hw : ch.toWebview = []) :
    (ch.roundTrip H (.click .analyze)).app = analyze H ch.app ∧
      (∀ g, ch.graph = some g →
        (ch.roundTrip H .loadGraph).graph = some (loadRoundTrip H ch.app.selectedFile g)) ∧
      (∀ c, (ch.roundTrip H (.click c)).toHost = [] ∧ (ch.roundTrip H (.click c)).toWebview = []) ∧
      (ch.roundTrip H .loadGraph).toHost = [] ∧ (ch.roundTrip H .loadGraph).toWebview = [] := by
  refine ⟨?_, ?_, roundTrip_queues_empty H hq hw⟩
  · rcases hc : App.handleAnalyze ch.app with ⟨s', _ | msg⟩
    · have hpost : (ch.step (.click .analyze)).toHost = [] := by
        simp only [Channel.step, App.click, hc, hq, Option.toList_none, List.append_nil]
      simp only [Channel.roundTrip, hpost, analyze, hc]
      simp only [Channel.step, App.click, hc]
    · have hpost : (ch.step (.click .analyze)).toHost = [msg] := by
        simp only [Channel.step, App.click, hc, hq, Option.toList_some, List.nil_append]
      rw [(Channel.roundTrip_of_post H hpost hw).1]
      simp only [analyze, hc, Channel.step, App.click]
  · intro g hg
    rcases hc : GraphView.clickLoadGraph ch.app.selectedFile g with ⟨g', _ | msg⟩
    · have hpost : (ch.step .loadGraph).toHost = [] := by
        simp only [Channel.step, hg, hc, hq, Option.toList_none, List.append_nil]
      simp only [Channel.roundTrip, hpost, loadRoundTrip, hc]
      simp only [Channel.step, hg, hc]
    · have hpost : (ch.step .loadGraph).toHost = [msg] := by
        simp only [Channel.step, hg, hc, hq, Option.toList_some, List.nil_append]
      rw [(Channel.roundTrip_of_post H hpost
        (by simp only [Channel.step, hg, hw])).2.1]
      simp only [loadRoundTrip, hc, Channel.step, hg, Option.map_some']

end RoundTrip

/-- The bridge on the graph view, from a panel whose health check has been answered, against a
backend that is down. Source: none: a test input. Kind: N+ -/
theorem serial_round_trips_backend_down :
    let down : Host := ⟨none, fun _ => some (.error "connect ECONNREFUSED")⟩
    let ch : Channel :=
      ⟨{ AppState.initial with activeView := .graph }, some GraphState.initial, [], [], [], []⟩
    ch.toHost = [] ∧ ch.toWebview = [] ∧ ch.graph = some GraphState.initial ∧
      (ch.roundTrip down (.click .analyze)).app = analyze down ch.app ∧
      (ch.roundTrip down .loadGraph).graph =
        some (loadRoundTrip down ch.app.selectedFile GraphState.initial) ∧
      (∀ c, (ch.roundTrip down (.click c)).toHost = [] ∧
        (ch.roundTrip down (.click c)).toWebview = []) ∧
      (ch.roundTrip down .loadGraph).toHost = [] ∧
        (ch.roundTrip down .loadGraph).toWebview = [] := by
  intro down ch
  have h := @serial_round_trips down ch rfl rfl
  exact ⟨rfl, rfl, rfl, h.1, h.2.1 _ rfl, h.2.2⟩

end Graphide.Webview
