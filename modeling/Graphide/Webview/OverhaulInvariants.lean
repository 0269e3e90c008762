import Graphide.Webview.OverhaulSession

/-!
# The overhauled pane's invariants over a session

Package `Webview`, file 18. Whatever order the overhauled pane's handlers and intervals run in,
and whatever the backend answers, the pane keeps four invariants, each proved once for every
handler and carried along any run by `runSession_inv`.

* `session_log` — **the log in any interleaving**: the container shows one element per entry
  of the consolidated log of the adds made since the last clear, each rendered from its entry's
  message, and no element has a count badge.
* `session_dots` — **no loading dots outlive their request**: an element shows loading dots only
  while its analysis is in flight.
* `runSession_intervals` — every interval is where its own runs left it; so
  `session_stream_never_stops` — an interval on a content that is not a string is still set, its
  element empty, in every state the pane reaches, and `session_stream_shows_all` — a string
  interval that was cleared leaves its element holding the whole string (shown while the
  element is still in the container).
* `session_views` — **one view is shown**: while the markdown renderer takes every string, the
  pane shows its active view's container and no other (the editor's for the settings view).
-/

namespace Graphide.Webview.Overhaul

open Handler

/-! ## The log -/

/-- Only the messages, the error fields, the elements and the container matter. Source: none:
infrastructure. Kind: L -/
theorem Holds.of_fields {log : List Entry} {p q : Pane} (h : Holds log p)
    (hm : q.messages = p.messages) (hc : q.lastErrorContent = p.lastErrorContent)
    (hn : q.errorCount = p.errorCount) (he : q.elements = p.elements)
    (hk : q.container = p.container) : Holds log q :=
  ⟨by rw [hk, he]; exact h.valid, hm ▸ h.messages,
    by simpa only [Pane.kinds, Pane.shown, hk, he] using h.kinds,
    by simpa only [Pane.sources, Pane.shown, hk, he] using h.sources,
    fun e es hl het => by rw [hc, hn]; exact h.lastError e es hl het⟩

/-- A tick of a typing interval keeps the log: it only rewrites an element's markdown. Source:
`src/unnamed/part_003` l. 432–445. Kind: L -/
theorem Holds.runInterval {E : OverhaulEnv} {log : List Entry} {p : Pane} (h : Holds log p)
    (j : Nat) : Holds log (p.runInterval E j) := by
  unfold Pane.runInterval
  split
  · exact h
  · next t _ =>
    have h' :=
      h.setEl t.el (f := fun el => { el with markdown := (fire E (t, p.contentOf t.el)).2 })
      fun _ => ⟨rfl, rfl, rfl⟩
    exact h'.of_fields rfl rfl rfl rfl rfl

/-- A tick adds no message. Source: `src/unnamed/part_003` l. 432–445. Kind: L -/
theorem runInterval_added (E : OverhaulEnv) (p : Pane) (j : Nat) :
    (p.runInterval E j).added = p.added := by
  unfold Pane.runInterval
  split <;> rfl

/-- Every step of a session keeps the pane equal to the log of what was added. Source: none:
infrastructure. Kind: L -/
theorem logHeld_stable (E : OverhaulEnv) : Stable E LogHeld where
  add _ m stream h := addMessageWithStreamOption_logHeld h m stream false
  clear p _ := clearHistory_logHeld p
  dots _ i h := h.setEl i fun _ => ⟨rfl, rfl, rfl⟩
  views _ _ _ _ _ h := h.of_fields rfl rfl rfl rfl rfl
  tick p j h := by
    rw [LogHeld, Pane.log, runInterval_added]
    exact h.runInterval j

/-! ## The invariants over a session -/

/-- Every element that shows loading dots, with the three `.` spans in it, is the loading element
of an analysis in flight. Source: `src/unnamed/part_003` l. 419–426, 500–501, 517–518.
Kind: D -/
def DotsIn (S : List Nat) (p : Pane) : Prop :=
  ∀ (i : Nat) (el : MessageEl) (n : Nat),
    p.elements[i]? = some el → el.dots = some n → 0 < n → i ∈ S

/-- An update that keeps every element's dots keeps the dots in the analyses in flight. Source:
none: infrastructure. Kind: L -/
theorem DotsIn.setEl {S : List Nat} {p : Pane} (h : DotsIn S p) (i : Nat)
    {f : MessageEl → MessageEl} (hf : ∀ el, (f el).dots = el.dots) : DotsIn S (p.setEl i f) := by
  intro j el n hj hd hn
  simp only [Pane.setEl, List.getElem?_modify, Option.map_eq_map, Option.map_eq_some'] at hj
  obtain ⟨el', he', hfe⟩ := hj
  refine h j el' n he' ?_ hn
  split at hfe <;> subst hfe
  · rwa [hf] at hd
  · exact hd

/-- Removing the loading dots of the element `i` leaves dots only on elements other than `i`.
Source: `src/unnamed/part_003` l. 500–501, 517–518. Kind: L -/
theorem DotsIn.removeDots {S S' : List Nat} {p : Pane} (h : DotsIn S p) (i : Nat)
    (hS : ∀ j ∈ S, j ≠ i → j ∈ S') : DotsIn S' (p.setEl i fun el => { el with dots := none }) := by
  intro j el n hj hd hn
  simp only [Pane.setEl, List.getElem?_modify, Option.map_eq_map, Option.map_eq_some'] at hj
  obtain ⟨el', he', hfe⟩ := hj
  split at hfe
  · subst hfe; cases hd
  · next hij => subst hfe; exact hS j (h j _ n he' hd hn) (Ne.symm hij)

/-- A new element shows loading dots only if its index is allowed to. Source: none:
infrastructure. Kind: L -/
theorem DotsIn.appendEl {S S' : List Nat} {p : Pane} (h : DotsIn S p) (hS : ∀ j ∈ S, j ∈ S')
    {el : MessageEl} (hel : ∀ n, el.dots = some n → 0 < n → p.elements.length ∈ S') :
    DotsIn S' (p.appendEl el) := by
  intro j el' n hj hd hn
  rcases getElem?_concat_eq_some hj with hj | ⟨rfl, rfl⟩
  · exact hS j (h j el' n hj hd hn)
  · exact hel n hd hn

/-- An add without loading dots gives no element dots. Source: `src/unnamed/part_003`
l. 362–453. Kind: L -/
theorem addMessageWithStreamOption_dotsIn {E : OverhaulEnv} {S : List Nat} {p : Pane}
    (h : DotsIn S p) (m : ChatMessage) (stream : Bool) :
    DotsIn S ((addMessageWithStreamOption E m.role m.content m.type stream false).run.run p).2 := by
  cases hc : p.counts m with
  | some i =>
    rw [addMessageWithStreamOption_run_counts stream false hc]
    exact DotsIn.setEl h i fun _ => rfl
  | none =>
    rw [addMessageWithStreamOption_run_push stream false hc]
    obtain ⟨el, hp', -, -, -, hd, -, -, -⟩ := renderMessage_shape E m stream false (p.push m)
    generalize (renderMessage E m stream false).run.run (p.push m) = r at hp' ⊢
    have h' : DotsIn S ((p.push m).appendEl el) :=
      DotsIn.appendEl (S := S) h (fun _ hj => hj) fun n hd' _ => by rw [hd rfl] at hd'; cases hd'
    exact fun j el' n hj => h' j el' n (by rw [hp'] at hj; exact hj)

/-- Every step of a session keeps loading dots in the elements of analyses in flight. Source: none:
infrastructure. Kind: L -/
theorem dotsIn_stable (E : OverhaulEnv) (S : List Nat) : Stable E (DotsIn S) where
  add _ m stream h := addMessageWithStreamOption_dotsIn h m stream
  clear p h := by
    have h0 : DotsIn S { p with messages := [], container := [], added := [] } := h
    simp only [clearHistory, Handler.run_modify_bind, addMessage_run_state]
    exact addMessageWithStreamOption_dotsIn h0 clearedMessage false
  dots _ i h := h.removeDots i fun _ hj _ => hj
  views _ _ _ _ _ h := h
  tick p j h := by
    unfold Pane.runInterval
    split
    · exact h
    · next t _ =>
      exact DotsIn.setEl (f := fun el => { el with markdown := (fire E (t, p.contentOf t.el)).2 }) h
        t.el fun _ => rfl

/-- The "Analysing" message shows loading dots, and its element is returned, unless the renderer
threw, which leaves the dots' span empty. Source: `src/unnamed/part_003` l. 419–426, 476–483.
Kind: L -/
theorem analyzeStart_dots {E : OverhaulEnv} {S : List Nat} {p : Pane} (h : DotsIn S p)
    (filePath fileName : String) :
    match (analyzeStart E filePath fileName).run.run p with
    | (.ok loadingEl, p') => DotsIn (S ++ [loadingEl]) p'
    | (.error _, p') => DotsIn S p' := by
  have hc : p.counts (analysingMessage E filePath fileName) = none := by
    simp [Pane.counts, analysingMessage]
  rw [analyzeStart_eq, addMessageWithStreamOption_run_push false true hc, renderMessage_run_dots]
  have h' : DotsIn S (p.push (analysingMessage E filePath fileName)) := h
  rcases E.pane.markdownError (analysingMessage E filePath fileName).content with _ | e
  · exact h'.appendEl (fun _ hj => List.mem_append_left _ hj) fun _ _ _ =>
      List.mem_append_right _ (List.mem_singleton_self _)
  · exact h'.appendEl (fun _ hj => hj) fun n hd hn => by
      cases hd
      cases hn

/-- The answer to an analysis removes its loading dots first, in the `try` and in the `catch`,
and adds no others. Source: `src/unnamed/part_003` l. 485–521. Kind: L -/
theorem analyzeReply_dots {E : OverhaulEnv} {S S' : List Nat} {p : Pane} (h : DotsIn S p)
    (loadingEl : Nat) (hS : ∀ j ∈ S, j ≠ loadingEl → j ∈ S') (reply : Except String Json) :
    DotsIn S' ((analyzeReply E loadingEl reply).run.run p).2 := by
  have hadd : ∀ q (m : ChatMessage) (stream : Bool), DotsIn S' q →
      DotsIn S' ((addMessageWithStreamOption E m.role m.content m.type stream false).run.run q).2 :=
    fun _ m stream hq => addMessageWithStreamOption_dotsIn hq m stream
  have hrm : ∀ q, DotsIn S q ∨ DotsIn S' q →
      DotsIn S' (q.setEl loadingEl fun el => { el with dots := none }) :=
    fun _ hq => hq.elim (·.removeDots loadingEl hS) (·.removeDots loadingEl fun _ hj _ => hj)
  have ht : Triple (DotsIn S) (analyzeReply E loadingEl reply) (fun _ => DotsIn S')
      (fun _ => DotsIn S') := by
    refine Triple.tryCatch (M := fun _ q => DotsIn S q ∨ DotsIn S' q) ?_ fun _ =>
      Triple.bind (Triple.of_state hrm) fun _ =>
        Triple.bind (add_keeps hadd _ _ _ _) fun _ => Triple.pure fun _ hq => hq
    refine Triple.bind (M := fun _ => DotsIn S)
      (Triple.lift fun _ hq => by cases reply; exacts [.inl hq, hq]) fun data => ?_
    refine Triple.bind (M := fun _ => DotsIn S') (Triple.conseq
      (Triple.of_state (I := DotsIn S') fun q hq => hrm q (.inl hq)) (fun _ hq => hq)
      (fun _ _ hq => hq) fun _ _ hq => .inr hq) fun _ => ?_
    exact Triple.conseq (showReply_keeps hadd data) (fun _ hq => hq) (fun _ _ hq => hq)
      fun _ _ hq => .inr hq
  have := ht p h
  revert this
  rcases (analyzeReply E loadingEl reply).run.run p with ⟨_ | _, _⟩ <;> exact id

/-! ## Over a session -/

/-- Every step of a session keeps the pane free of count badges. Source: `src/unnamed/part_003` l.
370–372. Kind: L -/
theorem noBadge_stable (E : OverhaulEnv) : Stable E NoBadge where
  add _ m stream h := addMessageWithStreamOption_noBadge h m stream false
  clear p h := by
    have h0 : NoBadge { p with messages := [], container := [], added := [] } := h
    simp only [clearHistory, Handler.run_modify_bind, addMessage_run_state]
    exact addMessageWithStreamOption_noBadge h0 clearedMessage false false
  dots _ i h := h.setEl i fun _ hb => hb
  views _ _ _ _ _ h := h
  tick p j h := by
    unfold Pane.runInterval
    split
    · exact h
    · next t _ =>
      exact NoBadge.setEl (f := fun el => { el with markdown := (fire E (t, p.contentOf t.el)).2 })
        h t.el fun _ hb => hb

/-- Every step of a session keeps every typing interval tied to its own element. Source: none:
infrastructure. Kind: L -/
theorem intervalsRun_stable (E : OverhaulEnv) : Stable E (IntervalsRun E) where
  add _ m stream h := addMessageWithStreamOption_intervals h m stream false
  clear p h := by
    have h0 : IntervalsRun E { p with messages := [], container := [], added := [] } :=
      h.of_fields rfl rfl
    simp only [clearHistory, Handler.run_modify_bind, addMessage_run_state]
    exact addMessageWithStreamOption_intervals h0 clearedMessage false false
  dots _ i h := h.setEl i fun _ => rfl
  views _ _ _ _ _ h := h.of_fields rfl rfl
  tick _ j h := h.runInterval j

/-- The pane once `renderBody` has run holds the log of its adds. Source: `src/unnamed/part_003`
l. 90–128, 228. Kind: L -/
theorem initial_logHeld (E : OverhaulEnv) : LogHeld (Session.initial E).pane :=
  (logHeld_stable E).renderBody (⟨nofun, rfl, rfl, rfl, fun _ _ h => nomatch h⟩ : Holds [] Pane.initial)

/-- Over any session the pane holds the log of its adds. Source: `src/unnamed/part_003`
l. 90–128, 352–521. Kind: L -/
theorem runSession_logHeld (E : OverhaulEnv) (steps : List Step) :
    LogHeld (runSession E steps).pane :=
  runSession_inv (fun s => LogHeld s.pane) (initial_logHeld E)
    (fun s st => (logHeld_stable E).step
      (fun _ _ _ hp => by
        rw [analyzeStart_eq]; exact addMessageWithStreamOption_logHeld hp _ false true)
      s st) steps

/-- Over any session no element has a count badge. Source: `src/unnamed/part_003` l. 370–372.
Kind: L -/
theorem runSession_noBadge (E : OverhaulEnv) (steps : List Step) :
    NoBadge (runSession E steps).pane :=
  runSession_inv (fun s => NoBadge s.pane)
    ((noBadge_stable E).renderBody fun _ h => by simp [Pane.initial] at h)
    (fun s st => (noBadge_stable E).step
      (fun _ _ _ hp => by
        rw [analyzeStart_eq]; exact addMessageWithStreamOption_noBadge hp _ false true)
      s st) steps

/-- **The log in any interleaving.** Whatever order the handlers' stretches and the intervals
run in, and whatever the backend answers, the container shows one element per entry of the log
of the adds made since the last clear (or since the welcome): each element rendered from its
entry's message and of its role and type. No entry of that log would absorb the one after it,
and its counts spell out exactly the messages added; but no element has a count badge, so a run
of repeated errors shows as one element with nothing to say how many. The pane records the adds
in the proof-only `added`, and each element the message it was rendered from.
Source: `src/unnamed/part_003` l. 90–128, 352–521
Kind: P -/
theorem session_log (E : OverhaulEnv) (steps : List Step) :
    let p := (runSession E steps).pane
    p.sources = (p.log.map (·.message)).reverse ∧
      p.kinds = (p.log.map fun e => kindOf e.message).reverse ∧
      Consolidated p.log ∧
      expand p.log = (p.added.map fun m => (m.content, m.type)).reverse ∧
      NoBadge p := by
  have h := runSession_logHeld E steps
  exact ⟨h.sources, h.kinds, foldl_pushEntry_consolidated (runSession E steps).pane.added
    List.chain'_nil,
    by rw [Pane.log, expand_foldl_pushEntry, expand, List.flatMap_nil, List.append_nil],
    runSession_noBadge E steps⟩

/-- **No loading dots outlive their request.** Whatever order the handlers' stretches and the
intervals run in, and whatever the backend answers, an element shows loading dots only while it
is the "Analysing" message of an analysis whose request is in flight: once every request has
been answered, no element shows any.
Source: `src/unnamed/part_003` l. 419–426, 476–521
Kind: P -/
theorem session_dots (E : OverhaulEnv) (steps : List Step) :
    DotsIn (runSession E steps).inFlight (runSession E steps).pane := by
  refine runSession_inv (fun s => DotsIn s.inFlight s.pane)
    ((dotsIn_stable E []).renderBody fun _ _ _ h => by simp [Pane.initial] at h)
    (fun s st h => ?_) steps
  have hS := dotsIn_stable E s.inFlight
  cases st with
  | clear => exact hS.clear _ h
  | nav view => exact (switchView_keeps hS view).state_of h
  | analyze => exact (openEditor_keeps hS).state_of h
  | chosen filePath fileName =>
    have := analyzeStart_dots (E := E) h filePath fileName
    simp only [Session.step]
    revert this
    rcases (analyzeStart E filePath fileName).run.run s.pane with ⟨_ | _, _⟩ <;> exact id
  | reply k answer =>
    simp only [Session.step]
    split
    · next i hi =>
      refine analyzeReply_dots h i (fun j hj hne => ?_) answer
      obtain ⟨idx, hidx⟩ := List.mem_iff_getElem?.mp hj
      refine List.mem_eraseIdx_iff_getElem?.mpr ⟨idx, fun hk => hne ?_, hidx⟩
      subst hk
      rw [hi] at hidx
      exact (Option.some.inj hidx).symm
    · exact h
  | tick j => exact hS.tick _ j h

/-- Over any session every interval is where its own runs left it. Source:
`src/unnamed/part_003` l. 427–445. Kind: L -/
theorem runSession_intervals (E : OverhaulEnv) (steps : List Step) :
    IntervalsRun E (runSession E steps).pane :=
  runSession_inv (fun s => IntervalsRun E s.pane)
    ((intervalsRun_stable E).renderBody
      ⟨fun _ _ h => by simp [Pane.initial] at h, fun _ _ _ _ h => by simp [Pane.initial] at h⟩)
    (fun s st => (intervalsRun_stable E).step
      (fun _ _ _ hp => by
        rw [analyzeStart_eq]; exact addMessageWithStreamOption_intervals hp _ false true)
      s st) steps

/-- **A stream of anything but a string never stops.** In every state the pane reaches, an
interval on a content that is not a string (an agent's `markdownOutput` that is an array of more
than 20 items, say) is still set, and its element still shows nothing: no later run, clear or
analysis stops it.
Source: `src/unnamed/part_003` l. 427–445, 503–506
Kind: P -/
theorem session_stream_never_stops (E : OverhaulEnv) (steps : List Step) {j : Nat} {t : Interval}
    (ht : (runSession E steps).pane.intervals[j]? = some t) (hv : ∀ s, t.fullContent ≠ .str s) :
    t.active = true ∧ (runSession E steps).pane.contentOf t.el = none := by
  obtain ⟨-, ⟨k, hk⟩, hlong⟩ := (runSession_intervals E steps).ok j t ht
  rw [(fire_iterate_not_str E t.el hv hlong k).1] at hk
  obtain ⟨h1, h2⟩ := Prod.mk.inj hk
  exact ⟨h1 ▸ rfl, h2.symm⟩

/-- A reply whose one agent output has an array of 21 lines as its markdown. Source: none: a test
input. Kind: N+ -/
theorem session_stream_never_stops_array :
    let E : OverhaulEnv := ⟨⟨⟨fun _ => .ok false⟩, fun _ => "", fun _ => none⟩, ⟨fun _ => .ok none⟩,
      fun _ => none, fun path => "file://" ++ path⟩
    let lines : Json := .arr (List.replicate 21 (.str "line"))
    let steps : List Step := [.chosen "/w/a.c" "a.c",
      .reply 0 (.ok (.obj [("agentOutputs", .arr [.obj [("markdownOutput", lines)]])])),
      .tick 0, .tick 0, .tick 0]
    (runSession E steps).pane.intervals[0]? = some (Interval.start 2 lines) ∧
      (∀ s, (Interval.start 2 lines).fullContent ≠ .str s) ∧
      (Interval.start 2 lines).active = true ∧ (runSession E steps).pane.contentOf 2 = none :=
  ⟨rfl, fun _ h => Json.noConfusion h,
    session_stream_never_stops _ _ (j := 0) rfl fun _ h => Json.noConfusion h⟩

/-- **A string stream that stopped holds all of it.** In every state the pane reaches, an
interval on a string that has been cleared leaves its element's content element holding the
rendered markdown of the whole content, when the renderer takes it, whatever ran in between.
The element is on screen only while it is still in the message container: a Clear detaches it
(`dom.clearNode`, l. 354), and its interval then goes on filling an element nobody sees.
Source: `src/unnamed/part_003` l. 427–445, 503–511
Kind: P -/
theorem session_stream_shows_all (E : OverhaulEnv) (steps : List Step) {j : Nat} {t : Interval}
    {s : String} (ht : (runSession E steps).pane.intervals[j]? = some t)
    (hs : t.fullContent = .str s) (hc : t.active = false) :
    (runSession E steps).pane.contentOf t.el = renderedText E (utf16Units s) := by
  obtain ⟨-, ⟨k, hk⟩, hlong⟩ := (runSession_intervals E steps).ok j t ht
  rw [hs, fire_iterate_str] at hk
  rw [hs, getProp_str_length, except_ok_bind, numLt_num] at hlong
  have hn : 20 < (utf16Units s).length := by
    have := of_decide_eq_true (Except.ok.inj hlong)
    exact_mod_cast this
  obtain ⟨h1, h2⟩ := Prod.mk.inj hk
  have hk' : ((utf16Units s).length + 4) / 5 < k := by
    have := congrArg Interval.active h1
    rw [hc] at this
    exact Nat.lt_of_not_le (of_decide_eq_false this)
  rw [← h2, Nat.min_eq_right hk'.le, streamFrame_last]
  simp only [show ((utf16Units s).length + 4) / 5 ≠ 0 by omega, if_false]

set_option maxRecDepth 2000 in
unseal String.foldlAux in
/-- A reply whose one agent output is a string of 28 code units: its seventh run clears it. The
runs measure the string with `String.foldl`, which is unsealed to evaluate them. Source: none: a
test input. Kind: N+ -/
theorem session_stream_shows_all_report :
    let E : OverhaulEnv := ⟨⟨⟨fun _ => .ok false⟩, fun _ => "", fun _ => none⟩, ⟨fun _ => .ok none⟩,
      fun _ => none, fun path => "file://" ++ path⟩
    let report := "Found 1 vulnerability in a.c"
    let steps : List Step := [.chosen "/w/a.c" "a.c",
      .reply 0 (.ok (.obj [("agentOutputs", .arr [.obj [("markdownOutput", .str report)]])])),
      .tick 0, .tick 0, .tick 0, .tick 0, .tick 0, .tick 0, .tick 0]
    let t : Interval := ⟨2, .str report, utf16Units report, 30, false⟩
    (runSession E steps).pane.intervals[0]? = some t ∧ t.fullContent = .str report ∧
      t.active = false ∧
      (runSession E steps).pane.contentOf t.el = renderedText E (utf16Units report) :=
  ⟨rfl, rfl, rfl, session_stream_shows_all _ _ (j := 0) rfl rfl rfl⟩

/-! ## One view is shown -/

/-- The displays `switchView` leaves the editor's, the dashboard's and the graph's containers
with, once it has switched to `view`: the settings view, not implemented, shows the editor.
Source: `src/unnamed/part_003` l. 170–194
Kind: D -/
def viewDisplays : ViewType → String × String × String
  | .editor => ("flex", "none", "none")
  | .dashboard => ("none", "flex", "none")
  | .graph => ("none", "none", "block")
  | .settings => ("flex", "none", "none")

/-- The pane shows its active view's container and no other. Source: `src/unnamed/part_003`
l. 170–194. Kind: D -/
def ShowsActive (p : Pane) : Prop :=
  (p.editorDisplay, p.dashboardDisplay, p.graphDisplay) = viewDisplays p.activeView

/-- The active view and the three containers' displays. Source: none: infrastructure. Kind: D -/
def Pane.views (p : Pane) : ViewType × String × String × String :=
  (p.activeView, p.editorDisplay, p.dashboardDisplay, p.graphDisplay)

/-- Showing the active view depends only on the views. Source: none: infrastructure. Kind: L -/
theorem ShowsActive.of_views {p q : Pane} (h : ShowsActive p) (hq : q.views = p.views) :
    ShowsActive q := by
  simp only [Pane.views, Prod.mk.injEq] at hq
  simp only [ShowsActive, hq]
  exact h

/-- An add, of any kind, changes neither the active view nor a container's display. Source:
`src/unnamed/part_003` l. 362–453. Kind: L -/
theorem addMessageWithStreamOption_views (E : OverhaulEnv) (role : Role) (content : Json)
    (type : MessageType) (stream loadingDots : Bool) (p : Pane) :
    ((addMessageWithStreamOption E role content type stream loadingDots).run.run p).2.views =
      p.views := by
  cases hc : p.counts ⟨role, content, type⟩ with
  | some i => rw [addMessageWithStreamOption_run_counts stream loadingDots hc]; rfl
  | none =>
    rw [addMessageWithStreamOption_run_push stream loadingDots hc]
    obtain ⟨el, h⟩ := renderMessage_shape E ⟨role, content, type⟩ stream loadingDots
      (p.push ⟨role, content, type⟩)
    rw [h.pane]
    rfl

/-- An add without streaming or loading dots returns when the renderer takes the message's
content. Source: `src/unnamed/part_003` l. 362–453. Kind: L -/
theorem addMessage_run_of_ok {E : OverhaulEnv} {content : Json}
    (hm : E.pane.markdownError content = none) (role : Role) (type : MessageType) (p : Pane) :
    (addMessage E role content type).run.run p =
      (.ok (), ((addMessageWithStreamOption E role content type false false).run.run p).2) := by
  have hok : ∃ i, (addMessageWithStreamOption E role content type false false).run.run p =
      (.ok i, ((addMessageWithStreamOption E role content type false false).run.run p).2) := by
    cases hc : p.counts ⟨role, content, type⟩ with
    | some i => rw [addMessageWithStreamOption_run_counts false false hc]; exact ⟨i, rfl⟩
    | none =>
      rw [addMessageWithStreamOption_run_push false false hc, renderMessage_run_noDots]
      simp only [streamsContent, Bool.false_eq_true, if_false, hm]
      exact ⟨_, rfl⟩
  obtain ⟨i, hi⟩ := hok
  rw [addMessage, run_bind, hi]
  rfl

/-- Every add, clear, dots removal and interval run leaves the active view and the containers'
displays as they were, so it keeps whatever they satisfy. Source: `src/unnamed/part_003`
l. 352–453. Kind: L -/
theorem views_contentStable (E : OverhaulEnv) (Q : ViewType × String × String × String → Prop) :
    ContentStable E fun p => Q p.views where
  add p m stream h := by simp only [addMessageWithStreamOption_views]; exact h
  clear p h := by
    simp only [clearHistory, run_modify_bind, addMessage_run_state,
      addMessageWithStreamOption_views]
    exact h
  dots _ _ h := h
  tick p j h := by
    unfold Pane.runInterval
    split <;> exact h

/-- Only a switch of view changes which container shows. Source: none: infrastructure. Kind: L -/
theorem showsActive_contentStable (E : OverhaulEnv) : ContentStable E ShowsActive :=
  views_contentStable E fun w => w.2 = viewDisplays w.1

section Views

variable {E : OverhaulEnv} (hE : ∀ s, E.pane.markdownError (.str s) = none)
include hE

/-- A switch shows the view switched to: the settings view's warning, which the renderer takes,
does not stop the editor from being shown. Source: `src/unnamed/part_003` l. 170–194. Kind: L -/
theorem switchView_shows (v : ViewType) (p : Pane) :
    ShowsActive ((switchView E v).run.run p).2 := by
  cases v with
  | settings =>
    simp only [switchView, run_modify_bind, run_bind, addMessage_run_of_ok (hE _), run_modify]
    have hv := addMessageWithStreamOption_views E .system
      (.str "Settings view not implemented yet.") .warning false false
      { p with
        activeView := .settings, editorDisplay := "none", dashboardDisplay := "none"
        graphDisplay := "none" }
    simp only [Pane.views, Prod.mk.injEq] at hv
    simp only [ShowsActive, hv, viewDisplays]
  | _ => rfl

/-- The pane `renderBody` leaves shows the editor. Source: `src/unnamed/part_003` l. 90–128.
Kind: L -/
theorem initial_shows : ShowsActive (Session.initial E).pane := by
  simp only [Session.initial, renderBody, run_modify_bind, run_bind, addMessage_run_of_ok (hE _),
    run_modify]
  have hv := addMessageWithStreamOption_views E .system
    (.str "Welcome to Graphide 2.0. Select a file to analyze.") .normal false false
    { Pane.initial with editorDisplay := "flex" }
  simp only [Pane.views, Prod.mk.injEq] at hv
  simp only [ShowsActive, hv]
  rfl

/-- **One view is shown.** Whatever order the handlers and intervals run in and whatever the
backend answers, as long as the markdown renderer takes every string, the pane shows its active
view's container and no other: the editor's in flex, the dashboard's in flex or the graph's as a
block, and the editor's for the settings view, which is not implemented.
Source: `src/unnamed/part_003` l. 90–128, 154–194, 455–521
Kind: P -/
theorem session_views (steps : List Step) : ShowsActive (runSession E steps).pane := by
  refine runSession_inv (fun s => ShowsActive s.pane) (initial_shows hE) (fun s st h =>
    (showsActive_contentStable E).step (fun p _ _ hp => ?_) (fun p v _ => switchView_shows hE v p)
      (fun p hp => ?_) s st h) steps
  · rw [analyzeStart]
    exact hp.of_views (addMessageWithStreamOption_views E _ _ _ false true p)
  · simp only [openEditor, run_get_bind]
    split
    · exact switchView_shows hE .editor _
    · exact hp

end Views

/-- Three switches, the settings view's warning among them. Source: none: a test input. Kind: N+ -/
theorem session_views_settings :
    let E : OverhaulEnv := ⟨⟨⟨fun _ => .ok false⟩, fun _ => "", fun _ => none⟩, ⟨fun _ => .ok none⟩,
      fun _ => none, fun path => "file://" ++ path⟩
    (∀ s, E.pane.markdownError (.str s) = none) ∧
      (runSession E [.nav .settings, .clear, .nav .graph]).pane.activeView = .graph ∧
      ShowsActive (runSession E [.nav .settings, .clear, .nav .graph]).pane :=
  ⟨fun _ => rfl, rfl, session_views (fun _ => rfl) _⟩

end Graphide.Webview.Overhaul
