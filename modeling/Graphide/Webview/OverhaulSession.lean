import Graphide.Webview.OverhaulLog

/-!
# The overhauled pane over a session

Package `Webview`, file 17. The overhauled pane's handlers (Clear, the navigation icons, and
Analyze Files cut at its `await`s) and the intervals of its streamed messages run in any order.
An invariant of the pane is proved once for every handler (`ContentStable`, `Stable`) and then
carried along any run; `OverhaulInvariants` proves the pane's invariants so.

* `openEditor`, `analyzeStart`, `showReply`, `analyzeReply`, `handleAnalyze` — Analyze Files:
  the switch to the editor, the "Analysing" message with its loading dots once a file is chosen,
  and what the answer adds, the dots removed first in both the `try` and the `catch`.
* `Pane.runInterval` — the event loop runs one interval's callback (`fire`) on its element;
  `IntervalsRun`, `IntervalsRun.runInterval` — every interval is where its own runs left it, and
  a run of one interval leaves every other where it was.
* `ContentStable` — an invariant every add, clear, dots removal and interval run keeps;
  `analyzeReply_keeps` — then whatever the answer, Analyze Files' second stretch keeps it.
* `ContentStable.step` — one that the "Analysing" message, every switch of view and the switch to
  the editor keep as well holds after every step of a session; `Stable` — one that every change
  of view keeps, and `Stable.step` — then every step of a session keeps it.
* `Session`, `Step`, `Session.step`, `runSession`, `runSession_inv` — the pane and the loading
  element of each analysis in flight, the steps that change them, and the run lemma.
-/
namespace Graphide.Webview.Overhaul

open Handler

/-! ## Analyze Files -/

/-- The first step of Analyze Files: when the editor is not the active view, a click on the
editor's navigation icon, whose listener switches to it; what the listener throws is reported,
not propagated. (The icon is found: the pane's sidebar has it.)
Source: `src/unnamed/part_003` l. 154–168, 457–464
Kind: D -/
def openEditor (E : OverhaulEnv) : Handler String Pane Unit := do
  if (← get).activeView != .editor then
    tryCatch (switchView E .editor) fun _ => pure ()

/-- The "Analysing" message's text, with its chip: a markdown link to the file with a `json` or
`file` icon. `toLower` lowers ASCII letters only; the characters JavaScript's `toLowerCase` lowers
to ASCII (`İ`, the Kelvin sign) cannot end a name in `.json`.
Source: `src/unnamed/part_003` l. 476–482
Kind: D
Fidelity: exact -/
def analysingText (E : OverhaulEnv) (filePath fileName : String) : String :=
  let iconId := if fileName.toLower.endsWith ".json" then "json" else "file"
  let uri := E.uriString filePath
  let chip := s!"[$({iconId}) {fileName}]({uri})"
  s!"Analysing {chip}"

/-- Analyze Files once a file is chosen: the "Analysing" message, shown with loading dots. It
returns the element.
Source: `src/unnamed/part_003` l. 483
Kind: D
Fidelity: exact -/
def analyzeStart (E : OverhaulEnv) (filePath fileName : String) : Handler String Pane Nat :=
  addMessageWithStreamOption E .system (.str (analysingText E filePath fileName)) .normal false true

/-- The "Analysing" message. Source: `src/unnamed/part_003` l. 482–483. Kind: D -/
def analysingMessage (E : OverhaulEnv) (filePath fileName : String) : ChatMessage :=
  ⟨.system, .str (analysingText E filePath fileName), .normal⟩

/-- The start of an analysis adds the "Analysing" message with dots and no streaming. Source:
`src/unnamed/part_003` l. 482–483. Kind: L -/
theorem analyzeStart_eq (E : OverhaulEnv) (filePath fileName : String) :
    analyzeStart E filePath fileName =
      addMessageWithStreamOption E (analysingMessage E filePath fileName).role
        (analysingMessage E filePath fileName).content (analysingMessage E filePath fileName).type
        false true := rfl

/-- What a parsed reply adds: each agent output streamed, or the reply's `message` streamed (an
error when its status is `'error'`), or a warning that nothing came.
Source: `src/unnamed/part_003` l. 503–514
Kind: D
Fidelity: exact -/
def showReply (E : OverhaulEnv) (data : Json) : Handler String Pane Unit := do
  let agentOutputs ← liftJsAt E.pane (getPropOpt (some data) "agentOutputs")
  let hasOutputs ← (if truthy agentOutputs then
      liftJsAt E.pane (do gtZero E.pane.js (← getProp agentOutputs "length"))
    else pure false : Handler String Pane Bool)
  if hasOutputs then
    (← liftJsAt E.pane (iterate agentOutputs)).forM fun output => do
      let _ ← addMessageWithStreamOption E .system (← liftJsAt E.pane (outputText output)) .normal
        true false
  else
    match (← liftJsAt E.pane (getPropOpt (some data) "message")).filter Json.truthy with
    | some message =>
      let status ← liftJsAt E.pane (getProp (some data) "status")
      let _ ← addMessageWithStreamOption E .system message
        (if isStr status "error" then .error else .normal) true false
    | none =>
      let _ ← addMessageWithStreamOption E .system
        (.str "Analysis completed with no specific output.") .warning false false

/-- `loadingEl.querySelector('.graphide-loading-dots')?.remove()`. Source:
`src/unnamed/part_003` l. 500–501, 517–518. Kind: D -/
def removeDots (loadingEl : Nat) : Handler String Pane Unit :=
  modify (Pane.setEl loadingEl fun el => { el with dots := none })

/-- Analyze Files once the request is answered (`reply` is the parsed body, or the text of what
the request or the parse threw): the `try` block, which removes the loading dots before it shows
the reply, and the `catch`, which removes them before it adds the failure.
Source: `src/unnamed/part_003` l. 485–521
Kind: D
Fidelity: exact -/
def analyzeReply (E : OverhaulEnv) (loadingEl : Nat) (reply : Except String Json) :
    Handler String Pane Unit :=
  tryCatch (do
      let data ← liftM reply
      removeDots loadingEl
      showReply E data)
    fun errorMessage => do
      removeDots loadingEl
      let _ ← addMessageWithStreamOption E .system
        (.str s!"Analysis Failed: {errorMessage}\n\nEnsure backend is running at localhost:8000")
        .error false false

/-- `handleAnalyze`, run to its end with nothing else between its steps: the switch to the
editor, the dialog, the "Analysing" message, and the scan request (the provider's payload, with
the language `'c'`) with what its answer adds; a request that never resolves leaves the handler
at its `await`, with the loading dots on.
Source: `src/unnamed/part_003` l. 455–521
Kind: D
Fidelity: exact -/
def handleAnalyze (E : OverhaulEnv) (H : Host) : Handler String Pane Unit := do
  openEditor E
  match H.openDialog with
  | none => pure ()
  | some (filePath, fileName) =>
    let loadingEl ← analyzeStart E filePath fileName
    match H.fetch (.agent (GraphideWebviewProvider.scanPayload filePath "c")) with
    | some reply => analyzeReply E loadingEl reply
    | none => pure ()

/-! ## The intervals -/

/-- What the content element of the element `i` shows. Source: none: infrastructure. Kind: D -/
def Pane.contentOf (p : Pane) (i : Nat) : Option Markdown := (p.elements[i]?).bind (·.markdown)

/-- The event loop runs the callback of the `j`-th interval, if it is still set, on its closure
and its element's content element.
Source: `src/unnamed/part_003` l. 432–445; HTML `setInterval`
Kind: D -/
def Pane.runInterval (E : OverhaulEnv) (j : Nat) (p : Pane) : Pane :=
  match p.intervals[j]? with
  | none => p
  | some t =>
    let st := fire E (t, p.contentOf t.el)
    { p.setEl t.el (fun el => { el with markdown := st.2 }) with
      intervals := p.intervals.set j st.1 }

/-- A run of the callback leaves the interval's element and content as they were. Source: none:
infrastructure. Kind: L -/
theorem tick_keeps (E : OverhaulEnv) (el : Nat) (v : Json) :
    Triple (fun st : Interval × Option Markdown => st.1.el = el ∧ st.1.fullContent = v) (tick E)
      (fun _ st => st.1.el = el ∧ st.1.fullContent = v)
      (fun _ st => st.1.el = el ∧ st.1.fullContent = v) := by
  have hm : ∀ f : Interval × Option Markdown → Interval × Option Markdown,
      (∀ st, (f st).1.el = st.1.el ∧ (f st).1.fullContent = st.1.fullContent) →
      Triple (fun st : Interval × Option Markdown => st.1.el = el ∧ st.1.fullContent = v)
        (modify f : Handler String _ Unit) (fun _ st => st.1.el = el ∧ st.1.fullContent = v)
        (fun _ st => st.1.el = el ∧ st.1.fullContent = v) :=
    fun f hf => Triple.of_state fun st h => ⟨(hf st).1.trans h.1, (hf st).2.trans h.2⟩
  have hl : ∀ {α : Type} (x : Except TypeError α),
      Triple (fun st : Interval × Option Markdown => st.1.el = el ∧ st.1.fullContent = v)
        (liftJsAt E.pane x) (fun _ st => st.1.el = el ∧ st.1.fullContent = v)
        (fun _ st => st.1.el = el ∧ st.1.fullContent = v) :=
    fun x => Triple.lift fun _ h => by cases x <;> exact h
  unfold tick
  refine Triple.bind (Triple.get fun _ h => h) fun _ => Triple.bind (hl _) fun b => ?_
  split
  · exact Triple.bind (hm _ fun _ => ⟨rfl, rfl⟩) fun _ => Triple.pure fun _ h => h
  · refine Triple.bind (Triple.pure fun _ h => h) fun _ => Triple.bind (hl _) fun _ => ?_
    refine Triple.bind (hm _ fun _ => ⟨rfl, rfl⟩) fun _ => Triple.bind (hm _ fun _ => ⟨rfl, rfl⟩)
      fun _ => Triple.bind (Triple.get fun _ h => h) fun _ => Triple.bind (hl _) fun _ => ?_
    split <;> dsimp only <;> split
    all_goals first
      | exact Triple.throw fun _ h => h
      | exact hm _ fun _ => ⟨rfl, rfl⟩

/-- A run of an interval leaves its element and content. Source: none: infrastructure. Kind: L -/
theorem fire_el_fullContent (E : OverhaulEnv) (st : Interval × Option Markdown) :
    (fire E st).1.el = st.1.el ∧ (fire E st).1.fullContent = st.1.fullContent := by
  unfold fire
  split
  · exact (tick_keeps E st.1.el st.1.fullContent).state_of ⟨rfl, rfl⟩
  · exact ⟨rfl, rfl⟩

/-- Updating one element leaves the others' content. Source: none: infrastructure. Kind: L -/
theorem contentOf_setEl_ne (p : Pane) {i j : Nat} (h : i ≠ j) (f : MessageEl → MessageEl) :
    (p.setEl i f).contentOf j = p.contentOf j := by
  simp only [Pane.contentOf, Pane.setEl, List.getElem?_modify_ne _ _ h]

/-- An update that keeps the markdown keeps every element's content. Source: none: infrastructure.
Kind: L -/
theorem contentOf_setEl_of_markdown (p : Pane) (i j : Nat) {f : MessageEl → MessageEl}
    (hf : ∀ el, (f el).markdown = el.markdown) : (p.setEl i f).contentOf j = p.contentOf j := by
  by_cases h : i = j
  · subst h
    simp only [Pane.contentOf, Pane.setEl, List.getElem?_modify_eq]
    cases p.elements[i]? <;> simp [hf]
  · exact contentOf_setEl_ne p h f

/-- Appending an element leaves the others' content. Source: none: infrastructure. Kind: L -/
theorem contentOf_appendEl {p : Pane} {i : Nat} (hi : i < p.elements.length) (el : MessageEl) :
    (p.appendEl el).contentOf i = p.contentOf i := by
  simp only [Pane.contentOf, Pane.appendEl, List.getElem?_append_left hi]

/-- An interval whose closure and element are those its own runs made from the interval
`renderMessage` set, on a content whose `length` is above 20.
Source: `src/unnamed/part_003` l. 427–445
Kind: D -/
structure IntervalOk (E : OverhaulEnv) (p : Pane) (t : Interval) : Prop where
  lt : t.el < p.elements.length
  run : ∃ k, (fire E)^[k] (Interval.start t.el t.fullContent, none) = (t, p.contentOf t.el)
  long : (getProp (some t.fullContent) "length" >>= numLt E.num 20) = .ok true

/-- Every interval is where its own runs left it, and no two write to one element.
Source: `src/unnamed/part_003` l. 427–445
Kind: D -/
structure IntervalsRun (E : OverhaulEnv) (p : Pane) : Prop where
  ok : ∀ (j : Nat) (t : Interval), p.intervals[j]? = some t → IntervalOk E p t
  inj : ∀ (j j' : Nat) (t t' : Interval), p.intervals[j]? = some t → p.intervals[j']? = some t' →
    t.el = t'.el → j = j'

/-- A change that leaves every element's markdown keeps the intervals where they were. Source:
none: infrastructure. Kind: L -/
theorem IntervalsRun.setEl {E : OverhaulEnv} {p : Pane} (h : IntervalsRun E p) (i : Nat)
    {f : MessageEl → MessageEl} (hf : ∀ el, (f el).markdown = el.markdown) :
    IntervalsRun E (p.setEl i f) := by
  refine ⟨fun j t ht => ?_, h.inj⟩
  obtain ⟨hlt, hrun, hlong⟩ := h.ok j t ht
  exact ⟨by simpa only [Pane.setEl, List.length_modify] using hlt,
    by rwa [contentOf_setEl_of_markdown p i t.el hf], hlong⟩

/-- **The step lemma of a run.** A run of the `j`-th interval takes it one run further and
leaves every other interval where it was. Source: `src/unnamed/part_003` l. 432–445. Kind: L -/
theorem IntervalsRun.runInterval {E : OverhaulEnv} {p : Pane} (h : IntervalsRun E p) (j : Nat) :
    IntervalsRun E (p.runInterval E j) := by
  unfold Pane.runInterval
  split
  · exact h
  · next t ht =>
    dsimp only
    obtain ⟨hlt, ⟨k, hk⟩, hlong⟩ := h.ok j t ht
    have hj : j < p.intervals.length := (List.getElem?_eq_some_iff.mp ht).1
    obtain ⟨hel, hfull⟩ := fire_el_fullContent E (t, p.contentOf t.el)
    generalize hst : fire E (t, p.contentOf t.el) = st at hel hfull ⊢
    set q := p.setEl t.el fun el => { el with markdown := st.2 }
    have hlen : q.elements.length = p.elements.length := List.length_modify _ _ _
    have hself : q.contentOf t.el = st.2 := by
      simp only [q, Pane.contentOf, Pane.setEl, List.getElem?_modify_eq,
        List.getElem?_eq_getElem hlt, Option.map_eq_map, Option.map_some', Option.some_bind]
    have hget : ∀ (j' : Nat) (t' : Interval), (p.intervals.set j st.1)[j']? = some t' →
        (j = j' ∧ t' = st.1) ∨ (j ≠ j' ∧ p.intervals[j']? = some t') := by
      intro j' t' h'
      by_cases hj' : j = j'
      · subst hj'
        rw [List.getElem?_set_self hj, Option.some.injEq] at h'
        exact .inl ⟨rfl, h'.symm⟩
      · rw [List.getElem?_set_ne hj'] at h'
        exact .inr ⟨hj', h'⟩
    refine ⟨fun j' t' h' => ?_, fun j₁ j₂ t₁ t₂ h₁ h₂ he => ?_⟩
    · rcases hget j' t' h' with ⟨rfl, rfl⟩ | ⟨hne, h'⟩
      · refine ⟨?_, ⟨k + 1, ?_⟩, hfull ▸ hlong⟩
        · show st.1.el < q.elements.length
          rw [hel, hlen]
          exact hlt
        · show (fire E)^[k + 1] _ = (st.1, q.contentOf st.1.el)
          rw [hel, hfull, hself, Function.iterate_succ_apply', hk, hst]
      · obtain ⟨hlt', ⟨k', hk'⟩, hlong'⟩ := h.ok j' t' h'
        have hne' : t.el ≠ t'.el := fun he => hne (h.inj j j' t t' ht h' he)
        refine ⟨?_, ⟨k', ?_⟩, hlong'⟩
        · show t'.el < q.elements.length
          rw [hlen]
          exact hlt'
        · show _ = (t', q.contentOf t'.el)
          rw [contentOf_setEl_ne p hne', hk']
    · have hel' : ∀ (j' : Nat) (t' : Interval), (p.intervals.set j st.1)[j']? = some t' →
          ∃ u, p.intervals[j']? = some u ∧ t'.el = u.el := by
        intro j' t' h'
        rcases hget j' t' h' with ⟨rfl, rfl⟩ | ⟨_, h'⟩
        · exact ⟨t, ht, hel⟩
        · exact ⟨t', h', rfl⟩
      obtain ⟨u₁, hu₁, he₁⟩ := hel' j₁ t₁ h₁
      obtain ⟨u₂, hu₂, he₂⟩ := hel' j₂ t₂ h₂
      exact h.inj j₁ j₂ u₁ u₂ hu₁ hu₂ (he₁.symm.trans (he.trans he₂))

/-- An element of a list with one more at its end is one of the list's or that last one. Source:
none: infrastructure. Kind: L -/
theorem getElem?_concat_eq_some {α : Type} {l : List α} {a x : α} {j : Nat}
    (h : (l ++ [a])[j]? = some x) : l[j]? = some x ∨ (j = l.length ∧ x = a) := by
  rcases Nat.lt_or_ge j l.length with hlt | hge
  · exact .inl (by rwa [List.getElem?_append_left hlt] at h)
  · rw [List.getElem?_append_right hge] at h
    rcases Nat.eq_or_lt_of_le hge with heq | hlt
    · subst heq
      simp only [Nat.sub_self, List.getElem?_cons_zero, Option.some.injEq] at h
      exact .inr ⟨rfl, h.symm⟩
    · rw [List.getElem?_eq_none (by simp only [List.length_singleton]; omega)] at h
      cases h

/-- Only the elements and the intervals matter. Source: none: infrastructure. Kind: L -/
theorem IntervalsRun.of_fields {E : OverhaulEnv} {p q : Pane} (h : IntervalsRun E p)
    (he : q.elements = p.elements) (hi : q.intervals = p.intervals) : IntervalsRun E q where
  ok j t ht := by
    rw [hi] at ht
    obtain ⟨hlt, hrun, hlong⟩ := h.ok j t ht
    exact ⟨he ▸ hlt, by simpa only [Pane.contentOf, he] using hrun, hlong⟩
  inj j j' t t' h₁ h₂ := h.inj j j' t t' (hi ▸ h₁) (hi ▸ h₂)

/-- A new element leaves every interval where it was. Source: none: infrastructure. Kind: L -/
theorem IntervalsRun.appendEl {E : OverhaulEnv} {p : Pane} (h : IntervalsRun E p) (el : MessageEl) :
    IntervalsRun E (p.appendEl el) := by
  refine ⟨fun j t ht => ?_, h.inj⟩
  obtain ⟨hlt, hrun, hlong⟩ := h.ok j t ht
  refine ⟨by simp only [Pane.appendEl, List.length_append]; omega, ?_, hlong⟩
  rwa [contentOf_appendEl hlt]

/-- A new interval, on an element no other interval writes to and that shows nothing yet, starts
at no run. Source: `src/unnamed/part_003` l. 427–432. Kind: L -/
theorem IntervalsRun.push {E : OverhaulEnv} {p : Pane} (h : IntervalsRun E p) {i : Nat} {c : Json}
    (hi : i < p.elements.length)
    (hfresh : ∀ (j : Nat) (t : Interval), p.intervals[j]? = some t → t.el ≠ i)
    (hc : p.contentOf i = none)
    (hlong : (getProp (some c) "length" >>= numLt E.num 20) = .ok true) :
    IntervalsRun E { p with intervals := p.intervals ++ [Interval.start i c] } := by
  have hget : ∀ (j : Nat) (t : Interval), (p.intervals ++ [Interval.start i c])[j]? = some t →
      p.intervals[j]? = some t ∨ (j = p.intervals.length ∧ t = Interval.start i c) :=
    fun _ _ => getElem?_concat_eq_some
  refine ⟨fun j t ht => ?_, fun j₁ j₂ t₁ t₂ h₁ h₂ he => ?_⟩
  · rcases hget j t ht with ht | ⟨-, rfl⟩
    · obtain ⟨hlt, hrun, hl⟩ := h.ok j t ht
      exact ⟨hlt, hrun, hl⟩
    · exact ⟨hi, ⟨0, by simp only [Function.iterate_zero, id_eq, Interval.start]; rw [← hc]; rfl⟩,
        hlong⟩
  · rcases hget j₁ t₁ h₁ with h₁ | ⟨rfl, rfl⟩ <;> rcases hget j₂ t₂ h₂ with h₂ | ⟨rfl, rfl⟩
    · exact h.inj j₁ j₂ t₁ t₂ h₁ h₂ he
    · exact absurd he (hfresh j₁ t₁ h₁)
    · exact absurd he.symm (hfresh j₂ t₂ h₂)
    · rfl

/-- **The step lemma of an add.** Whether it returns or throws, an add leaves every interval
where it was, and a streamed one sets a new interval on its new element, at no run. Source:
`src/unnamed/part_003` l. 362–453. Kind: L -/
theorem addMessageWithStreamOption_intervals {E : OverhaulEnv} {p : Pane} (h : IntervalsRun E p)
    (m : ChatMessage) (stream loadingDots : Bool) :
    IntervalsRun E
      ((addMessageWithStreamOption E m.role m.content m.type stream loadingDots).run.run p).2 := by
  cases hc : p.counts m with
  | some i =>
    rw [addMessageWithStreamOption_run_counts stream loadingDots hc]
    have h' : IntervalsRun E { p with errorCount := p.errorCount + 1, added := p.added ++ [m] } :=
      h.of_fields rfl rfl
    exact h'.setEl i fun _ => rfl
  | none =>
    rw [addMessageWithStreamOption_run_push stream loadingDots hc]
    obtain ⟨el, hp', -, -, -, -, -, hiv, -⟩ := renderMessage_shape E m stream loadingDots (p.push m)
    generalize (renderMessage E m stream loadingDots).run.run (p.push m) = r at hp' hiv ⊢
    have he : r.2.elements = ((p.push m).appendEl el).elements := by rw [hp']
    have h' : IntervalsRun E (p.push m) := h.of_fields rfl rfl
    have h1 : IntervalsRun E ((p.push m).appendEl el) := h'.appendEl el
    rcases hiv with hiv | ⟨hiv, hmd, hlong⟩
    · exact h1.of_fields he hiv
    · refine (h1.push (Nat.lt_of_lt_of_eq (Nat.lt_succ_self _) (by simp [Pane.appendEl, Pane.push]))
        (fun j t ht => ?_) ?_ hlong).of_fields he hiv
      · exact Nat.ne_of_lt ((h.ok j t ht).lt)
      · simp only [Pane.contentOf, Pane.appendEl, Pane.push, List.getElem?_concat_length,
          Option.some_bind, hmd]

/-! ## Invariants every handler keeps -/

/-- An invariant of the pane that every change to its container keeps: every add without loading
dots, every clear, every removal of an element's loading dots and every run of an interval.
Source: none: infrastructure
Kind: D -/
structure ContentStable (E : OverhaulEnv) (I : Pane → Prop) : Prop where
  add : ∀ p (m : ChatMessage) (stream : Bool), I p →
    I ((addMessageWithStreamOption E m.role m.content m.type stream false).run.run p).2
  clear : ∀ p, I p → I ((clearHistory E).run.run p).2
  dots : ∀ p i, I p → I (p.setEl i fun el => { el with dots := none })
  tick : ∀ p j, I p → I (p.runInterval E j)

/-- An invariant of the pane that every change of view keeps as well. Source: none:
infrastructure. Kind: D -/
structure Stable (E : OverhaulEnv) (I : Pane → Prop) extends ContentStable E I : Prop where
  views : ∀ p (v : ViewType) (ed dd gd : String), I p →
    I { p with activeView := v, editorDisplay := ed, dashboardDisplay := dd, graphDisplay := gd }

section Keeps

variable {E : OverhaulEnv} {I : Pane → Prop}

/-- A read keeps any invariant, whether it throws or not. Source: none: infrastructure. Kind: L -/
theorem liftJsAt_keeps {α : Type} (x : Except TypeError α) :
    Triple I (liftJsAt E.pane x) (fun _ => I) (fun _ => I) :=
  Triple.lift fun _ hs => by cases x <;> exact hs

variable (hadd : ∀ p (m : ChatMessage) (stream : Bool), I p →
  I ((addMessageWithStreamOption E m.role m.content m.type stream false).run.run p).2)
include hadd

/-- An add keeps an invariant that every add keeps. Source: `src/unnamed/part_003` l. 362–387. Kind:
L -/
theorem add_keeps (role : Role) (content : Json) (type : MessageType) (stream : Bool) :
    Triple I (addMessageWithStreamOption E role content type stream false) (fun _ => I)
      (fun _ => I) :=
  Triple.of_state fun p hp => hadd p ⟨role, content, type⟩ stream hp

/-- Whatever the reply, `showReply` is a sequence of adds without loading dots. Source:
`src/unnamed/part_003` l. 503–514. Kind: L -/
theorem showReply_keeps (data : Json) : Triple I (showReply E data) (fun _ => I) (fun _ => I) := by
  unfold showReply
  refine Triple.bind (liftJsAt_keeps _) fun agentOutputs => ?_
  refine Triple.bind (M := fun _ => I) ?_ fun hasOutputs => ?_
  · split
    · exact liftJsAt_keeps _
    · exact Triple.pure fun _ h => h
  · split
    · refine Triple.bind (liftJsAt_keeps _) fun outputs => Triple.forM fun output _ => ?_
      exact Triple.bind (liftJsAt_keeps _) fun text =>
        Triple.bind (add_keeps hadd _ _ _ _) fun _ => Triple.pure fun _ h => h
    · refine Triple.bind (liftJsAt_keeps _) fun message => ?_
      split
      · exact Triple.bind (liftJsAt_keeps _) fun status =>
          Triple.bind (add_keeps hadd _ _ _ _) fun _ => Triple.pure fun _ h => h
      · exact Triple.bind (add_keeps hadd _ _ _ _) fun _ => Triple.pure fun _ h => h

end Keeps

section Stable

variable {E : OverhaulEnv} {I : Pane → Prop} (hI : Stable E I)
include hI

/-- A switch of view keeps a session invariant, its settings message included. Source:
`src/unnamed/part_003` l. 170–194. Kind: L -/
theorem switchView_keeps (v : ViewType) :
    Triple I (switchView E v) (fun _ => I) (fun _ => I) := by
  unfold switchView
  refine Triple.bind (Triple.of_state fun p hp => hI.views p v "none" "none" "none" hp) fun _ => ?_
  cases v with
  | editor => exact Triple.of_state fun p hp => hI.views p _ "flex" _ _ hp
  | dashboard => exact Triple.of_state fun p hp => hI.views p _ _ "flex" _ hp
  | graph => exact Triple.of_state fun p hp => hI.views p _ _ _ "block" hp
  | settings =>
    exact Triple.bind (Triple.bind (add_keeps hI.add _ _ _ _) fun _ => Triple.pure fun _ h => h)
      fun _ => Triple.of_state fun p hp => hI.views p _ "flex" _ _ hp

/-- Opening the editor keeps a session invariant. Source: `src/unnamed/part_003` l. 154–168,
457–464. Kind: L -/
theorem openEditor_keeps : Triple I (openEditor E) (fun _ => I) (fun _ => I) := by
  unfold openEditor
  refine Triple.bind (Triple.get fun _ h => h) fun _ => ?_
  split
  · exact Triple.tryCatch (switchView_keeps hI .editor) fun _ => Triple.pure fun _ h => h
  · exact Triple.pure fun _ h => h

end Stable

section ContentStable

variable {E : OverhaulEnv} {I : Pane → Prop} (hC : ContentStable E I)
include hC

/-- Whatever the answer, Analyze Files' second stretch is a removal of loading dots and adds
without loading dots. Source: `src/unnamed/part_003` l. 485–521. Kind: L -/
theorem analyzeReply_keeps (loadingEl : Nat) (reply : Except String Json) :
    Triple I (analyzeReply E loadingEl reply) (fun _ => I) (fun _ => I) :=
  Triple.tryCatch
    (Triple.bind (Triple.lift fun _ hs => by cases reply <;> exact hs) fun data =>
      Triple.bind (Triple.of_state fun p hp => hC.dots p loadingEl hp) fun _ =>
        showReply_keeps hC.add data)
    fun _ => Triple.bind (Triple.of_state fun p hp => hC.dots p loadingEl hp) fun _ =>
      Triple.bind (add_keeps hC.add _ _ _ _) fun _ => Triple.pure fun _ h => h

end ContentStable

/-! ## The session -/

/-- The pane across its handlers: the pane, and the loading element of each analysis whose
request is in flight, in the order they were sent.
Source: `src/unnamed/part_003` l. 455–521
Kind: D -/
structure Session where
  pane : Pane
  inFlight : List Nat

/-- What happens next: a click of Clear or of a navigation icon, a click of Analyze Files (up to
its dialog), a file chosen in that dialog (up to the request), the answer to the `k`-th request
in flight, or a run of the `j`-th interval.
Source: `src/unnamed/part_003` l. 154–168, 212–222, 432–445, 455–521
Kind: D -/
inductive Step
  | clear
  | nav (view : ViewType)
  | analyze
  | chosen (filePath fileName : String)
  | reply (k : Nat) (answer : Except String Json)
  | tick (j : Nat)

/-- One step: the handler's synchronous stretch, run on the pane; a chosen file whose "Analysing"
message was added sends its request, and an answer ends its request.
Source: `src/unnamed/part_003` l. 154–168, 212–222, 352–356, 432–445, 455–521
Kind: D -/
def Session.step (E : OverhaulEnv) (s : Session) : Step → Session
  | .clear => { s with pane := ((clearHistory E).run.run s.pane).2 }
  | .nav view => { s with pane := ((switchView E view).run.run s.pane).2 }
  | .analyze => { s with pane := ((openEditor E).run.run s.pane).2 }
  | .chosen filePath fileName =>
    match (analyzeStart E filePath fileName).run.run s.pane with
    | (.ok loadingEl, p) => ⟨p, s.inFlight ++ [loadingEl]⟩
    | (.error _, p) => ⟨p, s.inFlight⟩
  | .reply k answer =>
    match s.inFlight[k]? with
    | some loadingEl =>
      ⟨((analyzeReply E loadingEl answer).run.run s.pane).2, s.inFlight.eraseIdx k⟩
    | none => s
  | .tick j => { s with pane := s.pane.runInterval E j }

/-- The pane once `renderBody` has run, with nothing in flight. Source: `src/unnamed/part_003`
l. 90–128. Kind: D -/
def Session.initial (E : OverhaulEnv) : Session := ⟨((renderBody E).run.run Pane.initial).2, []⟩

/-- The session after a sequence of steps. Source: none: infrastructure. Kind: D -/
def runSession (E : OverhaulEnv) (steps : List Step) : Session :=
  steps.foldl (Session.step E) (Session.initial E)

/-- **Run lemma.** An invariant of the session that holds initially and that every step keeps
holds after any sequence of steps. Source: none: infrastructure. Kind: L -/
theorem runSession_inv {E : OverhaulEnv} (Inv : Session → Prop) (h0 : Inv (Session.initial E))
    (hstep : ∀ s st, Inv s → Inv (s.step E st)) (steps : List Step) : Inv (runSession E steps) := by
  unfold runSession
  generalize Session.initial E = s at h0 ⊢
  induction steps generalizing s with
  | nil => exact h0
  | cons st steps ih => exact ih _ (hstep s st h0)

/-- Whatever the add returned, a chosen file leaves the pane the "Analysing" message left.
Source: `src/unnamed/part_003` l. 476–483. Kind: L -/
theorem Session.step_chosen_pane (E : OverhaulEnv) (s : Session) (filePath fileName : String) :
    (s.step E (.chosen filePath fileName)).pane =
      ((analyzeStart E filePath fileName).run.run s.pane).2 := by
  simp only [Session.step]
  split <;> next h => rw [h]

/-- **Step lemma.** An invariant of the pane that every change to the container keeps, and every
"Analysing" message, switch of view and switch to the editor, holds after every step of a
session. Source: none: infrastructure. Kind: L -/
theorem ContentStable.step {E : OverhaulEnv} {I : Pane → Prop} (hC : ContentStable E I)
    (hstart : ∀ p filePath fileName, I p → I ((analyzeStart E filePath fileName).run.run p).2)
    (hnav : ∀ p v, I p → I ((switchView E v).run.run p).2)
    (hopen : ∀ p, I p → I ((openEditor E).run.run p).2)
    (s : Session) (st : Step) (h : I s.pane) : I (s.step E st).pane := by
  cases st with
  | clear => exact hC.clear _ h
  | nav view => exact hnav _ view h
  | analyze => exact hopen _ h
  | chosen filePath fileName => rw [Session.step_chosen_pane]; exact hstart _ _ _ h
  | reply k answer =>
    simp only [Session.step]
    split
    · exact (analyzeReply_keeps hC _ answer).state_of h
    · exact h
  | tick j => exact hC.tick _ j h

/-- Every step keeps a stable invariant of the pane that the "Analysing" message keeps. Source:
none: infrastructure. Kind: L -/
theorem Stable.step {E : OverhaulEnv} {I : Pane → Prop} (hI : Stable E I)
    (hstart : ∀ p filePath fileName, I p → I ((analyzeStart E filePath fileName).run.run p).2)
    (s : Session) (st : Step) (h : I s.pane) : I (s.step E st).pane :=
  hI.toContentStable.step hstart (fun _ v hp => (switchView_keeps hI v).state_of hp)
    (fun _ hp => (openEditor_keeps hI).state_of hp) s st h

/-- `renderBody` keeps a stable invariant. Source: `src/unnamed/part_003` l. 90–128. Kind: L -/
theorem Stable.renderBody {E : OverhaulEnv} {I : Pane → Prop} (hI : Stable E I) {p : Pane}
    (h : I p) : I ((renderBody E).run.run p).2 :=
  (Triple.bind (Triple.of_state fun p hp => hI.views p _ "flex" _ _ hp) fun _ =>
    Triple.bind (Triple.bind (add_keeps hI.add _ _ _ _) fun _ => Triple.pure fun _ h => h) fun _ =>
      Triple.of_state fun p hp => hI.views p _ _ "none" "none" hp).state_of h

end Graphide.Webview.Overhaul
