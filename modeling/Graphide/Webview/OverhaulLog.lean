import Graphide.Webview.ChatLog
import Graphide.Webview.Overhaul

/-!
# What the overhauled pane's log shows

Package `Webview`, file 16. The overhauled pane keeps the original pane's log methods, so it holds
the same abstract log (`ChatLog`): each run of a repeated error is one entry with a count. Its
container shows one element per entry, as the original's does, but never a count: nothing gives
an element the badge that `addMessageWithStreamOption` would update.

* `Pane.kinds`, `Pane.sources`, `Holds` — the pane holds a log: its messages, the elements its
  container shows, one per entry, each rendered from the entry's message and of its role and
  type, and, while the newest entry is an error, that error's content and count in
  `lastErrorContent` and `errorCount`.
* `addMessageWithStreamOption_holds`, `clearHistory_holds`, `Holds.setEl` — the step lemmas: an
  add, streamed or with loading dots or neither, whether it returns or throws, pushes its message
  on the log; a clear leaves its one message; a change to an element's content keeps the log.
* `Pane.log`, `LogHeld` — the log of the adds the pane made since the last clear, which it
  records in the proof-only `added`, and the step lemmas that keep it held.
* `NoBadge`, `addMessageWithStreamOption_noBadge` — no element has a count badge, and no add gives
  one.
-/

namespace Graphide.Webview.Overhaul

/-! ## The pane holds a log -/

/-- The role and type of a message, which fix its element's classes, icon and label.
Source: `src/unnamed/part_003` l. 392–414. Kind: D -/
def kindOf (m : ChatMessage) : Role × MessageType := (m.role, m.type)

/-- What the container shows, in order: `f` of each of its elements. Source: none:
infrastructure. Kind: D -/
def Pane.shown {α : Type} (f : MessageEl → α) (p : Pane) : List α :=
  p.container.filterMap fun i => p.elements[i]?.map f

/-- The role and type of each element the container shows, in order. Source:
`src/unnamed/part_003` l. 390–416. Kind: D -/
def Pane.kinds (p : Pane) : List (Role × MessageType) := p.shown fun el => (el.role, el.type)

/-- The message each element the container shows was rendered from, in order. Source: none:
the proof-only `MessageEl.source`. Kind: D -/
def Pane.sources (p : Pane) : List ChatMessage := p.shown (·.source)

/-- The pane holds the log `log` (newest entry first).
Source: `src/unnamed/part_003` l. 60–63, 352–453
Kind: D -/
structure Holds (log : List Entry) (p : Pane) : Prop where
  valid : ∀ i ∈ p.container, i < p.elements.length
  messages : p.messages = (log.map (·.message)).reverse
  kinds : p.kinds = (log.map fun e => kindOf e.message).reverse
  sources : p.sources = (log.map (·.message)).reverse
  lastError : ∀ e es, log = e :: es → e.message.type = .error →
    p.lastErrorContent = e.message.content ∧ p.errorCount = e.count

/-- An element appended to the pane's elements shows last. Source: none: infrastructure. Kind: L -/
theorem shown_appendEl {α : Type} (f : MessageEl → α) {p : Pane}
    (hv : ∀ i ∈ p.container, i < p.elements.length) (el : MessageEl) :
    (p.appendEl el).shown f = p.shown f ++ [f el] := by
  simp only [Pane.shown, Pane.appendEl, List.filterMap_append]
  congr 1
  · exact List.filterMap_congr fun i hi => by rw [List.getElem?_append_left (hv i hi)]
  · simp only [List.filterMap_cons, List.getElem?_concat_length, Option.map_some',
      List.filterMap_nil]

/-- An update that keeps what shows keeps the shown list. Source: none: infrastructure. Kind: L -/
theorem shown_setEl {α : Type} (f : MessageEl → α) (p : Pane) (i : Nat)
    {g : MessageEl → MessageEl} (hg : ∀ el, f (g el) = f el) :
    (p.setEl i g).shown f = p.shown f := by
  refine List.filterMap_congr fun j _ => ?_
  rw [Pane.setEl, List.getElem?_modify]
  cases p.elements[j]? with
  | none => rfl
  | some el => by_cases h : i = j <;> simp [h, hg]

/-- A change to an element's content or badge keeps the log. Source: none: infrastructure.
Kind: L -/
theorem Holds.setEl {log : List Entry} {p : Pane} (h : Holds log p) (i : Nat)
    {f : MessageEl → MessageEl}
    (hf : ∀ el, (f el).role = el.role ∧ (f el).type = el.type ∧ (f el).source = el.source) :
    Holds log (p.setEl i f) :=
  ⟨by simpa only [Pane.setEl, List.length_modify] using h.valid, h.messages,
    (shown_setEl _ p i fun el => by rw [(hf el).1, (hf el).2.1]).trans h.kinds,
    (shown_setEl _ p i fun el => (hf el).2.2).trans h.sources, h.lastError⟩

/-- While the newest entry is an error, the container shows an error element. Source: none:
infrastructure. Kind: L -/
theorem Holds.lastErrorEl_isSome {e : Entry} {es : List Entry} {p : Pane} (h : Holds (e :: es) p)
    (he : e.message.type = .error) : p.lastErrorEl.isSome := by
  have hmem : (e.message.role, MessageType.error) ∈ p.kinds := by
    rw [h.kinds]
    simp [kindOf, he]
  obtain ⟨i, hi, hk⟩ := List.mem_filterMap.mp hmem
  rw [Pane.lastErrorEl, List.getLast?_isSome]
  refine List.ne_nil_of_mem (List.mem_filter.mpr ⟨hi, ?_⟩)
  cases hel : p.elements[i]? with
  | none => simp [hel] at hk
  | some el =>
    simp only [hel, Option.map_some', Option.some.injEq, Prod.mk.injEq] at hk
    simp [hk.2]

/-- A pane holding no entry counts no add. Source: none: infrastructure. Kind: L -/
theorem Holds.counts_nil {p : Pane} (h : Holds [] p) (m : ChatMessage) : p.counts m = none := by
  simp [Pane.counts, h.messages]

/-- The pane counts an add exactly when the log's newest entry absorbs it. Source: none:
infrastructure. Kind: L -/
theorem Holds.counts_cons {e : Entry} {es : List Entry} {p : Pane} (h : Holds (e :: es) p)
    (m : ChatMessage) : (p.counts m).isSome = e.absorbs m := by
  have hl : p.messages.getLast? = some e.message := by simp [h.messages]
  have hne : p.messages.isEmpty = false := by simp [h.messages]
  by_cases he : e.message.type = .error
  · have hs := h.lastErrorEl_isSome he
    simp only [Pane.counts, Entry.absorbs, hl, he, hne, (h.lastError e es rfl he).1,
      Option.map_some', beq_self_eq_true, Bool.not_false, Bool.and_true]
    split <;> simp_all
  · have hne' : (e.message.type == .error) = false := by simpa using he
    simp [Pane.counts, Entry.absorbs, hl, hne']

/-! ## The step lemmas -/

section Steps

variable {E : OverhaulEnv}

/-- **The step lemma of an add.** Streamed or with loading dots or neither, whether it returns or
throws, an add pushes its message on the log the pane holds. Source: `src/unnamed/part_003`
l. 362–453. Kind: L -/
theorem addMessageWithStreamOption_holds {log : List Entry} {p : Pane} (h : Holds log p)
    (m : ChatMessage) (stream loadingDots : Bool) :
    Holds (pushEntry log m)
      ((addMessageWithStreamOption E m.role m.content m.type stream loadingDots).run.run p).2 := by
  cases hc : p.counts m with
  | some i =>
    rw [addMessageWithStreamOption_run_counts stream loadingDots hc]
    cases log with
    | nil => rw [h.counts_nil] at hc; cases hc
    | cons e es =>
      have ha : e.absorbs m = true := by rw [← h.counts_cons, hc]; rfl
      have he : e.message.type = .error := by
        simp only [Entry.absorbs, Bool.and_eq_true, beq_iff_eq] at ha
        exact ha.1.2
      obtain ⟨hlast, hcount⟩ := h.lastError e es rfl he
      have h' : Holds (⟨e.message, e.count + 1, Nat.succ_pos _⟩ :: es)
          { p with errorCount := p.errorCount + 1, added := p.added ++ [m] } :=
        ⟨h.valid, by simpa using h.messages, by simpa using h.kinds, by simpa using h.sources,
          by rintro e' es' ⟨⟩ -; exact ⟨hlast, by rw [hcount]⟩⟩
      simp only [pushEntry, ha, if_true]
      exact h'.setEl i fun _ => ⟨rfl, rfl, rfl⟩
  | none =>
    rw [addMessageWithStreamOption_run_push stream loadingDots hc]
    have hpush : pushEntry log m = .single m :: log := by
      cases log with
      | nil => rfl
      | cons e es =>
        have ha : e.absorbs m = false := by rw [← h.counts_cons, hc]; rfl
        simp [pushEntry, ha]
    rw [hpush]
    obtain ⟨el, hp', hr, ht, -, -, -, _, hs⟩ :=
      renderMessage_shape E m stream loadingDots (p.push m)
    rw [hp']
    refine ⟨?_, ?_, ?_, ?_, ?_⟩
    · intro i hi
      simp only [Pane.appendEl, Pane.push, List.mem_append, List.mem_singleton,
        List.length_append, List.length_singleton] at hi ⊢
      rcases hi with hi | rfl
      · exact Nat.lt_succ_of_lt (h.valid i hi)
      · exact Nat.lt_succ_self _
    · simp [Pane.appendEl, Pane.push, h.messages]
    · refine (shown_appendEl _ h.valid el).trans ?_
      rw [show p.shown _ = p.kinds from rfl, h.kinds]
      simp [hr, ht, kindOf]
    · refine (shown_appendEl _ h.valid el).trans ?_
      rw [show p.shown _ = p.sources from rfl, h.sources]
      simp [hs]
    · rintro e es ⟨⟩ he
      rw [Entry.single_message] at he
      simp [Pane.appendEl, Pane.push, he]

/-- **The step lemma of a clear.** Whatever the pane held, after `clearHistory` it holds the one
message of the clear, the one of the original pane. Source: `src/unnamed/part_003` l. 352–356.
Kind: L -/
theorem clearHistory_holds (p : Pane) :
    Holds [.single clearedMessage] ((clearHistory E).run.run p).2 := by
  have h0 : Holds [] { p with messages := [], container := [], added := [] } :=
    ⟨nofun, rfl, rfl, rfl, fun _ _ h => nomatch h⟩
  simp only [clearHistory, Handler.run_modify_bind, addMessage_run_state]
  exact addMessageWithStreamOption_holds (E := E) h0 clearedMessage false false

/-! ## The log of the run -/

/-- The log of the adds the pane made since the last clear, newest entry first. Source: none:
the proof-only `added`. Kind: D -/
def Pane.log (p : Pane) : List Entry := p.added.foldl pushEntry []

/-- The pane holds the log of the adds it made since the last clear. Source: none: the abstract
model. Kind: D -/
def LogHeld (p : Pane) : Prop := Holds p.log p

/-- An add records its message, whether it counts it, renders it or throws. Source:
`src/unnamed/part_003` l. 362–453. Kind: L -/
theorem addMessageWithStreamOption_added (p : Pane) (m : ChatMessage) (stream loadingDots : Bool) :
    ((addMessageWithStreamOption E m.role m.content m.type stream loadingDots).run.run p).2.added =
      p.added ++ [m] := by
  cases hc : p.counts m with
  | some i => rw [addMessageWithStreamOption_run_counts stream loadingDots hc]; rfl
  | none =>
    rw [addMessageWithStreamOption_run_push stream loadingDots hc]
    obtain ⟨el, hp', -⟩ := renderMessage_shape E m stream loadingDots (p.push m)
    rw [hp']
    rfl

/-- **The step lemma of an add**, for the log of the run. Source: `src/unnamed/part_003`
l. 362–453. Kind: L -/
theorem addMessageWithStreamOption_logHeld {p : Pane} (h : LogHeld p) (m : ChatMessage)
    (stream loadingDots : Bool) :
    LogHeld
      ((addMessageWithStreamOption E m.role m.content m.type stream loadingDots).run.run p).2 := by
  rw [LogHeld, Pane.log, addMessageWithStreamOption_added, List.foldl_append]
  exact addMessageWithStreamOption_holds h m stream loadingDots

/-- **The step lemma of a clear**, for the log of the run: the clear's one message. Source:
`src/unnamed/part_003` l. 352–356. Kind: L -/
theorem clearHistory_logHeld (p : Pane) : LogHeld ((clearHistory E).run.run p).2 := by
  have ha : ((clearHistory E).run.run p).2.added = [clearedMessage] := by
    simp only [clearHistory, Handler.run_modify_bind, addMessage_run_state]
    exact addMessageWithStreamOption_added _ clearedMessage false false
  rw [LogHeld, Pane.log, ha]
  exact clearHistory_holds p

end Steps

/-- Adds keep a log consolidated: no entry of the log of a run would absorb the one after it.
Source: none: the abstract model. Kind: L -/
theorem foldl_pushEntry_consolidated :
    ∀ (added : List ChatMessage) {log : List Entry}, Consolidated log →
      Consolidated (added.foldl pushEntry log)
  | [], _, h => h
  | m :: ms, _, h => foldl_pushEntry_consolidated ms (pushEntry_consolidated h m)

/-- The counts of the log of a run spell out the messages added, newest first. Source: none:
the abstract model. Kind: L -/
theorem expand_foldl_pushEntry :
    ∀ (added : List ChatMessage) (log : List Entry),
      expand (added.foldl pushEntry log) =
        (added.map fun m => (m.content, m.type)).reverse ++ expand log
  | [], _ => rfl
  | m :: ms, log => by
    rw [List.foldl_cons, expand_foldl_pushEntry ms, expand_pushEntry]
    simp


/-! ## No count badge -/

/-- No element has a count badge. Source: `src/unnamed/part_003` l. 370–372. Kind: D -/
def NoBadge (p : Pane) : Prop := ∀ el ∈ p.elements, el.countBadge = none

/-- A property every element has and `f` keeps holds after modifying one. Source: none:
infrastructure. Kind: L -/
theorem forall_mem_modify {α : Type} {P : α → Prop} {f : α → α} (hf : ∀ a, P a → P (f a)) :
    ∀ (i : Nat) (l : List α), (∀ a ∈ l, P a) → ∀ a ∈ l.modify f i, P a
  | _, [], _ => by simp
  | 0, x :: l, h => by
    simp only [List.modify_zero_cons, List.forall_mem_cons] at h ⊢
    exact ⟨hf x h.1, h.2⟩
  | i + 1, x :: l, h => by
    simp only [List.modify_succ_cons, List.forall_mem_cons] at h ⊢
    exact ⟨h.1, forall_mem_modify hf i l h.2⟩

/-- A change that gives no element a badge keeps `NoBadge`. Source: none: infrastructure.
Kind: L -/
theorem NoBadge.setEl {p : Pane} (h : NoBadge p) (i : Nat) {f : MessageEl → MessageEl}
    (hf : ∀ el, el.countBadge = none → (f el).countBadge = none) : NoBadge (p.setEl i f) :=
  forall_mem_modify hf i _ h

/-- **No add gives a badge.** The add that counts a repeated error would update the badge of the
last error element, but only one it already had, and a render creates none.
Source: `src/unnamed/part_003` l. 362–453
Kind: L -/
theorem addMessageWithStreamOption_noBadge {E : OverhaulEnv} {p : Pane} (h : NoBadge p)
    (m : ChatMessage) (stream loadingDots : Bool) :
    NoBadge
      ((addMessageWithStreamOption E m.role m.content m.type stream loadingDots).run.run p).2 := by
  cases hc : p.counts m with
  | some i =>
    rw [addMessageWithStreamOption_run_counts stream loadingDots hc]
    exact NoBadge.setEl h i fun el he => by simp [he]
  | none =>
    rw [addMessageWithStreamOption_run_push stream loadingDots hc]
    obtain ⟨el, hp', -, -, hb, -, -, _, -⟩ := renderMessage_shape E m stream loadingDots (p.push m)
    rw [hp']
    intro x hx
    simp only [Pane.appendEl, Pane.push, List.mem_append, List.mem_singleton] at hx
    rcases hx with hx | rfl
    · exact h x hx
    · exact hb

end Graphide.Webview.Overhaul
