import Mathlib.Data.Nat.Cast.Order.Basic
import Mathlib.Data.String.Basic
import Mathlib.Logic.Function.Iterate
import Graphide.Webview.ChatPane

/-!
# Streamed messages of the overhauled pane

Package `Webview`, file 14. The overhauled `GraphIDEViewPane` (`src/unnamed/part_003`, the "UX
Overhaul" of the chat pane) shows a streamed message a few characters at a time: `renderMessage`,
asked to stream a content whose `length` is above 20, sets an interval that every 10 ms appends
the next five UTF-16 code units of the content to what the message shows, with a cursor after
them while more is to come, and clears itself once nothing is left.

* `utf16Units`, `substringUnits`, `jsSubstring` — a JavaScript string as its UTF-16 code units,
  and `String.prototype.substring` on them.
* `NumEngine`, `toNumber`, `numLt`, `numGe` — `n < v` and `n >= v` for a number `n` and a value
  read from a reply.
* `OverhaulEnv` — the services of the overhauled pane.
* `Interval`, `tick`, `fire` — the interval's closure (`displayedContent`, `index`) and one run of
  its callback, on the closure and the message's content element; the event loop runs the
  callback of an interval that is still set. `tick_str` says once what a run does on a string.
* `fire_iterate_str` — **a string streams to its end**: after `k` runs the closure holds the
  first `5k` code units, the element shows them with the cursor while more is to come, the
  interval is cleared by exactly the `⌈n/5⌉ + 1`-th run, and from the `⌈n/5⌉`-th on the element
  shows the whole content (`stream_finishes`).
* `fire_iterate_not_str` — **any other content streams forever**: an array or an object whose
  `length` is above 20 has no `substring`, so every run throws before `index` moves; the
  interval is never cleared and the element never shows anything.

Not modelled: the scroll position the callback sets.
-/

namespace Graphide.Webview

/-! ## JavaScript strings -/

/-- The UTF-16 code units of a character: one below `0x10000`, a surrogate pair above.
Source: ECMAScript `UTF16EncodeCodePoint`
Kind: D
Fidelity: exact -/
def utf16Encode (c : Char) : List UInt16 :=
  if c.toNat < 0x10000 then [c.toNat.toUInt16]
  else [(0xD800 + (c.toNat - 0x10000) / 0x400).toUInt16,
    (0xDC00 + (c.toNat - 0x10000) % 0x400).toUInt16]

/-- A string as JavaScript holds it: its UTF-16 code units.
Source: ECMAScript `StringToCodePoints`, inverted
Kind: D -/
def utf16Units (s : String) : List UInt16 :=
  s.toList.flatMap utf16Encode

/-- Counting UTF-16 units character by character is the length of the encoding. Source: ECMAScript
`String.prototype.length`. Kind: L -/
theorem foldl_utf16Length (l : List Char) (a : Nat) :
    l.foldl (fun n c => n + if c.toNat < 0x10000 then 1 else 2) a =
      a + (l.flatMap utf16Encode).length := by
  induction l generalizing a with
  | nil => rfl
  | cons c l ih =>
    rw [List.foldl_cons, ih, List.flatMap_cons, List.length_append]
    unfold utf16Encode
    split <;> simp only [List.length_cons, List.length_nil] <;> omega

/-- `s.length` counts the code units. Source: none: infrastructure. Kind: L -/
theorem length_utf16Units (s : String) : (utf16Units s).length = utf16Length s := by
  rw [utf16Length, String.foldl_eq, foldl_utf16Length, Nat.zero_add]
  rfl

/-- `s.substring(start, end)`: both ends clamped to the length, the lower one first.
Source: ECMAScript `String.prototype.substring`
Kind: D
Fidelity: exact -/
def substringUnits (u : List UInt16) (start stop : Nat) : List UInt16 :=
  let a := min start u.length
  let b := min stop u.length
  (u.drop (min a b)).take (max a b - min a b)

/-- `s.substring(i, i + k)` is the `k` code units from `i` on. Source: none: infrastructure.
Kind: L -/
theorem substringUnits_add (u : List UInt16) (i k : Nat) :
    substringUnits u i (i + k) = (u.drop i).take k := by
  simp only [substringUnits]
  by_cases hi : i ≤ u.length
  · rw [Nat.min_eq_left hi, Nat.min_eq_left (Nat.le_min.mpr ⟨Nat.le_add_right i k, hi⟩),
      Nat.max_eq_right (Nat.le_min.mpr ⟨Nat.le_add_right i k, hi⟩), List.take_eq_take,
      List.length_drop]
    omega
  · have h1 : min (min i u.length) (min (i + k) u.length) = u.length := by omega
    rw [h1, List.drop_length, List.take_nil, List.drop_of_length_le (by omega), List.take_nil]

/-- `v.substring(start, end)` on a value read from a reply: a string's code units; any other
value has no callable `substring`.
Source: ECMAScript `String.prototype.substring`, as `fullContent.substring(index, index +
chunkSize)` calls it (`src/unnamed/part_003` l. 437)
Kind: D
Fidelity: exact -/
def jsSubstring : Json → Nat → Nat → Except TypeError (List UInt16)
  | .str s, start, stop => .ok (substringUnits (utf16Units s) start stop)
  | .null, _, _ => .error (.readOfNullish "substring")
  | _, _, _ => .error (.notAFunction "substring")

/-- A string's `length` is its number of UTF-16 units. Source: ECMAScript `String.prototype.length`.
Kind: L -/
@[simp] theorem getProp_str_length (s : String) :
    getProp (some (.str s)) "length" = .ok (some (.num (utf16Units s).length)) := by
  simp [getProp, length_utf16Units]

/-! ## Comparisons with a number -/

/-- What the model takes from the engine for `n < v` and `n >= v`: `ToNumber` of a string, an
array or an object, through `ToPrimitive` and `StringToNumber` (`none` for `NaN`), or the
`TypeError` of an object with no primitive form.
Source: ECMAScript `IsLessThan`
Kind: D -/
structure NumEngine where
  toNumber : Json → Except TypeError (Option ℚ)

/-- `ToNumber` of a value that may be `undefined`; exact for `undefined`, `null`, booleans and
numbers.
Source: ECMAScript `ToNumber`
Kind: D
Fidelity: exact -/
def toNumber (N : NumEngine) : Option Json → Except TypeError (Option ℚ)
  | none => .ok none
  | some .null => .ok (some 0)
  | some (.bool b) => .ok (some (if b then 1 else 0))
  | some (.num x) => .ok (some x)
  | some v => N.toNumber v

/-- `n < v`: false when `v` is `NaN`.
Source: ECMAScript `IsLessThan`, as `message.content.length > 20` and `index <
fullContent.length` evaluate it (`src/unnamed/part_003` l. 427, 441)
Kind: D
Fidelity: exact -/
def numLt (N : NumEngine) (n : ℚ) (v : Option Json) : Except TypeError Bool :=
  match toNumber N v with
  | .ok (some x) => .ok (decide (n < x))
  | .ok none => .ok false
  | .error e => .error e

/-- `n >= v`: false when `v` is `NaN`.
Source: ECMAScript `IsLessThan`, as `index >= fullContent.length` evaluates it
(`src/unnamed/part_003` l. 433)
Kind: D
Fidelity: exact -/
def numGe (N : NumEngine) (n : ℚ) (v : Option Json) : Except TypeError Bool :=
  match toNumber N v with
  | .ok (some x) => .ok (decide (x ≤ n))
  | .ok none => .ok false
  | .error e => .error e

/-- A read that succeeds passes its value on. Source: none: infrastructure. Kind: L -/
@[simp] theorem except_ok_bind {ε α β : Type} (a : α) (f : α → Except ε β) :
    (Except.ok a >>= f) = f a := rfl

/-- Comparing with a number. Source: ECMAScript `IsLessThan`. Kind: L -/
@[simp] theorem numLt_num (N : NumEngine) (n x : ℚ) :
    numLt N n (some (.num x)) = .ok (decide (n < x)) := rfl

/-- Comparing with a number. Source: ECMAScript `IsLessThan`. Kind: L -/
@[simp] theorem numGe_num (N : NumEngine) (n x : ℚ) :
    numGe N n (some (.num x)) = .ok (decide (x ≤ n)) := rfl

/-- A value above `a` is not at most any `b ≤ a`. Source: none: infrastructure. Kind: L -/
theorem numGe_of_numLt {N : NumEngine} {a b : ℚ} {v : Option Json} (h : numLt N a v = .ok true)
    (hb : b ≤ a) : numGe N b v = .ok false := by
  unfold numLt at h
  unfold numGe
  split at h
  · rename_i x hx
    rw [decide_eq_false (not_le.mpr (lt_of_le_of_lt hb (of_decide_eq_true (Except.ok.inj h))))]
  · cases h
  · cases h

/-! ## The interval -/

/-- The services the overhauled pane calls: those of the original pane, the engine's `ToNumber`
for the comparisons above, whether the markdown renderer takes a string the code built (`none`,
or the message of what it throws), and `URI.file(filePath).toString()`.
Source: `src/unnamed/part_003` l. 71–88, 419–450, 477–481
Kind: D -/
structure OverhaulEnv where
  pane : PaneEnv
  num : NumEngine
  textError : List UInt16 → Option String
  uriString : String → String

/-- What `new MarkdownString(...)` was given: a value of the reply, or a string the code built.
Source: `src/unnamed/part_003` l. 421, 441, 447
Kind: D -/
inductive Markdown
  | value (v : Json)
  | text (u : List UInt16)

/-- A read of a value whose `TypeError` is thrown with its message: `liftJs` at any state.
Source: none: infrastructure. Kind: D -/
def liftJsAt {σ α : Type} (E : PaneEnv) (x : Except TypeError α) : Handler String σ α :=
  liftM (x.mapError E.typeErrorMessage)

/-- A read that succeeds passes its value on. Source: none: infrastructure. Kind: L -/
@[simp] theorem liftJsAt_ok_bind {σ α β : Type} (E : PaneEnv) (a : α)
    (k : α → Handler String σ β) (s : σ) :
    ((liftJsAt E (.ok a) : Handler String σ α) >>= k).run.run s = (k a).run.run s := rfl

/-- A read that throws throws its message and leaves the state. Source: none: infrastructure. Kind:
L -/
@[simp] theorem liftJsAt_error_bind {σ α β : Type} (E : PaneEnv) (e : TypeError)
    (k : α → Handler String σ β) (s : σ) :
    ((liftJsAt E (.error e) : Handler String σ α) >>= k).run.run s =
      (.error (E.typeErrorMessage e), s) := rfl

/-- An interval `renderMessage` set: the message element it writes to, the content it streams,
its closure's `displayedContent` and `index`, and whether it is still set.
Source: `src/unnamed/part_003` l. 428–445
Kind: D -/
structure Interval where
  el : Nat
  fullContent : Json
  displayedContent : List UInt16
  index : Nat
  active : Bool

/-- The interval as `renderMessage` sets it. Source: `src/unnamed/part_003` l. 428–432.
Kind: D -/
def Interval.start (el : Nat) (fullContent : Json) : Interval := ⟨el, fullContent, [], 0, true⟩

/-- The cursor shown after the text while more is to come, as the source file has it: the
bytes of a full block read as Windows-1252.
Source: `src/unnamed/part_003` l. 441
Kind: D
Fidelity: exact -/
def cursor : List UInt16 := utf16Units " â–ˆ"

/-- What the content element holds once the markdown of `text` was rendered into it: the
rendered element, or nothing when the renderer threw. Source: `src/unnamed/part_003` l. 441–443.
Kind: D -/
def renderedText (E : OverhaulEnv) (text : List UInt16) : Option Markdown :=
  match E.textError text with
  | some _ => none
  | none => some (.text text)

/-- One run of the interval's callback, on its closure and on the content element of its
message (the rendered element it holds, if any).
Source: `src/unnamed/part_003` l. 432–445
Kind: D
Fidelity: exact -/
def tick (E : OverhaulEnv) : Handler String (Interval × Option Markdown) Unit := do
  let t := (← get).1
  if ← liftJsAt E.pane (do numGe E.num t.index (← getProp (some t.fullContent) "length")) then
    modify fun st => ({ st.1 with active := false }, st.2)
    return
  -- `chunkSize` is 5
  let chunk ← liftJsAt E.pane (jsSubstring t.fullContent t.index (t.index + 5))
  modify fun st => ({ st.1 with
    displayedContent := st.1.displayedContent ++ chunk, index := st.1.index + 5 }, st.2)
  modify fun st => (st.1, none)
  let t := (← get).1
  let more ← liftJsAt E.pane (do numLt E.num t.index (← getProp (some t.fullContent) "length"))
  let text := t.displayedContent ++ if more then cursor else []
  match E.textError text with
  | some e => throw e
  | none => modify fun st => (st.1, some (.text text))

/-- The event loop runs the callback of an interval that is still set; a cleared one never runs
again. Source: HTML `setInterval`, `clearInterval`. Kind: D -/
def fire (E : OverhaulEnv) (st : Interval × Option Markdown) : Interval × Option Markdown :=
  if st.1.active then ((tick E).run.run st).2 else st

/-! ## A string streams to its end -/

section Str

variable (E : OverhaulEnv)

/-- What the element shows after `m` runs on the code units `u`: the first `5m`, and the cursor
while more is to come. Source: `src/unnamed/part_003` l. 437–441. Kind: D -/
def streamFrame (u : List UInt16) (m : Nat) : List UInt16 :=
  u.take (5 * m) ++ if 5 * m < u.length then cursor else []

/-- After `⌈n/5⌉` runs the element shows every code unit, without the cursor. Source: none:
infrastructure. Kind: L -/
theorem streamFrame_last (u : List UInt16) : streamFrame u ((u.length + 4) / 5) = u := by
  have hn : u.length ≤ 5 * ((u.length + 4) / 5) := by omega
  simp only [streamFrame, List.take_of_length_le hn,
    show ¬ 5 * ((u.length + 4) / 5) < u.length by omega, if_false, List.append_nil]

/-- **The step lemma.** On a string content, a run clears the interval once `index` has reached
the length, and otherwise appends the next five code units and shows them, with the cursor while
more is to come. Source: `src/unnamed/part_003` l. 433–444. Kind: L -/
theorem tick_str {s : String} {t : Interval} (c : Option Markdown) (ht : t.fullContent = .str s) :
    ((tick E).run.run (t, c)).2 =
      if (utf16Units s).length ≤ t.index then ({ t with active := false }, c)
      else
        let d := t.displayedContent ++ ((utf16Units s).drop t.index).take 5
        ({ t with displayedContent := d, index := t.index + 5 },
          renderedText E (d ++ if t.index + 5 < (utf16Units s).length then cursor else [])) := by
  obtain ⟨el, _, d, i, a⟩ := t
  cases ht
  rw [tick, Handler.run_get_bind]
  simp only [getProp_str_length, except_ok_bind, numGe_num, Nat.cast_le, liftJsAt_ok_bind]
  by_cases hi : (utf16Units s).length ≤ i
  · simp only [hi, decide_True, if_true, Handler.run_modify_bind, Handler.run_pure]
  · simp only [hi, decide_False, Bool.false_eq_true, if_false, Handler.run_pure_bind, jsSubstring,
      substringUnits_add, liftJsAt_ok_bind, Handler.run_modify_bind, Handler.run_get_bind,
      getProp_str_length, except_ok_bind, numLt_num, Nat.cast_lt, decide_eq_true_eq, renderedText]
    split <;> next h => simp only [h, Handler.run_throw, Handler.run_modify]

/-- The closure and the element after `k` runs from `renderMessage`'s interval on a string.
Source: none: infrastructure. Kind: L -/
theorem fire_iterate_str (el : Nat) (s : String) (k : Nat) :
    (fire E)^[k] (Interval.start el (.str s), none) =
      (⟨el, .str s, (utf16Units s).take (5 * min k (((utf16Units s).length + 4) / 5)),
          5 * min k (((utf16Units s).length + 4) / 5),
          decide (k ≤ ((utf16Units s).length + 4) / 5)⟩,
        if min k (((utf16Units s).length + 4) / 5) = 0 then none
        else renderedText E
          (streamFrame (utf16Units s) (min k (((utf16Units s).length + 4) / 5)))) := by
  induction k with
  | zero => simp [Interval.start]
  | succ k ih =>
    rw [Function.iterate_succ_apply', ih]
    set n := (utf16Units s).length
    by_cases hk : k ≤ (n + 4) / 5
    · simp only [fire, decide_eq_true hk, if_true]
      rw [tick_str E _ rfl]
      by_cases hl : k = (n + 4) / 5
      · have hn : n ≤ 5 * min k ((n + 4) / 5) := by omega
        simp only [hn, if_true]
        rw [Nat.min_eq_right (by omega : (n + 4) / 5 ≤ k + 1), ← hl, Nat.min_self,
          decide_eq_false (by omega : ¬ k + 1 ≤ k)]
      · have hm : min k ((n + 4) / 5) = k := Nat.min_eq_left hk
        have hm' : min (k + 1) ((n + 4) / 5) = k + 1 := Nat.min_eq_left (by omega)
        simp only [hm, hm', show ¬ n ≤ 5 * k by omega, if_false, Nat.add_one_ne_zero,
          decide_eq_true (by omega : k + 1 ≤ (n + 4) / 5), streamFrame, ← List.take_add,
          show 5 * (k + 1) = 5 * k + 5 by omega]
    · simp only [fire, decide_eq_false hk, Bool.false_eq_true, if_false]
      rw [Nat.min_eq_right (by omega : (n + 4) / 5 ≤ k),
        Nat.min_eq_right (by omega : (n + 4) / 5 ≤ k + 1),
        decide_eq_false (by omega : ¬ k + 1 ≤ (n + 4) / 5)]

/-- **A string streams to its end.** On a content of `n > 20` code units, the interval is set
for exactly its first `⌈n/5⌉` runs; after `k` of them, while more is to come, the element shows
the first `5k` code units and the cursor; from the `⌈n/5⌉`-th run on it shows the whole content
(each time when the renderer takes what it is given).
Source: `src/unnamed/part_003` l. 427–445
Kind: P -/
theorem stream_finishes (el : Nat) {s : String} (hs : 20 < (utf16Units s).length) :
    (∀ k, ((fire E)^[k] (Interval.start el (.str s), none)).1.active =
      decide (k ≤ ((utf16Units s).length + 4) / 5)) ∧
    (∀ k, 0 < k → 5 * k < (utf16Units s).length →
      ((fire E)^[k] (Interval.start el (.str s), none)).2 =
        renderedText E ((utf16Units s).take (5 * k) ++ cursor)) ∧
    (∀ k, ((utf16Units s).length + 4) / 5 ≤ k →
      ((fire E)^[k] (Interval.start el (.str s), none)).2 = renderedText E (utf16Units s)) := by
  refine ⟨fun k => by rw [fire_iterate_str], fun k hk hlt => ?_, fun k hk => ?_⟩
  · rw [fire_iterate_str, Nat.min_eq_left (by omega)]
    simp only [Nat.pos_iff_ne_zero.mp hk, if_false, streamFrame, hlt, if_true]
  · rw [fire_iterate_str, Nat.min_eq_right hk, streamFrame_last]
    simp only [show ((utf16Units s).length + 4) / 5 ≠ 0 by omega, if_false]

end Str

/-- The contract on a content of 21 code units, with a renderer that takes everything: the fifth
run shows it all. Source: none: a test input. Kind: N+ -/
theorem stream_finishes_21 :
    let E : OverhaulEnv := ⟨⟨⟨fun _ => .ok false⟩, fun _ => "", fun _ => none⟩, ⟨fun _ => .ok none⟩,
      fun _ => none, id⟩
    20 < (utf16Units "Found 1 vulnerability").length ∧
      ((fire E)^[5] (Interval.start 0 (.str "Found 1 vulnerability"), none)).2 =
        renderedText E (utf16Units "Found 1 vulnerability") := by
  intro E
  have hn : (utf16Units "Found 1 vulnerability").length = 21 := rfl
  exact ⟨by rw [hn]; decide, (stream_finishes E 0 (by rw [hn]; decide)).2.2 5 (by rw [hn])⟩

/-! ## Any other content streams forever -/

/-- On a content that is not a string but whose `length` is above 20, a run throws at
`substring`, before it changes anything. Source: `src/unnamed/part_003` l. 433–437. Kind: L -/
theorem tick_not_str (E : OverhaulEnv) (el : Nat) {v : Json} (hv : ∀ s, v ≠ .str s)
    (hlen : (getProp (some v) "length" >>= numLt E.num 20) = .ok true) :
    (tick E).run.run (Interval.start el v, none) =
      (.error (E.pane.typeErrorMessage (.notAFunction "substring")),
        (Interval.start el v, none)) := by
  obtain ⟨len, hget, hlt⟩ := except_bind_eq_ok.mp hlen
  have hsub : jsSubstring v 0 (0 + 5) = .error (.notAFunction "substring") := by
    cases v with
    | null => cases hget
    | str s => exact absurd rfl (hv s)
    | _ => rfl
  rw [tick, Handler.run_get_bind]
  simp only [Interval.start, hget, except_ok_bind, Nat.cast_zero,
    numGe_of_numLt hlt (by decide : (0 : ℚ) ≤ 20), liftJsAt_ok_bind, Bool.false_eq_true, if_false,
    Handler.run_pure_bind, hsub, liftJsAt_error_bind]

/-- **Any other content streams forever.** When `renderMessage` streams a content that is not a
string (an agent's `markdownOutput` that is an array of more than 20 items, say), every run of
the interval throws the same `TypeError` before `index` moves: the interval is never cleared, and
the message's content element stays empty.
Source: `src/unnamed/part_003` l. 427–445
Kind: P -/
theorem fire_iterate_not_str (E : OverhaulEnv) (el : Nat) {v : Json} (hv : ∀ s, v ≠ .str s)
    (hlen : (getProp (some v) "length" >>= numLt E.num 20) = .ok true) (k : Nat) :
    (fire E)^[k] (Interval.start el v, none) = (Interval.start el v, none) ∧
      ((tick E).run.run (Interval.start el v, none)).1 =
        .error (E.pane.typeErrorMessage (.notAFunction "substring")) := by
  refine ⟨?_, by rw [tick_not_str E el hv hlen]⟩
  induction k with
  | zero => rfl
  | succ k ih =>
    rw [Function.iterate_succ_apply', ih, fire,
      if_pos (show (Interval.start el v, (none : Option Markdown)).1.active = true from rfl),
      tick_not_str E el hv hlen]

end Graphide.Webview
