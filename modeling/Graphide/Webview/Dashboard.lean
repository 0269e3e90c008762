import Graphide.Webview.Channel

/-!
# The dashboard's data, over every run

Package `Webview`, file 13. `App` computes the dashboard's data (`dashboard`, App.tsx
l. 172–179) from its analysis history on every render, whichever view is shown. Here is when
that computation returns, and what it returns, for every history a run of the channel can leave.

* `countSeverity_ok_iff`, `countSeverity_eq` — counting a severity throws exactly when some
  vulnerability is `null` (`v.severity` of `null`), and otherwise counts the vulnerabilities
  whose `severity` is that string.
* `isCleanReply_ok`, `countClean_ok`, `allVulnerabilities_ok` — on truthy replies the other two
  computations never throw.
* `dashboard_ok_iff`, `dashboard_counts` — so the dashboard's data of a history of truthy
  replies computes exactly when no vulnerability is `null`, and then the critical and high
  counts together stay within the total, and the clean count within the scan count.
* `Channel.step_history`, `history_grows` — every move only puts truthy replies in front of
  App's history: nothing, `handleClear` included, takes one out.
* `dashboard_in_every_run` — **every run**: the history holds truthy replies, and the
  dashboard's data computes exactly when no vulnerability of the history is `null`, with counts
  that add up.
* `dashboard_stays_down` — as the history only grows, a reply that lists a `null`
  vulnerability makes the computation throw in every later state; in React that is a throw in
  `App`'s render, on every view.
-/

namespace Graphide.Webview

/-! ## Counting severities -/

/-- A property read on a value that is not `null` never throws. Source: none: infrastructure.
Kind: L -/
theorem getProp_some_ok {v : Json} (hv : v ≠ .null) (name : String) :
    ∃ p, getProp (some v) name = .ok p := by
  cases v with
  | null => exact absurd rfl hv
  | _ => exact ⟨_, rfl⟩

/-- `v.severity === severity`, for a vulnerability `v` that is not `null`.
Source: `src/ide/webview-ui/src/App.tsx` l. 176–177
Kind: D -/
def hasSeverity (severity : String) (v : Json) : Bool :=
  match getProp (some v) "severity" with
  | .ok s => isStr s severity
  | .error _ => false

/-- Counting a severity over vulnerabilities none of which is `null`.
Source: `src/ide/webview-ui/src/App.tsx` l. 176–177. Kind: L -/
theorem countSeverity_eq (severity : String) :
    ∀ {vs : List Json}, Json.null ∉ vs →
      countSeverity severity vs = .ok (vs.countP (hasSeverity severity))
  | [], _ => rfl
  | v :: vs, h => by
    obtain ⟨p, hp⟩ := getProp_some_ok (fun hv => h (hv ▸ List.mem_cons_self _ _)) "severity"
    have ih := countSeverity_eq severity (fun h' => h (List.mem_cons_of_mem _ h'))
    simp only [countSeverity, hp, ih, List.countP_cons, hasSeverity]
    show Except.ok _ = Except.ok _
    rw [Nat.add_comm]

/-- Counting a severity throws exactly when some vulnerability is `null`.
Source: `src/ide/webview-ui/src/App.tsx` l. 176–177. Kind: L -/
theorem countSeverity_ok_iff (severity : String) (vs : List Json) :
    (∃ n, countSeverity severity vs = .ok n) ↔ Json.null ∉ vs := by
  refine ⟨?_, fun h => ⟨_, countSeverity_eq severity h⟩⟩
  rintro ⟨n, hn⟩
  induction vs generalizing n with
  | nil => exact List.not_mem_nil _
  | cons v vs ih =>
    obtain ⟨p, hp, hrest⟩ := except_bind_eq_ok.mp hn
    obtain ⟨m, hm, -⟩ := except_bind_eq_ok.mp hrest
    rintro (_ | ⟨_, hmem⟩)
    · cases hp
    · exact ih m hm hmem

/-- A value equals at most one string. Source: ECMAScript `IsStrictlyEqual`. Kind: L -/
theorem isStr_inj {v : Option Json} {a b : String} (ha : isStr v a = true)
    (hb : isStr v b = true) : a = b := by
  rcases v with _ | ⟨_ | _ | _ | s | _ | _⟩ <;> simp_all [isStr]

/-- A vulnerability has at most one severity. Source: `src/ide/webview-ui/src/App.tsx`
l. 176–177. Kind: L -/
theorem hasSeverity_inj {v : Json} {a b : String} (ha : hasSeverity a v = true)
    (hb : hasSeverity b v = true) : a = b := by
  cases hp : getProp (some v) "severity" with
  | ok p =>
    simp only [hasSeverity, hp] at ha hb
    exact isStr_inj ha hb
  | error e => simp only [hasSeverity, hp, Bool.false_eq_true] at ha

/-- The critical and the high vulnerabilities together are at most all of them. Source:
`src/ide/webview-ui/src/App.tsx` l. 176–178. Kind: L -/
theorem countP_critical_add_high_le (vs : List Json) :
    vs.countP (hasSeverity "critical") + vs.countP (hasSeverity "high") ≤ vs.length := by
  have hle : vs.countP (hasSeverity "high") ≤
      vs.countP (fun v => decide ¬hasSeverity "critical" v = true) :=
    List.countP_mono_left fun v _ hh => decide_eq_true fun hc =>
      absurd (hasSeverity_inj hc hh) (by decide)
  have := List.length_eq_countP_add_countP (hasSeverity "critical") vs
  omega

/-! ## The other two computations -/

/-- The dashboard's test of a clean reply never throws on a truthy reply. Source:
`src/ide/webview-ui/src/App.tsx` l. 179. Kind: L -/
theorem isCleanReply_ok {r : Json} (hr : r.truthy = true) : ∃ b, isCleanReply r = .ok b := by
  obtain ⟨st, hst⟩ := getProp_of_truthy (v := some r) hr "status"
  obtain ⟨vs, hvs⟩ := getProp_of_truthy (v := some r) hr "vulnerabilities"
  simp only [isCleanReply, hst, hvs, bind, Except.bind]
  split
  · split
    · exact ⟨_, rfl⟩
    · next hv =>
      obtain ⟨len, hlen⟩ := getProp_of_truthy (v := vs) (by simpa using hv) "length"
      simp only [hlen]
      exact ⟨_, rfl⟩
  · exact ⟨_, rfl⟩

/-- Counting the clean replies never throws on truthy replies. Source:
`src/ide/webview-ui/src/App.tsx` l. 179. Kind: L -/
theorem countClean_ok : ∀ {history : List Json}, (∀ r ∈ history, r.truthy = true) →
    ∃ n, countClean history = .ok n
  | [], _ => ⟨0, rfl⟩
  | r :: rs, h => by
    obtain ⟨b, hb⟩ := isCleanReply_ok (h r (List.mem_cons_self _ _))
    obtain ⟨n, hn⟩ := countClean_ok fun r' hr' => h r' (List.mem_cons_of_mem _ hr')
    exact ⟨_, by simp only [countClean, hb, hn]; rfl⟩

/-- At most every reply is clean. Source: `src/ide/webview-ui/src/App.tsx` l. 179. Kind: L -/
theorem countClean_le : ∀ {history : List Json} {n : Nat}, countClean history = .ok n →
    n ≤ history.length
  | [], _, h => by cases h; exact Nat.le_refl 0
  | r :: rs, n, h => by
    obtain ⟨b, -, h1⟩ := except_bind_eq_ok.mp h
    obtain ⟨m, hm, h2⟩ := except_bind_eq_ok.mp h1
    cases h2
    have := countClean_le hm
    simp only [List.length_cons]
    split <;> omega

/-- Gathering the vulnerabilities never throws on truthy replies. Source:
`src/ide/webview-ui/src/App.tsx` l. 173–174. Kind: L -/
theorem allVulnerabilities_ok : ∀ {history : List Json}, (∀ r ∈ history, r.truthy = true) →
    ∃ all, allVulnerabilities history = .ok all
  | [], _ => ⟨[], rfl⟩
  | r :: rs, h => by
    obtain ⟨v, hv⟩ := getProp_of_truthy (v := some r) (h r (List.mem_cons_self _ _))
      "vulnerabilities"
    obtain ⟨all, hall⟩ := allVulnerabilities_ok fun r' hr' => h r' (List.mem_cons_of_mem _ hr')
    exact ⟨_, by simp only [allVulnerabilities, hv, hall]; rfl⟩

/-- The vulnerabilities of two stretches of history, one after the other. Source:
`src/ide/webview-ui/src/App.tsx` l. 173–174. Kind: L -/
theorem allVulnerabilities_append : ∀ {pre history : List Json} {x all : List Json},
    allVulnerabilities pre = .ok x → allVulnerabilities history = .ok all →
      allVulnerabilities (pre ++ history) = .ok (x ++ all)
  | [], _, _, _, hx, ha => by cases hx; exact ha
  | r :: rs, history, x, all, hx, ha => by
    obtain ⟨v, hv, h1⟩ := except_bind_eq_ok.mp hx
    obtain ⟨y, hy, h2⟩ := except_bind_eq_ok.mp h1
    cases h2
    rw [List.cons_append, allVulnerabilities, hv, allVulnerabilities_append hy ha]
    show Except.ok _ = Except.ok _
    rw [List.append_assoc]

/-! ## The dashboard's data -/

/-- **When the dashboard's data computes.** With the vulnerabilities gathered and the clean
replies counted, the data computes exactly when no vulnerability is `null`.
Source: `src/ide/webview-ui/src/App.tsx` l. 172–179. Kind: L -/
theorem dashboard_ok_iff {history all : List Json} (ha : allVulnerabilities history = .ok all)
    (hc : ∃ n, countClean history = .ok n) :
    (∃ d, dashboard history = .ok d) ↔ Json.null ∉ all := by
  constructor
  · rintro ⟨d, hd⟩
    obtain ⟨all', ha', h1⟩ := except_bind_eq_ok.mp hd
    obtain ⟨c, hcrit, -⟩ := except_bind_eq_ok.mp h1
    rw [ha] at ha'
    cases ha'
    exact (countSeverity_ok_iff _ _).mp ⟨c, hcrit⟩
  · intro hn
    obtain ⟨n, hn'⟩ := hc
    exact ⟨_, by simp only [dashboard, ha, hn', bind, Except.bind, countSeverity_eq _ hn]; rfl⟩

/-- **What the dashboard shows adds up**: the critical and high counts together are at most
the total, and the clean replies at most the scans. Source: `src/ide/webview-ui/src/App.tsx`
l. 172–179. Kind: L -/
theorem dashboard_counts {history : List Json} {d : Dashboard} (hd : dashboard history = .ok d) :
    d.criticalCount + d.highCount ≤ d.totalCount ∧ d.cleanCount ≤ d.scanCount := by
  obtain ⟨all, -, h1⟩ := except_bind_eq_ok.mp hd
  obtain ⟨c, hc, h2⟩ := except_bind_eq_ok.mp h1
  obtain ⟨hi, hhi, h3⟩ := except_bind_eq_ok.mp h2
  obtain ⟨cl, hcl, h4⟩ := except_bind_eq_ok.mp h3
  cases h4
  have hn : Json.null ∉ all := (countSeverity_ok_iff _ _).mp ⟨c, hc⟩
  rw [countSeverity_eq _ hn] at hc hhi
  cases hc
  cases hhi
  exact ⟨countP_critical_add_high_le all, countClean_le hcl⟩

/-! ## App's history over a run -/

/-- App's listener only puts a truthy reply in front of the history. Source:
`src/ide/webview-ui/src/App.tsx` l. 99–109. Kind: L -/
theorem App.handleMessage_history (s : AppState) (m : ToWebview) :
    ∃ pre, (App.handleMessage s m).analysisHistory = pre ++ s.analysisHistory ∧
      ∀ r ∈ pre, r.truthy = true := by
  cases m with
  | analysisResult data =>
    by_cases hd : data.truthy = true
    · exact ⟨[data], by simp only [App.handleMessage, hd, if_true]; rfl, by simpa using hd⟩
    · exact ⟨[], by simp only [App.handleMessage, hd, if_false]; rfl, by simp⟩
  | _ => exact ⟨[], rfl, by simp⟩

/-- No click touches the history; in particular `handleClear` keeps it. Source:
`src/ide/webview-ui/src/App.tsx` l. 137–168. Kind: L -/
theorem App.click_history (s : AppState) (c : Click) :
    (App.click s c).1.analysisHistory = s.analysisHistory := by
  cases c with
  | analyze =>
    simp only [App.click, App.handleAnalyze]
    split
    · rfl
    · split <;> rfl
  | _ => rfl

/-- Every move only puts truthy replies in front of App's history. Source:
`src/ide/webview-ui/src/App.tsx` l. 91–168. Kind: L -/
theorem Channel.step_history (ch : Channel) (mv : ChannelMove) :
    ∃ pre, (ch.step mv).app.analysisHistory = pre ++ ch.app.analysisHistory ∧
      ∀ r ∈ pre, r.truthy = true := by
  cases mv with
  | click c => exact ⟨[], App.click_history ch.app c, by simp⟩
  | loadGraph => exact ⟨[], by rw [Channel.app_loadGraph]; rfl, by simp⟩
  | hostTakes H => exact ⟨[], by rw [Channel.app_hostTakes]; rfl, by simp⟩
  | hostPosts i => exact ⟨[], by rw [Channel.app_hostPosts]; rfl, by simp⟩
  | deliver =>
    cases hq : ch.toWebview with
    | nil => exact ⟨[], by rw [Channel.step_deliver_nil hq]; rfl, by simp⟩
    | cons m ms => exact Channel.app_deliver hq ▸ App.handleMessage_history ch.app m

/-- **The history only grows**, by truthy replies, over any run. Source:
`src/ide/webview-ui/src/App.tsx` l. 91–168. Kind: L -/
theorem history_grows (moves : List ChannelMove) (ch : Channel) :
    ∃ pre, (moves.foldl Channel.step ch).app.analysisHistory = pre ++ ch.app.analysisHistory ∧
      ∀ r ∈ pre, r.truthy = true :=
  Channel.foldl_inv (fun c => ∃ pre, c.app.analysisHistory = pre ++ ch.app.analysisHistory ∧
      ∀ r ∈ pre, r.truthy = true)
    (fun c mv ⟨pre, hc, hpre⟩ => by
      obtain ⟨pre', hs, hpre'⟩ := Channel.step_history c mv
      refine ⟨pre' ++ pre, by rw [hs, hc, List.append_assoc], fun r hr => ?_⟩
      rcases List.mem_append.mp hr with hr | hr
      exacts [hpre' r hr, hpre r hr])
    moves ⟨[], rfl, by simp⟩

/-- Every reply in the history of a run from the initial state is truthy. Source:
`src/ide/webview-ui/src/App.tsx` l. 84, 99–109. Kind: L -/
theorem history_truthy (moves : List ChannelMove) :
    ∀ r ∈ (moves.foldl Channel.step Channel.initial).app.analysisHistory, r.truthy = true := by
  obtain ⟨pre, h, hpre⟩ := history_grows moves Channel.initial
  rw [h]
  simpa [Channel.initial, AppState.initial] using hpre

/-- **The dashboard in every run.** Whatever the user clicks, the backend answers and the
interleaving, App's history holds only truthy replies, and the dashboard's data of it computes
exactly when none of the vulnerabilities its replies list is `null`; when it computes, the
critical and high counts together stay within the total, and the clean count within the scan
count.
Source: `src/ide/webview-ui/src/App.tsx` l. 89–179
Kind: P -/
theorem dashboard_in_every_run (moves : List ChannelMove) :
    let history := (moves.foldl Channel.step Channel.initial).app.analysisHistory
    (∀ r ∈ history, r.truthy = true) ∧
      ∃ all, allVulnerabilities history = .ok all ∧
        ((∃ d, dashboard history = .ok d) ↔ Json.null ∉ all) ∧
        ∀ d, dashboard history = .ok d →
          d.criticalCount + d.highCount ≤ d.totalCount ∧ d.cleanCount ≤ d.scanCount := by
  intro history
  obtain ⟨all, ha⟩ := allVulnerabilities_ok (history_truthy moves)
  exact ⟨history_truthy moves, all, ha, dashboard_ok_iff ha (countClean_ok (history_truthy moves)),
    fun _ => dashboard_counts⟩

/-- **Down for good.** Once the history holds a reply that lists a `null` vulnerability, the
dashboard's data throws in every later state, whatever the user clicks (Clear included) and the
backend answers: nothing removes a reply from the history. App computes that data on every
render, whichever view it shows, and has no error boundary, so the panel stays blank.
Source: `src/ide/webview-ui/src/App.tsx` l. 99–109, 163–179
Kind: P -/
theorem dashboard_stays_down (moves more : List ChannelMove) {all : List Json}
    (ha : allVulnerabilities (moves.foldl Channel.step Channel.initial).app.analysisHistory =
      .ok all)
    (hn : Json.null ∈ all) :
    ∃ e, dashboard ((moves ++ more).foldl Channel.step Channel.initial).app.analysisHistory =
      .error e := by
  obtain ⟨pre, hh, hpre⟩ := history_grows more (moves.foldl Channel.step Channel.initial)
  obtain ⟨x, hx⟩ := allVulnerabilities_ok hpre
  rw [List.foldl_append]
  have hall := allVulnerabilities_append hx ha
  rw [← hh] at hall
  have ht := history_truthy (moves ++ more)
  rw [List.foldl_append] at ht
  have hdown := fun d hd => (dashboard_ok_iff hall (countClean_ok ht)).mp ⟨d, hd⟩
    (List.mem_append_right _ hn)
  cases hd : dashboard _ with
  | error e => exact ⟨e, rfl⟩
  | ok d => exact absurd hd (hdown d)

/-- A reply that lists a `null` vulnerability, and then a click of Clear: the dashboard's data
still throws. Source: none: a test input. Kind: N+ -/
theorem dashboard_stays_down_null_finding :
    let H : Host := ⟨some ("/w/a.c", "a.c"), fun _ => some (.ok
      (.obj [("status", .str "success"), ("vulnerabilities", .arr [.null])]))⟩
    let moves : List ChannelMove := [.hostTakes H, .click .selectFile, .hostTakes H, .hostPosts 0,
      .deliver, .click .analyze, .hostTakes H, .hostPosts 0, .hostPosts 0, .deliver, .deliver]
    allVulnerabilities (moves.foldl Channel.step Channel.initial).app.analysisHistory =
        .ok [.null] ∧ Json.null ∈ [Json.null] ∧
      ∃ e, dashboard ((moves ++ [ChannelMove.click .clear]).foldl Channel.step
        Channel.initial).app.analysisHistory = .error e :=
  ⟨rfl, List.mem_singleton_self _, dashboard_stays_down _ _ rfl (List.mem_singleton_self _)⟩

end Graphide.Webview
