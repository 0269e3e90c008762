import Mathlib.Data.List.Infix

/-!
# The page the panel loads

Package `Webview`, file 19. `GraphideWebviewProvider.getWebviewHtml` loads the page Vite built
(`base: './'`, so its scripts and styles are at `./assets/...`) and points its asset references
at the folder the webview may read:
`html.replace(/(href|src)="\.\/assets\//g, ...)` with the replacement
`$1="<webviewDistPath>/assets/`. The path is put into the replacement before `replace` reads it,
so `replace` also reads the path's `$`-sequences as its own.

* `getSubstitution` — ECMAScript's `GetSubstitution`: the replacement template read left to right,
  `$$`, `` $` ``, `$&`, `$'`, `$n`, `$nn` and `$<` each for what it names, and any sequence that
  names nothing kept as it is.
* `assetMatch`, `assetMatches`, `replaceAssets` — the regex tried at a position, the matches a
  global `exec` finds, and `RegExp.prototype[@@replace]`'s fold over them: the text between two
  matches kept, each match replaced.
* `getWebviewHtml` — the built page rewritten, or the fallback page when reading it throws.
* `rewriteAssetRefs` — what the rewrite is for: each `href="./assets/` and `src="./assets/`
  made `href="<path>/assets/` (or `src=...`), the rest of the page as it is.
* `foldl_replaceStep`, `getWebviewHtml_rewrites` — **the rewrite is that**, whatever the page, for
  a path with no `$` (`URI.toString` writes `$` as `%24`): `replace`'s fold over the matches, its
  accumulated result and the position it has taken the text up to, builds the rewrite.
* `prefix_of_prefix_rewrite`, `rewriteAssetRefs_no_match`, `getWebviewHtml_leaves_none` — **no
  relative asset reference is left**: for a path with no `"` that does not start with `.`, the
  page loaded has no `href="./assets/` or `src="./assets/` anywhere, not even across the
  boundary of a rewritten reference.

Scope: the page's text as characters; the regex's pattern and the template's `$`-sequences are
ASCII, on which matching code units and matching characters agree.
-/

namespace Graphide.Webview

/-! ## `GetSubstitution` -/

/-- The value of a decimal digit. Source: ECMAScript `StringToNumber` on one digit. Kind: D -/
def digitValue (c : Char) : Nat := c.toNat - '0'.toNat

/-- What `$n` or `$nn` stands for: capture `index` when `1 ≤ index ≤ captures.length` (the empty
string for a capture that did not take part), and otherwise the reference `ref` itself.
Source: ECMAScript `GetSubstitution` step 5.f.viii–ix
Kind: D
Fidelity: exact -/
def captureRef (captures : List (List Char)) (index : Nat) (ref : List Char) : List Char :=
  if 1 ≤ index ∧ index ≤ captures.length then captures.getD (index - 1) [] else ref

/-- What a `$` followed by `c` stands for when `c` is not a digit: `$$` a `$`, `` $` `` the text
before the match, `$&` the match, `$'` the text after it, and, with no named groups, `$<` itself;
`none` when the two characters name nothing.
Source: ECMAScript `GetSubstitution` step 5.b–e, 5.g
Kind: D
Fidelity: exact -/
def symbolRef (matched str : List Char) (position : Nat) (c : Char) : Option (List Char) :=
  if c = '$' then some ['$']
  else if c = Char.ofNat 96 then some (str.take position)
  else if c = '&' then some matched
  else if c = '\'' then some (str.drop (position + matched.length))
  else if c = '<' then some ['$', '<']
  else none

/-- `GetSubstitution(matched, str, position, captures, undefined, template)`: the template read
from the left, each `$`-sequence replaced by what it names (`symbolRef`; `$n` and `$nn` a
capture, a two-digit index above the number of captures read as one digit and a literal
digit), and a `$` that starts no sequence kept.
Source: ECMAScript `GetSubstitution` (ES2023 §22.1.3.19.1)
Kind: D
Fidelity: exact -/
def getSubstitution (matched str : List Char) (position : Nat) (captures : List (List Char)) :
    List Char → List Char
  | [] => []
  | ['$', c] =>
    match symbolRef matched str position c with
    | some r => r
    | none => if c.isDigit then captureRef captures (digitValue c) ['$', c] else ['$', c]
  | '$' :: c :: d :: rest =>
    match symbolRef matched str position c with
    | some r => r ++ getSubstitution matched str position captures (d :: rest)
    | none =>
      if c.isDigit then
        if d.isDigit ∧ 10 * digitValue c + digitValue d ≤ captures.length then
          captureRef captures (10 * digitValue c + digitValue d) ['$', c, d] ++
            getSubstitution matched str position captures rest
        else
          captureRef captures (digitValue c) ['$', c] ++
            getSubstitution matched str position captures (d :: rest)
      else '$' :: getSubstitution matched str position captures (c :: d :: rest)
  | c :: rest => c :: getSubstitution matched str position captures rest

/-- A character other than `$` is copied. Source: ECMAScript `GetSubstitution` step 5.h. Kind: L -/
theorem getSubstitution_cons_of_ne {matched str : List Char} {position : Nat}
    {captures : List (List Char)} {c : Char} (hc : c ≠ '$') (rest : List Char) :
    getSubstitution matched str position captures (c :: rest) =
      c :: getSubstitution matched str position captures rest := by
  conv_lhs => unfold getSubstitution
  split
  · next h => cases h
  · next h => cases h; exact absurd rfl hc
  · next h => cases h; exact absurd rfl hc
  · next h => cases h; rfl

/-- A template with no `$` is its own substitution. Source: none: infrastructure. Kind: L -/
theorem getSubstitution_of_not_mem (matched str : List Char) (position : Nat)
    (captures : List (List Char)) :
    ∀ t : List Char, '$' ∉ t → getSubstitution matched str position captures t = t
  | [] => fun _ => rfl
  | c :: rest => fun h => by
    rw [List.mem_cons, not_or] at h
    rw [getSubstitution_cons_of_ne (Ne.symm h.1),
      getSubstitution_of_not_mem matched str position captures rest h.2]

/-! ## The asset rewrite -/

/-- The text the regex `(href|src)="\.\/assets\/` matches after the attribute's name. Source:
`src/ide/src/vs/workbench/contrib/graphide/browser/graphideWebviewProvider.ts` l. 193. Kind: D -/
def assetRef : List Char := "=\"./assets/".toList

/-- The regex `(href|src)="\.\/assets\/` tried at the start of `s`: its capture, the attribute's
name, when it matches (the alternatives cannot both match at one position).
Source: `src/ide/src/vs/workbench/contrib/graphide/browser/graphideWebviewProvider.ts` l. 193
Kind: D
Fidelity: exact -/
def assetMatch (s : List Char) : Option (List Char) :=
  if ("href".toList ++ assetRef).isPrefixOf s then some "href".toList
  else if ("src".toList ++ assetRef).isPrefixOf s then some "src".toList
  else none

/-- The matches a global `exec` finds from position `i` on, each its position and capture, when
the last match ends `skip` characters on: the search goes on from the end of each match.
Source: ECMAScript `RegExp.prototype[@@replace]` steps 11–12, `RegExpBuiltinExec`
Kind: D
Fidelity: exact -/
def assetMatches : Nat → Nat → List Char → List (Nat × List Char)
  | _, _, [] => []
  | i, skip + 1, _ :: rest => assetMatches (i + 1) skip rest
  | i, 0, s@(_ :: rest) =>
    match assetMatch s with
    | some g => (i, g) :: assetMatches (i + 1) (g.length + assetRef.length - 1) rest
    | none => assetMatches (i + 1) 0 rest

/-- One match taken into the result: the text from the end of the last match to this one, then
the match's substitution; `nextSourcePosition` moves to the end of the match.
Source: ECMAScript `RegExp.prototype[@@replace]` step 14
Kind: D
Fidelity: exact -/
def replaceStep (str template : List Char) (st : List Char × Nat) (m : Nat × List Char) :
    List Char × Nat :=
  if st.2 ≤ m.1 then
    (st.1 ++ (str.drop st.2).take (m.1 - st.2) ++
        getSubstitution (m.2 ++ assetRef) str m.1 [m.2] template,
      m.1 + m.2.length + assetRef.length)
  else st

/-- `str.replace(/(href|src)="\.\/assets\//g, template)`.
Source: ECMAScript `RegExp.prototype[@@replace]` steps 14–16
Kind: D
Fidelity: exact -/
def replaceAssets (str template : List Char) : List Char :=
  let st := (assetMatches 0 0 str).foldl (replaceStep str template) ([], 0)
  st.1 ++ str.drop st.2

/-- The page shown when the built page cannot be read: a note to build the webview.
Source: `src/ide/src/vs/workbench/contrib/graphide/browser/graphideWebviewProvider.ts` l. 202–228
Kind: D
Fidelity: exact -/
def getFallbackHtml : List Char :=
  ("<!DOCTYPE html>\n<html lang=\"en\">\n<head>\n\t<meta charset=\"UTF-8\">\n" ++
    "\t<meta name=\"viewport\" content=\"width=device-width, initial-scale=1.0\">\n\t<style>\n" ++
    "\t\tbody \x7b\n\t\t\tfont-family: var(--vscode-font-family, sans-serif);\n" ++
    "\t\t\tbackground: var(--vscode-sideBar-background, #1e1e1e);\n" ++
    "\t\t\tcolor: var(--vscode-foreground, #ccc);\n" ++
    "\t\t\tdisplay: flex; align-items: center; justify-content: center;\n" ++
    "\t\t\theight: 100vh; margin: 0;\n\t\t\x7d\n" ++
    "\t\t.msg \x7b text-align: center; opacity: 0.7; \x7d\n" ++
    "\t\t.msg h2 \x7b font-size: 16px; margin-bottom: 8px; \x7d\n" ++
    "\t\t.msg p \x7b font-size: 13px; \x7d\n\t</style>\n</head>\n<body>\n" ++
    "\t<div class=\"msg\">\n\t\t<h2>Webview build not found</h2>\n" ++
    "\t\t<p>Run <code>npm run build:webview</code> in webview-ui/</p>\n\t</div>\n</body>\n" ++
    "</html>").toList

/-- The replacement `getWebviewHtml` gives `replace`, once its template literal is evaluated:
`$1="${webviewDistPath}/assets/`.
Source: `src/ide/src/vs/workbench/contrib/graphide/browser/graphideWebviewProvider.ts` l. 193
Kind: D
Fidelity: exact -/
def assetTemplate (webviewDistPath : List Char) : List Char :=
  "$1=\"".toList ++ webviewDistPath ++ "/assets/".toList

/-- `getWebviewHtml`: `indexHtml` is the text of the built `index.html`, `none` when reading it
throws, and `webviewDistPath` is `asWebviewUri(distUri).toString()`.
Source: `src/ide/src/vs/workbench/contrib/graphide/browser/graphideWebviewProvider.ts` l. 183–200
Kind: D
Fidelity: exact -/
def getWebviewHtml (indexHtml : Option (List Char)) (webviewDistPath : List Char) : List Char :=
  match indexHtml with
  | some html => replaceAssets html (assetTemplate webviewDistPath)
  | none => getFallbackHtml

/-! ## What the rewrite is for -/

/-- Each asset reference `href="./assets/` or `src="./assets/` of the page made to point into
`path`, and the rest of the page as it is.
Source: the comment at
`src/ide/src/vs/workbench/contrib/graphide/browser/graphideWebviewProvider.ts` l. 190
Kind: D -/
def rewriteAssetRefs (path : List Char) : List Char → List Char
  | [] => []
  | s@(c :: rest) =>
    match assetMatch s with
    | some g => g ++ "=\"".toList ++ path ++ "/assets/".toList ++
        rewriteAssetRefs path (rest.drop (g.length + assetRef.length - 1))
    | none => c :: rewriteAssetRefs path rest
termination_by s => s.length
decreasing_by all_goals (simp_wf; try omega)

/-- The rewrite of a page that starts with a match, and of one that does not. Source: none:
infrastructure. Kind: L -/
theorem rewriteAssetRefs_of_match (path : List Char) {c : Char} {rest g : List Char}
    (h : assetMatch (c :: rest) = some g) :
    rewriteAssetRefs path (c :: rest) = g ++ "=\"".toList ++ path ++ "/assets/".toList ++
      rewriteAssetRefs path (rest.drop (g.length + assetRef.length - 1)) := by
  rw [rewriteAssetRefs, h]

/-- Where the regex does not match, the character is kept. Source:
`src/ide/src/vs/workbench/contrib/graphide/browser/graphideWebviewProvider.ts` l. 193. Kind: L -/
theorem rewriteAssetRefs_of_none (path : List Char) {c : Char} {rest : List Char}
    (h : assetMatch (c :: rest) = none) :
    rewriteAssetRefs path (c :: rest) = c :: rewriteAssetRefs path rest := by
  rw [rewriteAssetRefs, h]

/-! ## The rewrite is that -/

/-- For a path with no `$`, the replacement of a match is the attribute's name and the path's
assets folder. Source:
`src/ide/src/vs/workbench/contrib/graphide/browser/graphideWebviewProvider.ts`
l. 193. Kind: L -/
theorem getSubstitution_assetTemplate (matched str : List Char) (position : Nat)
    (g path : List Char) (hp : '$' ∉ path) :
    getSubstitution matched str position [g] (assetTemplate path) =
      g ++ "=\"".toList ++ path ++ "/assets/".toList := by
  have hrest : '$' ∉ '=' :: '"' :: (path ++ "/assets/".toList) := by
    simp only [List.mem_cons, List.mem_append, not_or]
    exact ⟨by decide, by decide, hp, by decide⟩
  show getSubstitution matched str position [g]
    ('$' :: '1' :: '=' :: '"' :: (path ++ "/assets/".toList)) = _
  rw [getSubstitution, getSubstitution_of_not_mem _ _ _ _ _ hrest]
  simp [symbolRef, captureRef, digitValue]

/-- The text between the last match's end and position `i + 1` is that up to `i`, then the
character at `i`. Source: none: infrastructure. Kind: L -/
theorem take_drop_add_one {str rest : List Char} {c : Char} {i next : Nat} (h : next ≤ i)
    (hs : str.drop i = c :: rest) :
    (str.drop next).take (i + 1 - next) = (str.drop next).take (i - next) ++ [c] := by
  have hc : (str.drop next)[i - next]? = some c := by
    rw [List.getElem?_drop, Nat.add_sub_cancel' h, ← Nat.add_zero i, ← List.getElem?_drop, hs,
      List.getElem?_cons_zero]
  rw [show i + 1 - next = i - next + 1 by omega, List.take_succ, hc]
  rfl

section Fold

variable (str path : List Char) (hp : '$' ∉ path)
include hp

/-- **The fold of `replace`.** From position `i` on, with the result built so far `acc` and the
last match ending at `next` (`skip` characters on, while `i` is inside that match), the fold over
the matches left gives `acc`, the text from `next` to `i` not yet taken, and the rewrite of the
rest. Source: ECMAScript `RegExp.prototype[@@replace]` steps 11–16. Kind: L -/
theorem foldl_replaceStep : ∀ (s : List Char) (i skip : Nat) (acc : List Char) (next : Nat),
    str.drop i = s → (skip = 0 → next ≤ i) → (0 < skip → next = i + skip) →
      ((assetMatches i skip s).foldl (replaceStep str (assetTemplate path)) (acc, next)).1 ++
          str.drop ((assetMatches i skip s).foldl (replaceStep str (assetTemplate path))
            (acc, next)).2 =
        acc ++ (if skip = 0 then (str.drop next).take (i - next) else []) ++
          rewriteAssetRefs path (s.drop skip)
  | [], i, skip, acc, next, hs, h0, hpos => by
    have hlen : str.length ≤ i := by
      have := congrArg List.length hs
      rw [List.length_drop, List.length_nil] at this
      omega
    cases skip with
    | zero =>
      have := h0 rfl
      rw [List.take_of_length_le (by rw [List.length_drop]; omega)]
      simp [assetMatches, rewriteAssetRefs]
    | succ k =>
      have hd : str.drop next = [] :=
        List.drop_of_length_le (by have := hpos (Nat.succ_pos k); omega)
      simp [assetMatches, rewriteAssetRefs, hd]
  | c :: rest, i, skip + 1, acc, next, hs, _, hpos => by
    have hs' : str.drop (i + 1) = rest := by rw [← List.drop_drop, hs]; rfl
    have hnext := hpos (Nat.succ_pos skip)
    rw [assetMatches, foldl_replaceStep rest (i + 1) skip acc next hs' (fun _ => by omega)
      (fun _ => by omega)]
    cases skip with
    | zero => simp [show i + 1 - next = 0 by omega]
    | succ k => simp
  | c :: rest, i, 0, acc, next, hs, h0, _ => by
    have hni := h0 rfl
    have hs' : str.drop (i + 1) = rest := by rw [← List.drop_drop, hs]; rfl
    cases hm : assetMatch (c :: rest) with
    | none =>
      rw [assetMatches, hm, foldl_replaceStep rest (i + 1) 0 acc next hs' (fun _ => by omega)
        (fun h => absurd h (Nat.lt_irrefl 0)), take_drop_add_one hni hs, List.drop_zero,
        List.drop_zero, rewriteAssetRefs_of_none path hm]
      simp
    | some g =>
      have hstep : replaceStep str (assetTemplate path) (acc, next) (i, g) =
          (acc ++ (str.drop next).take (i - next) ++
              (g ++ "=\"".toList ++ path ++ "/assets/".toList),
            i + g.length + assetRef.length) := by
        rw [replaceStep, if_pos hni, getSubstitution_assetTemplate _ _ _ _ _ hp]
      have hlen : assetRef.length = 11 := rfl
      rw [assetMatches, hm, List.foldl_cons, hstep,
        foldl_replaceStep rest (i + 1) (g.length + assetRef.length - 1) _ _ hs'
          (fun _ => by omega) (fun _ => by omega), List.drop_zero,
        rewriteAssetRefs_of_match path hm]
      simp [hlen]

end Fold

/-- `replace` with the template of a path with no `$` is the rewrite. Source:
`src/ide/src/vs/workbench/contrib/graphide/browser/graphideWebviewProvider.ts` l. 193. Kind: L -/
theorem replaceAssets_assetTemplate (html path : List Char) (hp : '$' ∉ path) :
    replaceAssets html (assetTemplate path) = rewriteAssetRefs path html := by
  have := foldl_replaceStep html path hp html 0 0 [] 0 rfl (fun _ => le_rfl)
    (fun h => absurd h (Nat.lt_irrefl 0))
  simpa [replaceAssets] using this

/-- **The rewrite is that.** Whatever the built page, for a path with no `$`, the page
`getWebviewHtml` loads is the built page with each `href="./assets/` and `src="./assets/` made
to point into the path, and the rest as it is (`URI.toString`, outside the repository, writes
`$` as `%24`).
Source: `src/ide/src/vs/workbench/contrib/graphide/browser/graphideWebviewProvider.ts` l. 183–200
Kind: P -/
theorem getWebviewHtml_rewrites (html webviewDistPath : List Char) (hp : '$' ∉ webviewDistPath) :
    getWebviewHtml (some html) webviewDistPath = rewriteAssetRefs webviewDistPath html :=
  replaceAssets_assetTemplate html webviewDistPath hp

/-- A page with a script and a style sheet, and the path of a dist folder. Source: none: a test
input. Kind: N+ -/
theorem getWebviewHtml_rewrites_index :
    let html := "<script src=\"./assets/index.js\"></script><link href=\"./assets/index.css\">".toList
    let path := "https://file+.vscode-resource.vscode-cdn.net/app/webview-ui/dist".toList
    '$' ∉ path ∧ getWebviewHtml (some html) path = rewriteAssetRefs path html :=
  ⟨by decide, getWebviewHtml_rewrites _ _ (by decide)⟩

/-! ## No relative asset reference is left -/

/-- The two texts the regex matches. Source:
`src/ide/src/vs/workbench/contrib/graphide/browser/graphideWebviewProvider.ts` l. 193. Kind: D -/
def hrefRef : List Char := "href".toList ++ assetRef

/-- The second of the two texts the regex matches. Source:
`src/ide/src/vs/workbench/contrib/graphide/browser/graphideWebviewProvider.ts` l. 193. Kind: D -/
def srcRef : List Char := "src".toList ++ assetRef

/-- The attributes' names the regex captures. Source:
`src/ide/src/vs/workbench/contrib/graphide/browser/graphideWebviewProvider.ts` l. 193. Kind: D -/
def assetTags : List (List Char) := ["href".toList, "src".toList]

/-- The regex does not match at the start of `x` exactly when neither text starts it. Source:
none: infrastructure. Kind: L -/
theorem assetMatch_eq_none {x : List Char} :
    assetMatch x = none ↔ ¬ hrefRef <+: x ∧ ¬ srcRef <+: x := by
  unfold assetMatch
  split_ifs with h1 h2 <;> simp_all [List.isPrefixOf_iff_prefix, hrefRef, srcRef]

/-- A match captures one of the two attribute names. Source:
`src/ide/src/vs/workbench/contrib/graphide/browser/graphideWebviewProvider.ts` l. 193. Kind: L -/
theorem assetMatch_mem_tags {x g : List Char} (h : assetMatch x = some g) : g ∈ assetTags := by
  unfold assetMatch at h
  split_ifs at h <;> cases h <;> decide

/-- What is left of a text the regex matches once its first `t ≥ 1` characters are dropped is
no start of an attribute's name and `="`, and does not start with one. Source: none:
infrastructure. Kind: L -/
theorem drop_ref_incomparable : ∀ p ∈ [hrefRef, srcRef], ∀ t < p.length, 1 ≤ t → ∀ g ∈ assetTags,
    ¬ (p.drop t <+: g ++ "=\"".toList) ∧ ¬ (g ++ "=\"".toList <+: p.drop t) := by decide

/-- **Reflection.** What is left of a text the regex matches, once its first `t ≥ 1` characters
are dropped, starts the rewrite of `s` only if it starts `s`: no rewritten reference begins
inside it. Source: none: infrastructure. Kind: L -/
theorem prefix_of_prefix_rewrite (path : List Char) {p : List Char} (hp : p ∈ [hrefRef, srcRef]) :
    ∀ s t, 1 ≤ t → p.drop t <+: rewriteAssetRefs path s → p.drop t <+: s := by
  intro s
  refine rewriteAssetRefs.induct path (motive := fun s => ∀ t, 1 ≤ t →
    p.drop t <+: rewriteAssetRefs path s → p.drop t <+: s) ?_ ?_ ?_ s
  · intro t _ h
    rw [rewriteAssetRefs, List.prefix_nil] at h
    rw [h]
  · intro c rest g hm _ t ht h
    by_cases hlt : t < p.length
    · have hg : g ++ "=\"".toList <+: rewriteAssetRefs path (c :: rest) := by
        rw [rewriteAssetRefs_of_match path hm]
        simp only [List.append_assoc]
        exact (List.prefix_append_right_inj g).mpr (List.prefix_append _ _)
      have := drop_ref_incomparable p hp t hlt ht g (assetMatch_mem_tags hm)
      exact absurd (List.prefix_or_prefix_of_prefix h hg) (by tauto)
    · rw [List.drop_of_length_le (Nat.le_of_not_lt hlt)]
      exact List.nil_prefix
  · intro c rest hm ih t ht h
    by_cases hlt : t < p.length
    · rw [List.drop_eq_getElem_cons hlt, rewriteAssetRefs_of_none path hm,
        List.cons_prefix_cons] at h
      rw [List.drop_eq_getElem_cons hlt, List.cons_prefix_cons]
      exact ⟨h.1, ih (t + 1) (by omega) h.2⟩
    · rw [List.drop_of_length_le (Nat.le_of_not_lt hlt)]
      exact List.nil_prefix

/-- The facts the proof below reads off the texts themselves: a matched text is longer than an
attribute's name and `="`, and has its `"` among its first six characters; an attribute's name
and `="` starts a matched text only as that text's own; and no proper end of an attribute's name
and `="`, nor any end of `/assets/`, is comparable with a matched text. Source: none:
infrastructure. Kind: L -/
theorem ref_facts : ∀ p ∈ [hrefRef, srcRef],
    6 < p.length ∧ '"' ∈ p.take 6 ∧
    (∀ g ∈ assetTags, g ++ "=\"".toList <+: p → p = g ++ "=\"".toList ++ "./assets/".toList) ∧
    (∀ g ∈ assetTags, ∀ i < (g ++ "=\"".toList).length, 1 ≤ i →
      ¬ p <+: (g ++ "=\"".toList).drop i ∧ ¬ (g ++ "=\"".toList).drop i <+: p) ∧
    (∀ m < 8, ¬ p <+: "/assets/".toList.drop m ∧ ¬ "/assets/".toList.drop m <+: p) := by decide

/-- What neither starts nor is started by `a` does not start `a ++ z`. Source: none: infrastructure.
Kind: L -/
theorem not_prefix_append {p a z : List Char} (h : ¬ p <+: a ∧ ¬ a <+: p) : ¬ p <+: a ++ z :=
  fun hp => (List.prefix_or_prefix_of_prefix hp (List.prefix_append a z)).elim h.1 h.2

/-- No matched text starts in a path with no `"`, at any position of it. Source: none:
infrastructure. Kind: L -/
theorem not_prefix_path_assets {path : List Char} (hq : '"' ∉ path) {p : List Char}
    (hp : p ∈ [hrefRef, srcRef]) (j : Nat) (Y : List Char) :
    ¬ p <+: path.drop j ++ ("/assets/".toList ++ Y) := by
  intro h
  obtain ⟨h6, hquote, -⟩ := ref_facts p hp
  have hW : p.take 6 <+: path.drop j ++ "/assets/".toList := by
    rw [← List.append_assoc] at h
    refine List.prefix_of_prefix_length_le ((List.take_prefix 6 p).trans h)
      (List.prefix_append _ _) ?_
    simp only [List.length_take, List.length_append]
    exact (min_le_left _ _).trans (by decide : 6 ≤ "/assets/".toList.length)
      |>.trans (Nat.le_add_left _ _)
  rcases List.mem_append.mp (hW.subset hquote) with hm | hm
  · exact hq (List.mem_of_mem_drop hm)
  · exact absurd hm (by decide)

/-- A matched text that starts a rewritten reference of the same attribute makes the path start
with `.`. Source: none: infrastructure. Kind: L -/
theorem dot_head_of_rewritten_match {path Y : List Char}
    (h : "./assets/".toList <+: path ++ ("/assets/".toList ++ Y)) : path.head? = some '.' := by
  cases path with
  | nil =>
    rw [List.nil_append, show "./assets/".toList = '.' :: "/assets/".toList from rfl,
      show "/assets/".toList = '/' :: "assets/".toList from rfl, List.cons_append,
      List.cons_prefix_cons] at h
    exact absurd h.1 (by decide)
  | cons b B =>
    rw [List.cons_append, show "./assets/".toList = '.' :: "/assets/".toList from rfl,
      List.cons_prefix_cons] at h
    rw [← h.1]
    rfl

/-- **No match starts inside a rewritten reference**, whatever follows it: not at its start (the
path does not start with `.`), not inside the attribute's name and `="`, not inside the path
(which has no `"`), and not inside `/assets/`. Source: none: infrastructure. Kind: L -/
theorem not_prefix_rewritten {path : List Char} (hq : '"' ∉ path) (hd : path.head? ≠ some '.')
    {g p : List Char} (hg : g ∈ assetTags) (hp : p ∈ [hrefRef, srcRef]) (Y : List Char) {i : Nat}
    (hi : i < (g ++ "=\"".toList).length + path.length + 8) :
    ¬ p <+: ((g ++ "=\"".toList) ++ (path ++ ("/assets/".toList ++ Y))).drop i := by
  obtain ⟨hlong, -, hattr, hinner, hassets⟩ := ref_facts p hp
  intro h
  rcases Nat.lt_or_ge i (g ++ "=\"".toList).length with hA | hA
  · rw [List.drop_append_of_le_length hA.le] at h
    rcases Nat.eq_zero_or_pos i with rfl | hi0
    · rw [List.drop_zero] at h
      have hshort := (by decide : ∀ g ∈ assetTags, (g ++ "=\"".toList).length ≤ 6) g hg
      have hpre : g ++ "=\"".toList <+: p :=
        (List.prefix_or_prefix_of_prefix h (List.prefix_append _ _)).resolve_left
          fun h' => by have := h'.length_le; omega
      rw [hattr g hg hpre, List.prefix_append_right_inj] at h
      exact hd (dot_head_of_rewritten_match h)
    · exact not_prefix_append (hinner g hg i hA hi0) h
  · rw [List.drop_append_eq_append_drop, List.drop_eq_nil_of_le hA, List.nil_append] at h
    rcases Nat.lt_or_ge (i - (g ++ "=\"".toList).length) path.length with hP | hP
    · rw [List.drop_append_of_le_length hP.le] at h
      exact not_prefix_path_assets hq hp _ _ h
    · rw [List.drop_append_eq_append_drop, List.drop_eq_nil_of_le hP, List.nil_append,
        List.drop_append_of_le_length
          (by rw [show "/assets/".toList.length = 8 from rfl]; omega)] at h
      exact not_prefix_append (hassets _ (by omega)) h

/-- The rewrite leaves no match: for a path with no `"` that does not start with `.`, no text
the regex matches starts anywhere in the rewritten page. Source: none: what the rewrite is for.
Kind: L -/
theorem rewriteAssetRefs_no_match (path : List Char) (hq : '"' ∉ path) (hd : path.head? ≠ some '.')
    (s : List Char) : ∀ i, ∀ p ∈ [hrefRef, srcRef], ¬ p <+: (rewriteAssetRefs path s).drop i := by
  refine rewriteAssetRefs.induct path (motive := fun s =>
    ∀ i, ∀ p ∈ [hrefRef, srcRef], ¬ p <+: (rewriteAssetRefs path s).drop i) ?_ ?_ ?_ s
  · intro i p hp h
    rw [rewriteAssetRefs, List.drop_nil, List.prefix_nil] at h
    exact absurd (h ▸ (ref_facts p hp).1) (by decide)
  · intro c rest g hm ih i p hp
    rw [rewriteAssetRefs_of_match path hm]
    simp only [List.append_assoc]
    rw [← List.append_assoc g]
    by_cases hi : i < (g ++ "=\"".toList).length + path.length + 8
    · exact not_prefix_rewritten hq hd (assetMatch_mem_tags hm) hp _ hi
    · obtain ⟨k, rfl⟩ := Nat.exists_eq_add_of_le (Nat.le_of_not_lt hi)
      rw [Nat.add_assoc, Nat.add_assoc, show 8 = "/assets/".toList.length from rfl,
        List.drop_append, List.drop_append, List.drop_append]
      exact ih k p hp
  · intro c rest hm ih i p hp h
    rw [rewriteAssetRefs_of_none path hm] at h
    cases i with
    | zero =>
      have hlen : 0 < p.length := by have := (ref_facts p hp).1; omega
      have hcons : p = p[0] :: p.drop 1 := by rw [← List.drop_eq_getElem_cons hlen, List.drop_zero]
      rw [List.drop_zero, hcons, List.cons_prefix_cons] at h
      have hpre : p <+: c :: rest := by
        rw [hcons, List.cons_prefix_cons]
        exact ⟨h.1, prefix_of_prefix_rewrite path hp rest 1 le_rfl h.2⟩
      have hnone := assetMatch_eq_none.mp hm
      rcases List.mem_cons.mp hp with rfl | hp'
      · exact hnone.1 hpre
      · rw [List.mem_singleton.mp hp'] at hpre
        exact hnone.2 hpre
    | succ j => exact ih j p hp (by simpa using h)

/-- **No relative asset reference is left.** Whatever the built page, for a path with no `$` or
`"` that does not start with `.` (as `URI.toString` writes a webview URI), the regex matches
nowhere in the page `getWebviewHtml` loads: every asset reference was made to point into the
path, and no rewritten one, with the text around it, makes a new one.
Source: `src/ide/src/vs/workbench/contrib/graphide/browser/graphideWebviewProvider.ts` l. 183–200
Kind: P -/
theorem getWebviewHtml_leaves_none (html webviewDistPath : List Char) (hp : '$' ∉ webviewDistPath)
    (hq : '"' ∉ webviewDistPath) (hd : webviewDistPath.head? ≠ some '.') (i : Nat) :
    assetMatch ((getWebviewHtml (some html) webviewDistPath).drop i) = none := by
  have h := rewriteAssetRefs_no_match webviewDistPath hq hd html i
  rw [getWebviewHtml, replaceAssets_assetTemplate html webviewDistPath hp]
  exact assetMatch_eq_none.mpr ⟨h _ (List.mem_cons_self _ _), h _ (by simp)⟩

/-- The same page: its rewrite has no match from its first character on. Source: none: a test input.
Kind: N+ -/
theorem getWebviewHtml_leaves_none_index :
    let html := "<script src=\"./assets/index.js\"></script><link href=\"./assets/index.css\">".toList
    let path := "https://file+.vscode-resource.vscode-cdn.net/app/webview-ui/dist".toList
    '$' ∉ path ∧ '"' ∉ path ∧ path.head? ≠ some '.' ∧
      assetMatch ((getWebviewHtml (some html) path).drop 0) = none :=
  ⟨by decide, by decide, by decide,
    getWebviewHtml_leaves_none _ _ (by decide) (by decide) (by decide) 0⟩

end Graphide.Webview
