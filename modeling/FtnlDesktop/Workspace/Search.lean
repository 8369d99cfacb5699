import FtnlDesktop.Core.Casing
import FtnlDesktop.Workspace.Effect
import FtnlDesktop.Core.Run

/-!
# Literal matches in a search

`visible_items` compares the lower case of the query with the lower case of each text.  That makes
the search case-insensitive, and it should never lose an item whose text contains the query as it
was typed.  It does when the query has a capital sigma that its surroundings in the text decide:
`ΟΔΟΣ` lower-cases to `οδος`, and `ΟΔΟΣΑ` to `οδοσα`.

* **`search_never_misses_iff`** — literal matches of a query are found in every workspace, and in
  every reachable one, exactly when the query settles its own sigmas.
* **`search_misses_sigma`** — an item with the text `ΟΔΟΣΑ` is hidden by the query `ΟΔΟΣ`.
-/

namespace FtnlDesktop

open Casing Machine

variable {t : CaseTables} {sha256 : Bytes → Digest} {w : ClipboardWorkspace}

/-- The text contains the query verbatim. -/
def ClipboardItem.contains (item : ClipboardItem) (query : String) : Bool :=
  decide (query.toList <:+: item.text.toList)

/-- All items, the pinned ones first, each group in the order of the list. -/
def ClipboardWorkspace.pinnedFirst (w : ClipboardWorkspace) : List ClipboardItem :=
  (w.items.filter fun item => item.isPinned) ++ w.items.filter fun item => !item.isPinned

/-- The items whose text contains the query verbatim are all visible, each as often as it is stored;
and what is visible is in order, the pinned items first. -/
structure NeverMisses (t : CaseTables) (w : ClipboardWorkspace) : Prop where
  found : (visibleItems t.toLowercase w).filter (fun item => item.contains w.searchQuery)
    = w.pinnedFirst.filter fun item => item.contains w.searchQuery
  ordered : (visibleItems t.toLowercase w).Sublist w.pinnedFirst

/-! ## What is visible -/

lemma visibleItems_eq (toLowercase : String → String) (w : ClipboardWorkspace) :
    visibleItems toLowercase w
      = w.pinnedFirst.filter (matchesQuery toLowercase (toLowercase w.searchQuery)) := by
  rw [ClipboardWorkspace.pinnedFirst, List.filter_append]
  rfl

lemma matchesQuery_toLowercase {query : String} {item : ClipboardItem} :
    matchesQuery t.toLowercase (t.toLowercase query) item = true ↔
      t.lower query.toList = [] ∨ t.lower query.toList <:+: t.lower item.text.toList := by
  simp [matchesQuery, CaseTables.toLowercase, String.isEmpty_iff]

/-- A query that settles its sigmas matches wherever it occurs. -/
lemma matchesQuery_of_contains {query : String} (h : t.SettlesSigmas query.toList)
    {item : ClipboardItem} (hcontains : item.contains query = true) :
    matchesQuery t.toLowercase (t.toLowercase query) item = true :=
  matchesQuery_toLowercase.mpr
    (Or.inr (CaseTables.lower_infix_of_settlesSigmas h (of_decide_eq_true hcontains)))

/-- Literal matches are found when all of them match in lower case. -/
lemma neverMisses_of_forall (h : ∀ item ∈ w.items, item.contains w.searchQuery = true →
    matchesQuery t.toLowercase (t.toLowercase w.searchQuery) item = true) : NeverMisses t w := by
  refine ⟨?_, ?_⟩
  · rw [visibleItems_eq, List.filter_filter]
    refine List.filter_congr fun item hmem => ?_
    rw [Bool.and_eq_left_iff_imp]
    refine h item ?_
    rcases List.mem_append.mp hmem with hmem | hmem
    · exact List.mem_of_mem_filter hmem
    · exact List.mem_of_mem_filter hmem
  · rw [visibleItems_eq]
    exact List.filter_sublist

/-- A workspace of one item that is hidden although its text contains the query. -/
lemma not_neverMisses {item : ClipboardItem} (hitems : w.items = [item])
    (hcontains : item.contains w.searchQuery = true)
    (hhidden : matchesQuery t.toLowercase (t.toLowercase w.searchQuery) item = false) :
    ¬ NeverMisses t w := by
  intro h
  have hfirst : w.pinnedFirst = [item] := by
    rw [ClipboardWorkspace.pinnedFirst, hitems]
    cases hpin : item.isPinned with
    | true => simp [hpin]
    | false => simp [hpin]
  have hfound := h.found
  rw [visibleItems_eq, hfirst] at hfound
  simp [hcontains, hhidden] at hfound

/-! ## A reachable workspace with a given query and text -/

/-- Capture is resumed, the query is set, and the text is captured. -/
def searchRun (sha256 : Bytes → Digest) (query text : String) : List Request :=
  [⟨1, 0, .ResumeCapture, 0⟩, ⟨2, 1, .SetSearch query, 0⟩,
   ⟨3, 2, .IngestText 1 text (contentSha256Hex sha256 text) text.utf8ByteSize 0 none, 0⟩]

/-- The item that `searchRun` stores. -/
def searchRunItem (sha256 : Bytes → Digest) (text : String) : ClipboardItem :=
  { itemId := 1, text, contentSha256 := contentSha256Hex sha256 text
    byteSize := text.utf8ByteSize, capturedAt := 0, isPinned := false, sourceFingerprint := none }

/-- A short text is accepted. -/
lemma wellFormedContent_of_length (sha256 : Bytes → Digest) {text : String} (hne : text ≠ "")
    (hlength : text.length ≤ MAX_SEARCH_CHARACTERS + 1) :
    WellFormedContent sha256 text (contentSha256Hex sha256 text) text.utf8ByteSize none where
  nonempty := by simpa using hne
  characters := hlength.trans (by decide)
  bytes := by
    have hbytes := utf8ByteSize_ofList_le text.toList
    rw [String.ofList_toList, String.length_toList] at hbytes
    rw [MAX_SEARCH_CHARACTERS] at hlength
    rw [MAX_TEXT_BYTES]
    omega
  byteSize_eq := rfl
  digest_eq := rfl
  fingerprint := by simp

/-- A single item captured just now is not evicted. -/
lemma retained_searchRunItem (sha256 : Bytes → Digest) (text : String) :
    retained RetentionPolicy.default 0 [searchRunItem sha256 text]
      = [searchRunItem sha256 text] := by
  refine retained_eq_self ?_ ?_
  · intro item hmem
    rw [List.mem_singleton.mp hmem]
    exact isFresh_of_le le_rfl
  · exact List.countP_le_length.trans (show 1 ≤ RetentionPolicy.default.maxItems by decide)

lemma exec_searchRun (sha256 : Bytes → Digest) {query text : String}
    (hquery : query.length ≤ MAX_SEARCH_CHARACTERS) (hne : text ≠ "")
    (hlength : text.length ≤ MAX_SEARCH_CHARACTERS + 1) :
    exec (serve sha256) .default (searchRun sha256 query text) =
      { ClipboardWorkspace.default with
        revision := 3
        captureState := .Active
        searchQuery := query
        items := [searchRunItem sha256 text]
        processedCommands := [1, 2, 3] } := by
  have hcontent := wellFormedContent_of_length sha256 hne hlength
  have hresume : serve sha256 .default ⟨1, 0, .ResumeCapture, 0⟩ =
      { ClipboardWorkspace.default with
        revision := 1, captureState := .Active, processedCommands := [1] } :=
    (serve_of_effect (show (1 : Uuid) ∉ [] by decide) rfl (show 0 < MAX_REVISION by decide)
      Effect.resume).trans rfl
  have hsearch : serve sha256 { ClipboardWorkspace.default with
        revision := 1, captureState := .Active, processedCommands := [1] }
        ⟨2, 1, .SetSearch query, 0⟩ =
      { ClipboardWorkspace.default with
        revision := 2, captureState := .Active, searchQuery := query
        processedCommands := [1, 2] } :=
    (serve_of_effect (show (2 : Uuid) ∉ [1] by decide) rfl (show 1 < MAX_REVISION by decide)
      (Effect.search hquery)).trans rfl
  have hingest : serve sha256 { ClipboardWorkspace.default with
        revision := 2, captureState := .Active, searchQuery := query
        processedCommands := [1, 2] }
        ⟨3, 2, .IngestText 1 text (contentSha256Hex sha256 text) text.utf8ByteSize 0 none, 0⟩ =
      { ClipboardWorkspace.default with
        revision := 3, captureState := .Active, searchQuery := query
        items := retained RetentionPolicy.default 0 [searchRunItem sha256 text]
        processedCommands := [1, 2, 3] } :=
    (serve_of_effect (show (3 : Uuid) ∉ [1, 2] by decide) rfl (show 2 < MAX_REVISION by decide)
      (Effect.insert ⟨rfl, hcontent, by simp⟩ rfl)).trans rfl
  rw [searchRun, exec_cons, hresume, exec_cons, hsearch, exec_cons, hingest, exec_nil,
    retained_searchRunItem]

/-! ## Which queries never miss -/

/-- **Literal matches.**  For an accepted query the following agree: every workspace with this
query shows all items whose text contains it verbatim; every reachable workspace does; the query
settles its own sigmas. -/
theorem search_never_misses_iff (t : CaseTables) (hletter : t.IsPlainLetter 'A' 'a')
    (sha256 : Bytes → Digest) (query : String) (hquery : query.length ≤ MAX_SEARCH_CHARACTERS) :
    ((∀ w : ClipboardWorkspace, w.searchQuery = query → NeverMisses t w) ↔
      t.SettlesSigmas query.toList) ∧
    ((∀ rs, (exec (serve sha256) .default rs).searchQuery = query →
        NeverMisses t (exec (serve sha256) .default rs)) ↔
      t.SettlesSigmas query.toList) := by
  have hfound : t.SettlesSigmas query.toList →
      ∀ w : ClipboardWorkspace, w.searchQuery = query → NeverMisses t w := by
    rintro hsettles w rfl
    exact neverMisses_of_forall fun item _ hcontains => matchesQuery_of_contains hsettles hcontains
  have hsettled : (∀ rs, (exec (serve sha256) .default rs).searchQuery = query →
      NeverMisses t (exec (serve sha256) .default rs)) → t.SettlesSigmas query.toList := by
    intro hreachable
    by_contra hnot
    -- a text that is the query with one letter next to it
    have hmiss : ∀ text : List Char, query.toList <:+: text →
        text.length = query.toList.length + 1 →
        ¬ t.lower query.toList <:+: t.lower text → False := by
      intro text hwithin hlength hhidden
      have hne : String.ofList text ≠ "" := by
        intro hempty
        have hnil : text = [] := by simpa using hempty
        simp [hnil] at hlength
      have hexec := exec_searchRun sha256 hquery hne (by
        rw [String.length_ofList, hlength, String.length_toList]
        omega)
      have hnever := hreachable (searchRun sha256 query (String.ofList text)) (by rw [hexec])
      rw [hexec] at hnever
      refine not_neverMisses rfl ?_ ?_ hnever
      · simpa [ClipboardItem.contains, searchRunItem] using hwithin
      · rw [← Bool.not_eq_true, matchesQuery_toLowercase]
        rintro (hempty | hfound)
        · exact hhidden (hempty ▸ List.nil_infix)
        · exact hhidden (by simpa [searchRunItem] using hfound)
    rcases CaseTables.exists_letter_not_infix hletter hnot with hfront | hbehind
    · exact hmiss _ (List.suffix_cons _ _).isInfix rfl hfront
    · exact hmiss _ (List.prefix_append _ _).isInfix (by simp) hbehind
  refine ⟨⟨fun h => hsettled fun rs => h _, hfound⟩, hsettled, fun h rs => hfound h _⟩

/-- The rows of the Unicode tables for the letters of the closed examples. -/
def exampleTables : CaseTables where
  toLower c :=
    if c = 'A' then ['a'] else if c = 'Α' then ['α'] else if c = 'Δ' then ['δ']
    else if c = 'Ο' then ['ο'] else if c = 'Σ' then ['σ'] else [c]
  cased c := c ∈ ['A', 'a', 'Α', 'Δ', 'Ο', 'Σ', 'α', 'δ', 'ο', 'ς', 'σ']
  caseIgnorable _ := false

lemma isPlainLetter_exampleTables : exampleTables.IsPlainLetter 'A' 'a' where
  toLower := by decide
  cased := by decide
  caseIgnorable := by decide
  ne_sigma := by decide

/-- SHA-256 of `"ΟΔΟΣΑ"`. -/
def streetsSha256 (_ : Bytes) : Digest :=
  ⟨[0x56, 0x51, 0x7c, 0xa0, 0x39, 0x61, 0xb3, 0x12, 0xb5, 0x74, 0x39, 0x6e,
    0x4d, 0xee, 0x1c, 0xae, 0x0a, 0x7d, 0xa3, 0x48, 0x18, 0x56, 0x33, 0x45,
    0xf0, 0xb0, 0x7c, 0x90, 0xe0, 0x61, 0xbb, 0x5b], rfl⟩

/-- A query whose capital sigma is followed by a letter, and an item that contains it. -/
theorem search_never_misses_letter :
    NeverMisses exampleTables
      (exec (serve streetsSha256) .default (searchRun streetsSha256 "ΣΑ" "ΟΔΟΣΑ")) := by
  have hsettles : exampleTables.SettlesSigmas "ΣΑ".toList := by
    intro u v hsigma
    have hpiece : ['Σ', 'Α'] = u ++ 'Σ' :: v := hsigma
    cases u with
    | nil =>
        obtain rfl : ['Α'] = v := by simpa using hpiece
        exact Or.inr (Or.inl (by decide))
    | cons c u =>
        have hmem : 'Σ' ∈ ['Α'] := by
          rw [(List.cons.inj hpiece).2]
          exact List.mem_append_right u List.mem_cons_self
        exact absurd hmem (by decide)
  have hquery : (exec (serve streetsSha256) .default
      (searchRun streetsSha256 "ΣΑ" "ΟΔΟΣΑ")).searchQuery = "ΣΑ" := by
    rw [exec_searchRun streetsSha256 (by decide) (by decide) (by decide)]
  exact (search_never_misses_iff exampleTables isPlainLetter_exampleTables streetsSha256 "ΣΑ"
    (by decide)).2.mpr hsettles _ hquery

/-- **A literal match that is not shown.**  The stored text `ΟΔΟΣΑ` contains the query `ΟΔΟΣ`, and
nothing is visible: alone the sigma is final, in the text it is not. -/
theorem search_misses_sigma :
    (exec (serve streetsSha256) .default (searchRun streetsSha256 "ΟΔΟΣ" "ΟΔΟΣΑ")).searchQuery
        = "ΟΔΟΣ" ∧
    (searchRunItem streetsSha256 "ΟΔΟΣΑ").contains "ΟΔΟΣ" = true ∧
    searchRunItem streetsSha256 "ΟΔΟΣΑ"
      ∈ (exec (serve streetsSha256) .default (searchRun streetsSha256 "ΟΔΟΣ" "ΟΔΟΣΑ")).items ∧
    visibleItems exampleTables.toLowercase
      (exec (serve streetsSha256) .default (searchRun streetsSha256 "ΟΔΟΣ" "ΟΔΟΣΑ")) = [] ∧
    ¬ NeverMisses exampleTables
      (exec (serve streetsSha256) .default (searchRun streetsSha256 "ΟΔΟΣ" "ΟΔΟΣΑ")) := by
  have hhidden : matchesQuery exampleTables.toLowercase (exampleTables.toLowercase "ΟΔΟΣ")
      (searchRunItem streetsSha256 "ΟΔΟΣΑ") = false := by decide +kernel
  rw [exec_searchRun streetsSha256 (by decide) (by decide) (by decide)]
  have hcontains : (searchRunItem streetsSha256 "ΟΔΟΣΑ").contains "ΟΔΟΣ" = true := by
    decide +kernel
  exact ⟨rfl, hcontains, List.mem_singleton_self _, by decide +kernel,
    not_neverMisses rfl hcontains hhidden⟩

end FtnlDesktop
