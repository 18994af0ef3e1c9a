import SearchPanel.Proofs.Snippet.Window
import SearchPanel.Search

/-!
# Marks and matches

A field matches wherever the query occurs, and a snippet marks what ends inside of its window.
`hasMark_iff_matching_and_fits` says when the two agree: exactly when the leftmost occurrence ends
inside of the window. A query of at most half a window in lower case always does; one that is longer
by a single character can be matched without a mark (`matching_without_mark`).
-/

namespace SearchPanel

/-- The leftmost occurrence of `query`, if there is one, ends inside of the snippet's window. -/
def FitsWindow (field query : List Char) (length : Nat) : Prop :=
  ∀ hit, (LoweredText.ofChars field).FirstHit (Text.lowerChars query) hit →
    hit.stop ≤ (snippetWindow field.length hit.first length).stop

/-- `field` is the only searchable text of `d`. -/
def Document.HasOnly (d : Document) (field : String) : Prop :=
  field ∈ d.searchableFields ∧ ∀ other ∈ d.searchableFields, other = field ∨ other = ""

variable {field query needle : List Char} {length : Nat}

/-! ## Marks -/

/-- An excerpt has a mark when the query occurs and its leftmost occurrence fits. -/
theorem hasMark_excerpt_iff (hq : query ≠ []) : (excerpt field query length).HasMark ↔
    Text.lowerChars query <:+: Text.lowerChars field ∧ FitsWindow field query length := by
  have hn := Text.lowerChars_ne_nil hq
  by_cases hf : field = []
  · subst hf
    have hnot : ¬ Text.lowerChars query <:+: Text.lowerChars [] := fun h =>
      hn (List.eq_nil_of_infix_nil h)
    have hnone : ¬ (excerpt [] query length).HasMark := by
      rintro ⟨text, h⟩
      cases h
    exact iff_of_false hnone fun h => hnot h.1
  by_cases hocc : Text.lowerChars query <:+: Text.lowerChars field
  · obtain ⟨hit, h⟩ := LoweredText.exists_firstHit (t := LoweredText.ofChars field) hn hocc
    obtain ⟨w, hw⟩ : ∃ w, w = snippetWindow field.length hit.first length := ⟨_, rfl⟩
    have hfits : FitsWindow field query length ↔ hit.stop ≤ w.stop := by
      constructor
      · intro hall
        rw [hw]
        exact hall hit h
      · intro hle hit' h'
        obtain rfl := h.unique h'
        rwa [hw] at hle
    rw [Excerpt.hasMark_iff w.first, marks_excerpt hq h hw hf, hfits]
    rcases occurrences_window_cases hq h hw with ⟨hle, rest, hcons⟩ | ⟨hlt, hnil⟩
    · simp [hcons, hle, hocc]
    · simp [hnil, hlt]
  · rw [excerpt_of_not_occurs hf hq hocc]
    simp [Excerpt.HasMark, opening, hocc]

/-- What does not occur has nothing to fit. -/
theorem fitsWindow_of_not_occurs (h : ¬ Text.lowerChars query <:+: Text.lowerChars field) :
    FitsWindow field query length := fun _ hhit => absurd hhit.occurs h

/-- A query of at most half a window fits. -/
theorem fitsWindow_of_length_le (hq : query ≠ [])
    (h : (Text.lowerChars query).length ≤ length - length / 2) :
    FitsWindow field query length := fun _ hhit =>
  le_stop_snippetWindow hhit.stop_le_length (hhit.stop_le (Text.lowerChars_ne_nil hq)) h rfl

/-! ## Matches -/

theorem Document.mentions_iff {d : Document} : d.mentions needle = true ↔
    ∃ field ∈ d.searchableFields, needle <:+: Text.lowerChars field.toList := by
  rw [Document.mentions, List.any_eq_true]
  simp only [Text.occursIn_iff]

/-- A document with one searchable text mentions what stands in that text. -/
theorem Document.HasOnly.mentions_iff {d : Document} {field : String} (h : d.HasOnly field)
    (hn : needle ≠ []) :
    d.mentions needle = true ↔ needle <:+: Text.lowerChars field.toList := by
  rw [Document.mentions_iff]
  constructor
  · rintro ⟨other, hmem, hocc⟩
    rcases h.2 other hmem with rfl | rfl
    · exact hocc
    · exact absurd (List.eq_nil_of_infix_nil hocc) hn
  · intro hocc
    exact ⟨field, h.1, hocc⟩

/-- A lone document is returned when it mentions the query. -/
theorem matching_singleton_iff {query : String} {d : Document} {limit : Nat} (hl : 0 < limit) :
    matching query [d] limit = [⟨0, d⟩] ↔
      d.mentions (Text.lowerChars query.toList) = true := by
  obtain ⟨limit, rfl⟩ : ∃ n, limit = n + 1 := ⟨limit - 1, by omega⟩
  by_cases hm : d.mentions (Text.lowerChars query.toList) = true
  · simp [matching, hm]
  · simp [matching, hm]

/-- A result shows the excerpts of its document. -/
theorem toList_of_mem_search {docs : List Document} {query : String} {config : Config}
    {r : Result} (h : r ∈ search docs query config) :
    r.title.toList = (excerpt r.hit.document.title.toList query.toList
        config.snippetLength).render ∧
      r.body.toList = (excerpt r.hit.document.content.toList query.toList
        config.snippetLength).render := by
  obtain ⟨hit, -, rfl⟩ := List.mem_map.1 h
  exact ⟨toList_snippet _ _ _, toList_snippet _ _ _⟩

/-! ## Main results -/

/-- **Marks and matches.** The snippet of a field has a mark exactly when a document with that field
alone is matched and the leftmost occurrence fits. So marks and matches agree exactly on the fields
where it fits, and the same holds of the title and the content of every result. A query of at most
70 characters in lower case fits everywhere. -/
theorem hasMark_iff_matching_and_fits (query : String) (hq : query ≠ "") :
    (∀ (field : String) (d : Document), d.HasOnly field →
      ((excerpt field.toList query.toList defaultSnippetLength).HasMark ↔
        matching query [d] defaultMaxResults = [⟨0, d⟩] ∧
          FitsWindow field.toList query.toList defaultSnippetLength) ∧
      (((excerpt field.toList query.toList defaultSnippetLength).HasMark ↔
          matching query [d] defaultMaxResults = [⟨0, d⟩]) ↔
        FitsWindow field.toList query.toList defaultSnippetLength)) ∧
    (∀ docs, ∀ r ∈ search docs query {},
      r.title.toList = (excerpt r.hit.document.title.toList query.toList
        defaultSnippetLength).render ∧
      r.body.toList = (excerpt r.hit.document.content.toList query.toList
        defaultSnippetLength).render ∧
      ∀ text ∈ [r.hit.document.title, r.hit.document.content],
        ((excerpt text.toList query.toList defaultSnippetLength).HasMark ↔
          Text.lowerChars query.toList <:+: Text.lowerChars text.toList ∧
            FitsWindow text.toList query.toList defaultSnippetLength)) ∧
    ((Text.lowerChars query.toList).length ≤ 70 →
      ∀ field, FitsWindow field query.toList defaultSnippetLength) := by
  have hq' : query.toList ≠ [] := by simpa using hq
  refine ⟨fun field d hd => ?_, fun docs r hr => ?_, fun hl field => ?_⟩
  · have hmatch : matching query [d] defaultMaxResults = [⟨0, d⟩] ↔
        Text.lowerChars query.toList <:+: Text.lowerChars field.toList := by
      rw [matching_singleton_iff (by decide), hd.mentions_iff (Text.lowerChars_ne_nil hq')]
    rw [hmatch, hasMark_excerpt_iff hq']
    refine ⟨Iff.rfl, fun h => ?_, fun hfits => and_iff_left hfits⟩
    by_cases hocc : Text.lowerChars query.toList <:+: Text.lowerChars field.toList
    · exact (h.2 hocc).2
    · exact fitsWindow_of_not_occurs hocc
  · obtain ⟨htitle, hbody⟩ := toList_of_mem_search hr
    exact ⟨htitle, hbody, fun text _ => hasMark_excerpt_iff hq'⟩
  · exact fitsWindow_of_length_le hq' hl

/-- Half of the form of a capital that lowers to two characters, in a title. -/
theorem hasMark_iff_matching_and_fits_dotted : "\u0307" ≠ "" ∧
    (Text.lowerChars "\u0307".toList).length ≤ 70 ∧
    ({ title := "aİ" } : Document).HasOnly "aİ" ∧
    matching "\u0307" [{ title := "aİ" }] defaultMaxResults = [⟨0, { title := "aİ" }⟩] ∧
    (excerpt "aİ".toList "\u0307".toList defaultSnippetLength).HasMark := by
  have hq : "\u0307" ≠ "" := by decide
  have hl : (Text.lowerChars "\u0307".toList).length ≤ 70 := by decide
  have hd : ({ title := "aİ" } : Document).HasOnly "aİ" := ⟨by decide, by decide⟩
  have hm : matching "\u0307" [{ title := "aİ" }] defaultMaxResults =
      [⟨0, { title := "aİ" }⟩] := by decide +kernel
  obtain ⟨hall, -, hfits⟩ := hasMark_iff_matching_and_fits "\u0307" hq
  exact ⟨hq, hl, hd, hm, (hall _ _ hd).1.2 ⟨hm, hfits hl _⟩⟩

/-- A query of 71 characters behind 70 others is matched. The snippet ends one character before the
query does and has no mark, also among the results. -/
theorem matching_without_mark :
    let query := List.replicate 71 'b'
    let field := List.replicate 70 'a' ++ query
    let d : Document := { content := String.ofList field }
    d.HasOnly (String.ofList field) ∧
      matching (String.ofList query) [d] defaultMaxResults = [⟨0, d⟩] ∧
      ¬ (excerpt field query defaultSnippetLength).HasMark ∧
      (search [d] (String.ofList query) {}).map (·.body.toList) =
        [List.replicate 70 'a' ++ List.replicate 70 'b' ++ ellipsis] := by
  intro query field d
  have hd : d.HasOnly (String.ofList field) := by
    constructor <;> simp [d, Document.searchableFields]
  have hq : Text.lowerChars query = query := by decide +kernel
  have hf : Text.lowerChars field = field := by decide +kernel
  have hm : matching (String.ofList query) [d] defaultMaxResults = [⟨0, d⟩] := by
    rw [matching_singleton_iff (by decide), String.toList_ofList, hq,
      hd.mentions_iff (by simp [query]), String.toList_ofList, hf]
    exact (List.suffix_append _ _).isInfix
  have hr : (excerpt field query defaultSnippetLength).render =
      List.replicate 70 'a' ++ List.replicate 70 'b' ++ ellipsis := by decide +kernel
  refine ⟨hd, hm, by decide +kernel, ?_⟩
  have hs : search [d] (String.ofList query) {} =
      [Hit.result ⟨0, d⟩ (String.ofList query) defaultSnippetLength] := congrArg (List.map _) hm
  rw [hs, List.map_singleton, Hit.result, toList_snippet, String.toList_ofList,
    String.toList_ofList, hr]

end SearchPanel
