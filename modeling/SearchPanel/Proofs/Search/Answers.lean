import Mathlib.Data.List.Count
import SearchPanel.Proofs.Snippet.Matching

/-!
# The answers to a query

* `Document.FoundBy d query`: the query stands in the title, the description or the content of `d`,
  all four in lower case.
* `answers_eq_map_take`: what is shown for a query are the fragments of the documents that it finds,
  as many as the cap lets through. So a smaller cap shows the beginning of what a larger one shows
  (`answers_prefix`), and an index in two parts is answered part by part (`answers_append`).
* `answers_at_iff`: the place of each fragment, told without a list of the documents found.
-/

namespace SearchPanel

open Text

variable {query : String} {docs more : List Document} {d : Document} {f : Fragment}
  {config : Config} {k m n : Nat}

/-! ## Documents found -/

/-- The lowered query stands in a lowered field of the document, which is searched by itself. -/
def Document.FoundBy (d : Document) (query : String) : Prop :=
  lowerChars query.toList <:+: lowerChars d.title.toList ∨
    lowerChars query.toList <:+: lowerChars d.description.toList ∨
      lowerChars query.toList <:+: lowerChars d.content.toList

theorem Document.mentions_iff_foundBy :
    d.mentions (lowerChars query.toList) = true ↔ d.FoundBy query := by
  rw [Document.mentions_iff, Document.FoundBy]
  simp [Document.searchableFields]

instance (d : Document) (query : String) : Decidable (d.FoundBy query) :=
  decidable_of_iff _ Document.mentions_iff_foundBy

/-- What is shown of a document that a query finds. -/
def Document.fragment (d : Document) (query : String) (length : Nat) : Fragment where
  titleHtml := snippet d.title query length
  bodyHtml := snippet d.content query length
  href := d.permalink

/-- How many of some documents a query finds. -/
def foundIn (docs : List Document) (query : String) : Nat := docs.countP (·.FoundBy query)

/-- The settings with another cap. -/
def Config.withCap (config : Config) (cap : Nat) : Config := { config with maxResults := cap }

/-! ## Places in a filtered list -/

/-- An entry of a filtered list stands behind as many entries that pass as its place says. -/
theorem getElem?_filter_iff {α : Type} {p : α → Bool} {l : List α} {a : α} :
    (l.filter p)[k]? = some a ↔
      ∃ i, l[i]? = some a ∧ p a = true ∧ (l.take i).countP p = k := by
  induction l generalizing k with
  | nil => simp
  | cons b rest ih =>
    by_cases hb : p b = true
    · rw [List.filter_cons_of_pos hb]
      constructor
      · intro h
        cases k with
        | zero =>
          obtain rfl : b = a := Option.some.inj h
          exact ⟨0, rfl, hb, rfl⟩
        | succ k =>
          obtain ⟨i, hi, ha, hk⟩ := ih.1 h
          refine ⟨i + 1, hi, ha, ?_⟩
          rw [List.take_succ_cons, List.countP_cons_of_pos hb, hk]
      · rintro ⟨i, hi, ha, hk⟩
        cases i with
        | zero =>
          obtain rfl : k = 0 := hk.symm
          exact hi
        | succ i =>
          rw [List.take_succ_cons, List.countP_cons_of_pos hb] at hk
          subst hk
          exact ih.2 ⟨i, hi, ha, rfl⟩
    · rw [List.filter_cons_of_neg hb, ih]
      constructor
      · rintro ⟨i, hi, ha, hk⟩
        refine ⟨i + 1, hi, ha, ?_⟩
        rwa [List.take_succ_cons, List.countP_cons_of_neg hb]
      · rintro ⟨i, hi, ha, hk⟩
        cases i with
        | zero =>
          obtain rfl : b = a := Option.some.inj hi
          exact absurd ha hb
        | succ i =>
          rw [List.take_succ_cons, List.countP_cons_of_neg hb] at hk
          exact ⟨i, hi, ha, hk⟩

/-! ## Answers -/

/-- The answers are the fragments of the first documents that the query finds. -/
theorem answers_eq_map_take (docs : List Document) (query : String) (config : Config) :
    answers docs query config =
      ((docs.filter fun d => d.FoundBy query).take config.maxResults).map
        (·.fragment query config.snippetLength) := by
  have hfound : (fun d : Document => decide (d.FoundBy query)) =
      fun d => d.mentions (lowerChars query.toList) := by
    funext d
    rw [Bool.eq_iff_iff, decide_eq_true_iff, Document.mentions_iff_foundBy]
  -- The positions that hits carry play no part in what is shown.
  have hzip : (docs.zipIdx.filter fun e => e.1.mentions (lowerChars query.toList)).map Prod.fst =
      docs.filter fun d => d.mentions (lowerChars query.toList) := by
    conv => rhs; rw [← List.zipIdx_map_fst 0 docs, List.filter_map]
    rfl
  rw [hfound, ← hzip, ← List.map_take, List.map_map]
  simp only [answers, render, search, matching, List.map_map]
  rfl

theorem length_answers (docs : List Document) (query : String) (config : Config) :
    (answers docs query config).length = min config.maxResults (foundIn docs query) := by
  rw [answers_eq_map_take, List.length_map, List.length_take, ← List.countP_eq_length_filter,
    foundIn]

/-- A smaller cap shows the beginning of what a larger one shows. -/
theorem answers_prefix (docs : List Document) (query : String) (config : Config) (h : m ≤ n) :
    answers docs query (config.withCap m) <+: answers docs query (config.withCap n) := by
  rw [answers_eq_map_take, answers_eq_map_take]
  exact (List.take_prefix_take_left h).map _

/-- The documents behind others are shown under the cap that those leave. -/
theorem answers_append (docs more : List Document) (query : String) (config : Config) :
    answers (docs ++ more) query config = answers docs query config ++
      answers more query (config.withCap (config.maxResults - foundIn docs query)) := by
  rw [answers_eq_map_take, answers_eq_map_take, answers_eq_map_take, List.filter_append,
    List.take_append, List.map_append, foundIn, List.countP_eq_length_filter]
  rfl

/-! ## Main result -/

/-- **The answers to a query.** The fragment at place `k` is that of the document in front of which
the query finds `k` others, if the cap lets through more than `k`. So as many fragments are shown as
documents are found, or as the cap allows. A smaller cap shows the beginning of what a larger one
shows, and an index in two parts is answered part by part, the second one under the cap that the
first one leaves. -/
theorem answers_at_iff (docs : List Document) (query : String) (config : Config) :
    (∀ k f, (answers docs query config)[k]? = some f ↔
      k < config.maxResults ∧ ∃ i d, docs[i]? = some d ∧ d.FoundBy query ∧
        foundIn (docs.take i) query = k ∧ f = d.fragment query config.snippetLength) ∧
    (answers docs query config).length = min config.maxResults (foundIn docs query) ∧
    (∀ m n, m ≤ n →
      answers docs query (config.withCap m) <+: answers docs query (config.withCap n)) ∧
    ∀ more, answers (docs ++ more) query config = answers docs query config ++
      answers more query
        (config.withCap (config.maxResults - (answers docs query config).length)) := by
  refine ⟨fun k f => ?_, length_answers docs query config,
    fun m n => answers_prefix docs query config, fun more => ?_⟩
  · rw [answers_eq_map_take, List.getElem?_map, Option.map_eq_some_iff]
    constructor
    · rintro ⟨d, hd, rfl⟩
      rw [List.getElem?_take] at hd
      split at hd
      · next hk =>
        obtain ⟨i, hi, hfound, hcount⟩ := getElem?_filter_iff.1 hd
        exact ⟨hk, i, d, hi, of_decide_eq_true hfound, hcount, rfl⟩
      · cases hd
    · rintro ⟨hk, i, d, hi, hfound, hcount, rfl⟩
      refine ⟨d, ?_, rfl⟩
      rw [List.getElem?_take, if_pos hk]
      exact getElem?_filter_iff.2 ⟨i, hi, decide_eq_true hfound, hcount⟩
  · have hcap : config.maxResults - (answers docs query config).length =
        config.maxResults - foundIn docs query := by
      rw [length_answers]
      omega
    rw [hcap]
    exact answers_append docs more query config

/-- Four documents, the third one the same as the first one, which the query finds by its
description alone. It does not find the second one, where it would begin in the title and end in the
description. The cap of two leaves out the last document, which it does find. -/
theorem answers_at_iff_duplicate :
    let a : Document := { title := "Start", description := "A guide", permalink := "/a/" }
    let b : Document := { title := "Gui", description := "de" }
    let c : Document := { content := "Guides" }
    let config : Config := { maxResults := 2 }
    (answers [a, b, a, c] "guide" config)[1]? = some ⟨"Start", "", "/a/"⟩ ∧
      (answers [a, b, a, c] "guide" config).length = 2 ∧
      1 ≤ 3 ∧ answers [a, b, a, c] "guide" (config.withCap 1) <+:
        answers [a, b, a, c] "guide" (config.withCap 3) ∧
      answers ([a, b] ++ [a, c]) "guide" config =
        answers [a, b] "guide" config ++ answers [a, c] "guide" (config.withCap 1) := by
  intro a b c config
  obtain ⟨hplace, hlength, hprefix, -⟩ := answers_at_iff [a, b, a, c] "guide" config
  have hfragment : Fragment.mk "Start" "" "/a/" = a.fragment "guide" config.snippetLength := by
    decide +kernel
  have hcount : foundIn [a, b] "guide" = 1 := by decide +kernel
  refine ⟨(hplace 1 _).2 ⟨by decide, 2, a, rfl, by decide +kernel, hcount, hfragment⟩, ?_,
    by decide, hprefix 1 3 (by decide), ?_⟩
  · rw [hlength]
    decide +kernel
  · obtain ⟨-, hlength', -, happend⟩ := answers_at_iff [a, b] "guide" config
    rw [happend [a, c], hlength', hcount]
    rfl

end SearchPanel
