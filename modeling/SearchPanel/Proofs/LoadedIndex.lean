import SearchPanel.Proofs.Command.Search

/-!
# One answer for scripts, panels and the command line

* `answers_eq_nil_iff`: nothing is found exactly when no document mentions the query.
* `ofText_eq_ok_iff`: an index for scripts has the documents of its text and the theme's settings,
  but for the path, which no search looks at.
* `search_eq_shown_eq_written`: what such an index finds is what a free panel shows whose load gives
  the same documents, and what the command line writes for the same text.
-/

namespace SearchPanel

theorem answers_eq_nil_iff {docs : List Document} {query : String} {config : Config}
    (h : 0 < config.maxResults) :
    answers docs query config = [] ↔
      ∀ d ∈ docs, d.mentions (Text.lowerChars query.toList) = false := by
  have hmatching : answers docs query config = [] ↔ matching query docs config.maxResults = [] := by
    simp only [answers, render, search, List.map_eq_nil_iff]
  rw [hmatching, matching]
  simp only [List.map_eq_nil_iff, List.take_eq_nil_iff, List.filter_eq_nil_iff, Bool.not_eq_true]
  constructor
  · rintro (hzero | hnone) d hd
    · omega
    · obtain ⟨i, hi, rfl⟩ := List.getElem_of_mem hd
      exact hnone (docs[i], i) (List.mem_zipIdx_iff_getElem?.2 (List.getElem?_eq_getElem hi))
  · intro hnone
    exact .inr fun p hp => hnone p.1 (List.fst_mem_of_mem_zipIdx hp)

namespace LoadedIndex

variable {json : String} {options : OptionValue} {index : LoadedIndex}

theorem ofText_eq_ok_iff : ofText json options = .ok index ↔
    ∃ docs o, parseIndex json = .ok docs ∧ PageOptions.ofValue options = .ok o ∧
      index = ⟨docs, o.toConfig⟩ := by
  unfold ofText
  cases hp : parseIndex json with
  | error e => simp [loadText_of_error hp]
  | ok docs =>
    rw [loadText_of_ok hp]
    cases ho : PageOptions.ofValue options with
    | error e => simp
    | ok o => simp [eq_comm]

/-- A query ends without fragments exactly when nothing is found for it. -/
theorem search_eq_nil_iff_outcome {query : String} {o : Outcome}
    (ho : o = if query.length < index.config.minChars then .tooShort
      else .completed (index.search query).length (index.search query)) :
    index.search query = [] ↔ o = .tooShort ∨ o = .completed 0 [] := by
  by_cases hs : query.length < index.config.minChars
  · rw [if_pos hs] at ho
    have hfound : index.search query = [] := if_pos hs
    simp only [hfound, ho, true_or]
  · rw [if_neg hs] at ho
    constructor
    · intro hfound
      rw [hfound] at ho
      exact .inr ho
    · rintro (h | h)
      · cases ho.symm.trans h
      · exact (Outcome.completed.inj (ho.symm.trans h)).2

/-- **One answer.** An index for scripts finds nothing for a query that is short or that no document
mentions. What it finds is what a free panel with the same settings shows once it has brought the
query to its end, in whatever state it was and whatever happens while the query waits, if its load
gives the same documents; and each such query is brought to its end. It is also what the command
line writes for a file with the same text, one line each, but a hint where the query is short. A
search on the command line fails exactly when its file cannot be read or is no index. -/
theorem search_eq_shown_eq_written {H : Type} [Sub H] (hi : ofText json options = .ok index)
    (query : String) :
    let found := index.search query
    let short := query.length < index.config.minChars
    (found = [] ↔ short ∨
      ∀ d ∈ index.documents, d.mentions (Text.lowerChars query.toList) = false) ∧
    (∀ (s : Session H) k w, s.widgets[k]? = some w → w.inFlight = false →
      w.controller.config = index.config →
      (∀ o t, s.Completes k query index.documents o t →
        (o = if short then .tooShort else .completed found.length found) ∧
        (found = [] ↔ o = .tooShort ∨ o = .completed 0 []) ∧
        ∃ w', t.widgets[k]? = some w' ∧ w'.view.fragments = found) ∧
      ((∀ docs, w.load? = some docs → docs = index.documents) →
        (∃ o, s.Completes k query index.documents o (s.step (.start k (.query query))).after) ∨
        ∃ n, (s.step (.start k (.query query))).result = .pending n ∧
          ∀ moments t w' answer,
            (s.step (.start k (.query query))).after.Leads moments t → t.Waits k n →
            t.widgets[k]? = some w' → w'.source.poll.1 = some answer →
            Loader.given answer = index.documents →
            ∃ o, s.Completes k query index.documents o (t.step (.poll n)).after)) ∧
    (∀ d path read, read path = readText (some (.ofText json)) →
      ∃ request, Command.Request.ofArguments ["search", "--html", "--", path, query] = .ok request ∧
        request.answer d read =
          { stdout := Command.lines (
              if short then [d.shortQuery query index.config.minChars]
              else found.map fun f => f.toHtml.toList) }) ∧
    ∀ d path read query config html,
      ((Command.Request.search path query config html).answer d read).exit = 1 ↔
        (∃ e, read path = .error e) ∨
          ∃ text e, read path = .ok text ∧ parseIndex text = .error e := by
  obtain ⟨docs, o, hparse, -, rfl⟩ := ofText_eq_ok_iff.1 hi
  intro found short
  have hnil : found = [] ↔ short ∨
      ∀ d ∈ docs, d.mentions (Text.lowerChars query.toList) = false := by
    by_cases hs : short
    · have hfound : found = [] := if_pos hs
      simp only [hfound, hs, true_or]
    · have hfound : found = answers docs query o.toConfig := if_neg hs
      have hmax : 0 < o.toConfig.maxResults := Nat.succ_pos 9
      simp only [hfound, hs, false_or, answers_eq_nil_iff hmax]
  refine ⟨hnil, fun s k w hw hf hconfig => ⟨fun o' t h => ?_, Session.exists_completes hw⟩, ?_,
    fun d path read query config html => Command.exit_answer_search_iff d⟩
  · obtain ⟨houtcome, w', hw', hview⟩ := h.eq_search hw hf
    rw [Widget.outcome, Widget.index, hconfig] at houtcome
    rw [Widget.index, hconfig] at hview
    exact ⟨houtcome, search_eq_nil_iff_outcome houtcome, w', hw', hview⟩
  · intro d path read hread
    rw [readText_ofText] at hread
    refine ⟨.search path query { indexPath := path } true, rfl, ?_⟩
    have hload : loadRead (read path) = .ok docs := by
      rw [hread, loadRead, loadText, hparse]
      rfl
    -- The settings of the command line differ in the path alone, which no search looks at.
    exact Command.answer_search hload d

/-- One document. A query of a panel waits at a gate for it and then shows what the script finds and
what the command line writes; without a file that exits with `1`. -/
theorem search_eq_shown_eq_written_gated :
    let json := "[\x7b\"title\":\"Alpha\"\x7d]"
    let docs : List Document := [{ title := "Alpha" }]
    let index : LoadedIndex := ⟨docs, {}⟩
    let s := Session.gated.run [.start 0 (.query "alpha"), .release 0 docs, .poll 0]
    ofText json .undefined = .ok index ∧
      index.search "alpha" ≠ [] ∧
      (∃ w, s.widgets[0]? = some w ∧ w.view.fragments = index.search "alpha") ∧
      (∃ request, Command.Request.ofArguments ["search", "--html", "--", "file", "alpha"] =
          .ok request ∧
        request.answer {} (fun _ => readText (some (.ofText json))) =
          { stdout := Command.lines ((index.search "alpha").map fun f => f.toHtml.toList) }) ∧
      ((Command.Request.search "file" "al" {} false).answer {} fun _ => .error .notFound).exit =
        1 := by
  intro json docs index s
  have hparse : parseIndex json = .ok docs := by
    have hsome : (parseIndex json).toOption = some docs := by decide +kernel
    cases h : parseIndex json with
    | error e =>
      rw [h] at hsome
      cases hsome
    | ok found =>
      rw [h] at hsome
      exact congrArg Except.ok (Option.some.inj hsome)
  have hi : ofText json .undefined = .ok index :=
    ofText_eq_ok_iff.2 ⟨docs, {}, hparse, rfl, rfl⟩
  obtain ⟨hnil, hshown, hwritten, hexit⟩ :=
    search_eq_shown_eq_written (H := Nat) hi "alpha"
  refine ⟨hi, ?_, ?_, hwritten {} "file" _ rfl, (hexit _ _ _ _ _ _).2 (.inl ⟨_, rfl⟩)⟩
  · intro hnone
    rcases hnil.1 hnone with hs | hm
    · exact absurd hs (by decide)
    · exact absurd (hm _ (List.mem_singleton.2 rfl)) (by decide +kernel)
  · obtain ⟨hends, -⟩ := hshown Session.gated 0 _ rfl rfl rfl
    have hrun := Session.leads_history (Session.gated.step (.start 0 (.query "alpha"))).after
      [.release 0 docs]
    have hcompletes : Session.gated.Completes 0 "alpha" docs _ s :=
      .awaited (n := 0) rfl hrun rfl rfl rfl rfl
    exact (hends _ _ hcompletes).2.2

end LoadedIndex

end SearchPanel
