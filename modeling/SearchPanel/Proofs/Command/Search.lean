import SearchPanel.Command.Answer
import SearchPanel.Proofs.Session.Completion

/-!
# What a search on the command line writes

* `load?_searchPanel`: the panel of a search finds the documents that were loaded up front. Over an
  empty index it has kept none, and finds none again.
* `answer_search`: what is written is what the index of these documents finds, or a hint where the
  query is short.
* `exit_answer_search_iff`: a search fails exactly when its file cannot be read or is no index.
-/

namespace SearchPanel

/-- A file that holds a text is read as this text. -/
@[simp]
theorem readText_ofText (text : String) : readText (some (.ofText text)) = .ok text := by
  have hvalid : text.toUTF8.IsValidUTF8 := text.isValidUTF8
  simp only [readText, StoredFile.ofText, String.fromUTF8?, dif_pos hvalid]
  rfl

theorem loadText_of_error {text : String} {e : Json.Error} (h : parseIndex text = .error e) :
    loadText text = .error (.malformed e) := by
  rw [loadText, h]
  rfl

theorem loadText_of_ok {text : String} {docs : List Document} (h : parseIndex text = .ok docs) :
    loadText text = .ok docs := by
  rw [loadText, h]
  rfl

theorem loadRead_eq_error_iff {content : Except ReadError String} :
    (∃ e, loadRead content = .error e) ↔
      (∃ e, content = .error e) ∨ ∃ text e, content = .ok text ∧ parseIndex text = .error e := by
  cases content with
  | error e => simp [loadRead]
  | ok text =>
    cases hp : parseIndex text with
    | error e => simp [loadRead, loadText_of_error hp, hp]
    | ok docs => simp [loadRead, loadText_of_ok hp, hp]

namespace Command

variable {content : Except ReadError String} {read : String → Except ReadError String}
  {docs : List Document} {path query : String} {config : Config} {html : Bool}

theorem load?_searchPanel (h : loadRead content = .ok docs) (config : Config) :
    (searchPanel content docs config).load? = some docs := by
  cases content with
  | error e => cases h
  | ok text =>
    cases docs with
    | cons d docs => rfl
    | nil =>
      have hfetch : (searchPanel (.ok text) [] config).source.fetch.1 = some (.ok []) := by
        rw [← h]
        show some (loadFile (some (.ofText text))) = some (loadRead (.ok text))
        rw [loadFile, readText_ofText]
      exact Widget.load?_of_fetch rfl hfetch

theorem answer_search (h : loadRead (read path) = .ok docs) (d : Terminal.Display) :
    (Request.search path query config html).answer d read =
      let shown := LoadedIndex.search ⟨docs, config⟩ query
      { stdout := lines (
          if query.length < config.minChars then [d.shortQuery query config.minChars]
          else if html then shown.map fun f => f.toHtml.toList
          else d.results query shown) } := by
  have hresult : ((searchPanel (read path) docs config).startQuery query).result =
      some ((searchPanel (read path) docs config).outcome docs query) :=
    (Widget.started _ (.query query)).result_of_load? rfl (load?_searchPanel h config)
  have houtcome : (searchPanel (read path) docs config).outcome docs query =
      let shown := LoadedIndex.search ⟨docs, config⟩ query
      if query.length < config.minChars then .tooShort else .completed shown.length shown := rfl
  simp only [Request.answer, h, hresult, Option.elim_some]
  rw [houtcome]
  by_cases hs : query.length < config.minChars
  · simp only [if_pos hs, searchOutput]
  · simp only [if_neg hs, searchOutput]

theorem exit_answer_search_iff (d : Terminal.Display) :
    ((Request.search path query config html).answer d read).exit = 1 ↔
      (∃ e, read path = .error e) ∨
        ∃ text e, read path = .ok text ∧ parseIndex text = .error e := by
  rw [← loadRead_eq_error_iff]
  cases h : loadRead (read path) with
  | error e => simp [Request.answer, h, failure]
  | ok docs => simp [answer_search h]

end Command

end SearchPanel
