import SearchPanel.Proofs.Command.Search
import SearchPanel.Proofs.Fragment
import SearchPanel.Proofs.Json.Message
import SearchPanel.Proofs.Search.Answers
import SearchPanel.Proofs.Terminal.Box

/-!
# Output without colors

With colors turned off, or away from a terminal, the borders of a box are still gray. Nothing else
that the program writes has an escape sequence, for texts without the escape character.

* `exists_styled_of_mem_summary`: the lines of a summary are text with sequences put in, like those
  of results (`exists_styled_of_mem_results`).
* `escapeChar_not_mem_failure`: the message about an index that cannot be loaded has none.
* `escapes_iff_drawsBox`: escape sequences are written exactly when a box is drawn, and they are the
  color of its borders and the end of that color.
-/

namespace SearchPanel

open Terminal (escapeChar Styled)

variable {query : String} {docs : List Document} {config : Config} {c : Char}

/-- The texts of a document that are shown do not hold the escape character. -/
structure Document.Escapeless (doc : Document) : Prop where
  title : escapeChar ∉ doc.title.toList
  content : escapeChar ∉ doc.content.toList
  permalink : escapeChar ∉ doc.permalink.toList

theorem not_mem_toList_append {s t : String} (hs : c ∉ s.toList) (ht : c ∉ t.toList) :
    c ∉ (s ++ t).toList := by
  rw [String.toList_append, List.mem_append, not_or]
  exact ⟨hs, ht⟩

/-! ## Fragments -/

theorem escapeless_of_mem_answers (h : ∀ doc ∈ docs, doc.Escapeless) :
    ∀ f ∈ answers docs query config, Terminal.Escapeless f := by
  intro f hf
  rw [answers_eq_map_take] at hf
  obtain ⟨doc, hdoc, rfl⟩ := List.mem_map.1 hf
  obtain ⟨htitle, hcontent, hlink⟩ := h doc (List.mem_filter.1 (List.mem_of_mem_take hdoc)).1
  exact ⟨Terminal.escapeChar_not_mem_snippet htitle _ _,
    Terminal.escapeChar_not_mem_snippet hcontent _ _, hlink⟩

theorem escapeChar_not_mem_escapeAttribute {text : List Char} (h : escapeChar ∉ text) :
    escapeChar ∉ escapeAttribute text := by
  have href : ∀ r ∈ attributeReferences, escapeChar ∉ r := by decide
  intro hc
  rcases mem_escapeAttribute_cases hc with ⟨hc, -⟩ | ⟨r, hr, hc⟩
  · exact h hc
  · exact href r hr hc

theorem escapeChar_not_mem_toHtml {f : Fragment} (hf : Terminal.Escapeless f) :
    escapeChar ∉ f.toHtml.toList := by
  have hhref : escapeChar ∉ Fragment.beforeHref.toList := by decide
  have htitle : escapeChar ∉ Fragment.beforeTitle.toList := by decide
  have hbody : escapeChar ∉ Fragment.beforeBody.toList := by decide
  have hafter : escapeChar ∉ Fragment.afterBody.toList := by decide
  have hlink : escapeChar ∉ (String.ofList (escapeAttribute f.href.toList)).toList := by
    rw [String.toList_ofList]
    exact escapeChar_not_mem_escapeAttribute hf.link
  have hitem := not_mem_toList_append (not_mem_toList_append hhref hlink) htitle
  exact not_mem_toList_append
    (not_mem_toList_append (not_mem_toList_append (not_mem_toList_append hitem hf.title) hbody)
      hf.body) hafter

/-! ## The summary of an index -/

namespace Terminal

variable {d : Display} {l : List Char} {path : String}

theorem escapeChar_not_mem_column (n : Nat) : escapeChar ∉ column n := by
  have hpad : ∀ k, escapeChar ∉ List.replicate k ' ' := fun k hc =>
    absurd (List.eq_of_mem_replicate hc) (by decide)
  simp only [column, padding, List.mem_append, hpad, escapeChar_not_mem_toString, or_self,
    not_false_eq_true]

theorem mem_of_mem_intercalate {sep : List Char} {ls : List (List Char)}
    (h : c ∈ sep.intercalate ls) : c ∈ sep ∨ ∃ l ∈ ls, c ∈ l := by
  induction ls with
  | nil => cases h
  | cons l rest ih =>
    cases rest with
    | nil => exact .inr ⟨l, by simp, by simpa using h⟩
    | cons l' rest =>
      rw [List.intercalate_cons_cons, List.mem_append, List.mem_append] at h
      rcases h with (h | h) | h
      · exact .inr ⟨l, by simp, h⟩
      · exact .inl h
      · rcases ih h with h | ⟨m, hm, h⟩
        · exact .inl h
        · exact .inr ⟨m, by simp [hm], h⟩

theorem escapeChar_not_mem_positions (ks : List Nat) : escapeChar ∉ positions ks := by
  have hsep : escapeChar ∉ ", ".toList := by decide
  have hopen : escapeChar ≠ '[' := by decide
  have hclose : escapeChar ≠ ']' := by decide
  have hinside : escapeChar ∉ (", ".intercalate (ks.map toString)).toList := by
    intro hc
    rw [String.toList_intercalate] at hc
    rcases mem_of_mem_intercalate hc with hc | ⟨l, hl, hc⟩
    · exact hsep hc
    · obtain ⟨s, hs, rfl⟩ := List.mem_map.1 hl
      obtain ⟨n, -, rfl⟩ := List.mem_map.1 hs
      exact escapeChar_not_mem_toString n hc
  simp only [positions, List.mem_append, List.mem_cons, hopen, hinside, hclose, List.not_mem_nil,
    or_self, not_false_eq_true]

theorem exists_styled_row {p : List Char} (h : Styled d.Uses l p) :
    ∃ p, Styled d.Uses (d.row l) p := ⟨_, styled_row h⟩

theorem exists_styled_of_mem_missingRow {label : String} (hlabel : escapeChar ∉ label.toList)
    {ks : List Nat} (hl : l ∈ d.missingRow label ks) : ∃ p, Styled d.Uses l p := by
  unfold Display.missingRow at hl
  by_cases hks : ks.isEmpty = true
  · rw [if_pos hks] at hl
    cases hl
  rw [if_neg hks, List.mem_singleton] at hl
  rw [hl]
  have hname := styled_paint (d := d) .red (fun hd => .one (.bold hd)) (.self hlabel)
  have hspace : ' ' ≠ escapeChar := by decide
  have hpositions : Styled d.Uses (' ' :: positions ks) (' ' :: positions ks) :=
    .char hspace (.self (escapeChar_not_mem_positions ks))
  exact exists_styled_row ((Styled.char hspace hname).append hpositions)

/-- Every line of a summary is text with sequences of the display put in. -/
theorem exists_styled_of_mem_summary (hpath : escapeChar ∉ path.toList) (s : Stats)
    (hl : l ∈ d.summary path s) : ∃ p, Styled d.Uses l p := by
  have hlabel : escapeChar ∉ ("INDEX " ++ path).toList := not_mem_toList_append (by decide) hpath
  have hcount : ∀ (label : String) (n : Nat), escapeChar ∉ label.toList →
      ∃ p, Styled d.Uses (d.row (label.toList ++ column n)) p := by
    intro label n h
    exact exists_styled_row ((Styled.self h).append (.self (escapeChar_not_mem_column n)))
  have hclean : ∃ p, Styled d.Uses (d.row (' ' :: d.paint .green []
      "all documents have a title and permalink".toList)) p := by
    have hspace : ' ' ≠ escapeChar := by decide
    have htext := styled_paint (d := d) .green (fun _ => .nil)
      (.self (by decide +kernel :
        escapeChar ∉ "all documents have a title and permalink".toList))
    exact exists_styled_row (.char hspace htext)
  rw [Display.summary, List.mem_append, List.mem_append] at hl
  rcases hl with (hl | hl) | hl
  · simp only [List.mem_cons, List.not_mem_nil, or_false] at hl
    rcases hl with hl | hl | hl | hl | hl | hl <;> rw [hl]
    · exact ⟨_, styled_boxTop hlabel⟩
    all_goals exact hcount _ _ (by decide +kernel)
  · by_cases hs : s.isClean = true
    · rw [if_pos hs, List.mem_singleton] at hl
      rw [hl]
      exact hclean
    · rw [if_neg hs, List.mem_append] at hl
      rcases hl with hl | hl <;> exact exists_styled_of_mem_missingRow (by decide) hl
  · rw [List.mem_singleton] at hl
    rw [hl]
    exact ⟨_, styled_boxBottom d⟩

/-- Without colors only the borders have sequences. -/
theorem Display.Uses.eq_or_eq {s : List Char} (h : d.Uses s) (hd : d.colors = false) :
    s = d.border ∨ s = Terminal.reset := by
  cases h with
  | border => exact .inl rfl
  | reset => exact .inr rfl
  | bold h | underline h | color h => simp [hd] at h

theorem escapeChar_mem_boxTop (d : Display) (label : List Char) : escapeChar ∈ d.boxTop label := by
  have hborder : escapeChar ∈ d.border := by
    unfold Display.border
    cases d.theme <;> decide +kernel
  simp only [Display.boxTop, List.mem_append, hborder, true_or]

theorem escapeChar_mem_summary (d : Display) (path : String) (s : Stats) :
    ∃ l ∈ d.summary path s, escapeChar ∈ l := by
  refine ⟨d.boxTop ("INDEX " ++ path).toList, ?_, escapeChar_mem_boxTop d _⟩
  unfold Display.summary
  exact List.mem_append_left _ (List.mem_append_left _ List.mem_cons_self)

end Terminal

/-! ## Messages -/

theorem escapeChar_not_mem_readError {e : ReadError}
    (h : ∀ reason code, e = .refused reason code → escapeChar ∉ reason.toList) :
    escapeChar ∉ e.message.toList := by
  cases e with
  | refused reason code =>
    have hbefore : escapeChar ∉ " (os error ".toList := by decide
    have hafter : escapeChar ∉ ")".toList := by decide
    exact not_mem_toList_append (not_mem_toList_append (not_mem_toList_append (h reason code rfl)
      hbefore) (Terminal.escapeChar_not_mem_toString code)) hafter
  | _ => decide +kernel

/-- Why an index cannot be loaded is told without the escape character, whatever the file holds. -/
theorem escapeChar_not_mem_loadError {content : Except ReadError String} {e : LoadError}
    (hreason : ∀ reason code, content = .error (.refused reason code) →
      escapeChar ∉ reason.toList) (h : loadRead content = .error e) :
    escapeChar ∉ e.message.toList ∧ ∀ cause ∈ e.source?, escapeChar ∉ cause.toList := by
  cases content with
  | error re =>
    obtain rfl := Except.error.inj h
    have hread : escapeChar ∉ re.message.toList :=
      escapeChar_not_mem_readError fun reason code heq => hreason reason code (heq ▸ rfl)
    have hstart : escapeChar ∉ "failed to read index: ".toList := by decide
    refine ⟨not_mem_toList_append hstart hread, fun cause hcause => ?_⟩
    rwa [← Option.some.inj hcause]
  | ok text =>
    cases hp : parseIndex text with
    | ok docs => cases h.symm.trans (loadText_of_ok hp)
    | error je =>
      obtain rfl := Except.error.inj (h.symm.trans (loadText_of_error hp))
      have hparse : escapeChar ∉ je.message.toList :=
        (Json.printable_message_of_parseIndex hp).not_mem (by decide)
      have hstart : escapeChar ∉ "malformed index: ".toList := by decide
      refine ⟨not_mem_toList_append hstart hparse, fun cause hcause => ?_⟩
      rwa [← Option.some.inj hcause]

namespace Command

variable {d : Terminal.Display} {path : String} {ls : List (List Char)}
  {read : String → Except ReadError String} {r : Request}

theorem toList_lines (ls : List (List Char)) : (lines ls).toList = ls.flatMap (· ++ ['\n']) :=
  String.toList_ofList

theorem escapeChar_mem_lines_iff :
    escapeChar ∈ (lines ls).toList ↔ ∃ l ∈ ls, escapeChar ∈ l := by
  have hfeed : escapeChar ≠ '\n' := by decide
  simp only [toList_lines, List.mem_flatMap, List.mem_append, List.mem_singleton, hfeed, or_false]

theorem exists_styled_lines {allowed : List Char → Prop} (h : ∀ l ∈ ls, ∃ p, Styled allowed l p) :
    ∃ p, Styled allowed (lines ls).toList p := by
  have hfeed : '\n' ≠ escapeChar := by decide
  rw [toList_lines]
  induction ls with
  | nil => exact ⟨[], .nil⟩
  | cons l rest ih =>
    obtain ⟨p, hp⟩ := h l (by simp)
    obtain ⟨q, hq⟩ := ih fun m hm => h m (by simp [hm])
    rw [List.flatMap_cons]
    exact ⟨_, (hp.append (.char hfeed .nil)).append hq⟩

theorem escapeChar_not_mem_failure (hd : d.colors = false) (hpath : escapeChar ∉ path.toList)
    {e : LoadError} (he : escapeChar ∉ e.message.toList)
    (hcause : ∀ cause ∈ e.source?, escapeChar ∉ cause.toList) :
    escapeChar ∉ (failure d path e).stderr.toList := by
  have hsep : escapeChar ∉ ": ".toList := by decide
  have hload : escapeChar ∉ "failed to load ".toList := by decide
  have herror : escapeChar ∉ "error:".toList := by decide
  have hspace : escapeChar ≠ ' ' := by decide
  have hcauses : escapeChar ∉ (": ".intercalate
      (["failed to load " ++ path, e.message] ++ e.source?.toList)).toList := by
    intro hc
    rw [String.toList_intercalate] at hc
    rcases Terminal.mem_of_mem_intercalate hc with hc | ⟨l, hl, hc⟩
    · exact hsep hc
    obtain ⟨s, hs, rfl⟩ := List.mem_map.1 hl
    simp only [List.cons_append, List.nil_append, List.mem_cons, Option.mem_toList] at hs
    rcases hs with hs | hs | hs
    · exact not_mem_toList_append hload hpath (hs ▸ hc)
    · exact he (hs ▸ hc)
    · exact hcause s hs hc
  have hpaint : d.paint .red Terminal.bold "error:".toList = "error:".toList := by
    simp only [Terminal.Display.paint, hd, Bool.false_eq_true, if_false]
  rw [failure, escapeChar_mem_lines_iff, hpaint]
  rintro ⟨l, hl, hc⟩
  rw [List.mem_singleton.1 hl, List.mem_append, List.mem_cons] at hc
  rcases hc with hc | hc | hc
  exacts [herror hc, hspace hc, hcauses hc]

/-! ## Answers -/

/-- The words of a request that its answer may repeat. -/
def Request.words : Request → List String
  | version => []
  | search path query .. => [path, query]
  | inspect path => [path]

/-- No text that an answer is made of holds the escape character: no word of the request, no text of
a document that is read for it, and not the system's reason why nothing is read. -/
structure Request.Escapeless (r : Request) (read : String → Except ReadError String) : Prop where
  words : ∀ word ∈ r.words, escapeChar ∉ word.toList
  reason : ∀ path ∈ r.path?, ∀ reason code, read path = .error (.refused reason code) →
    escapeChar ∉ reason.toList
  documents : ∀ path ∈ r.path?, ∀ docs, loadRead (read path) = .ok docs →
    ∀ doc ∈ docs, doc.Escapeless

/-- The answer is a box: the summary of an index, or the results of a query that is long enough, as
text. -/
def Request.DrawsBox (read : String → Except ReadError String) : Request → Prop
  | version => False
  | search path query config html =>
    (∃ docs, loadRead (read path) = .ok docs) ∧ html = false ∧ config.minChars ≤ query.length
  | inspect path => ∃ docs, loadRead (read path) = .ok docs

/-- What is written without colors: `box` says whether it is a box, the only thing with escape
sequences in it, which are those of its borders. -/
structure Colorless (d : Terminal.Display) (box : Prop) (output : Output) : Prop where
  stderr : escapeChar ∉ output.stderr.toList
  escape_iff : escapeChar ∈ output.stdout.toList ↔ box
  styled : ∃ text, Styled (fun s => s = d.border ∨ s = Terminal.reset) output.stdout.toList text

variable {box : Prop}

/-- Lines without the escape character, where no box is drawn. -/
theorem Colorless.bare (hbox : ¬ box) (h : ∀ l ∈ ls, escapeChar ∉ l) :
    Colorless d box { stdout := lines ls } := by
  have hlines : escapeChar ∉ (lines ls).toList := by
    rw [escapeChar_mem_lines_iff]
    rintro ⟨l, hl, hc⟩
    exact h l hl hc
  have hnone : escapeChar ∉ "".toList := by decide
  exact ⟨hnone, iff_of_false hlines hbox, _, .self hlines⟩

theorem Colorless.boxed (hd : d.colors = false) (hbox : box) {label : List Char}
    (h : ∀ l ∈ d.boxTop label :: ls, ∃ p, Styled d.Uses l p) :
    Colorless d box { stdout := lines (d.boxTop label :: ls) } := by
  have hnone : escapeChar ∉ "".toList := by decide
  refine ⟨hnone, iff_of_true ?_ hbox, ?_⟩
  · exact escapeChar_mem_lines_iff.2 ⟨_, by simp, Terminal.escapeChar_mem_boxTop d label⟩
  · obtain ⟨p, hp⟩ := exists_styled_lines h
    exact ⟨p, hp.mono fun s hs => hs.eq_or_eq hd⟩

theorem Colorless.failed (hd : d.colors = false) (hbox : ¬ box)
    (hpath : escapeChar ∉ path.toList) {e : LoadError}
    (hreason : ∀ reason code, read path = .error (.refused reason code) →
      escapeChar ∉ reason.toList) (h : loadRead (read path) = .error e) :
    Colorless d box (failure d path e) := by
  obtain ⟨hmessage, hcause⟩ := escapeChar_not_mem_loadError hreason h
  refine ⟨escapeChar_not_mem_failure hd hpath hmessage hcause, iff_of_false ?_ hbox, [], .nil⟩
  simp [failure]

theorem escapeChar_not_mem_shortQuery (hd : d.colors = false) (hquery : escapeChar ∉ query.toList)
    (n : Nat) : escapeChar ∉ d.shortQuery query n := by
  have hquote : escapeChar ∉ "\"".toList := by decide
  have hmiddle : escapeChar ∉ "\" is shorter than ".toList := by decide
  have hend : escapeChar ∉ " characters; the sidebar would show nothing".toList := by
    decide +kernel
  unfold Terminal.Display.shortQuery Terminal.Display.paint
  rw [hd, if_neg (by decide)]
  exact not_mem_toList_append (not_mem_toList_append (not_mem_toList_append
    (not_mem_toList_append hquote hquery) hmiddle) (Terminal.escapeChar_not_mem_toString n)) hend

theorem colorless_search {html : Bool} (hd : d.colors = false)
    (hr : (Request.search path query config html).Escapeless read) :
    Colorless d ((Request.search path query config html).DrawsBox read)
      ((Request.search path query config html).answer d read) := by
  have hpath : escapeChar ∉ path.toList := hr.words _ (by simp [Request.words])
  have hquery : escapeChar ∉ query.toList := hr.words _ (by simp [Request.words])
  cases h : loadRead (read path) with
  | error e =>
    rw [Request.answer, h]
    exact .failed hd (fun hbox => by simp [Request.DrawsBox, h] at hbox) hpath
      (hr.reason path rfl) h
  | ok docs =>
    have hshown : ∀ f ∈ LoadedIndex.search ⟨docs, config⟩ query, Terminal.Escapeless f := by
      intro f hf
      unfold LoadedIndex.search at hf
      split at hf
      · cases hf
      · exact escapeless_of_mem_answers (hr.documents path rfl docs h) f hf
    rw [answer_search h]
    by_cases hshort : query.length < config.minChars
    · simp only [if_pos hshort]
      refine .bare (fun hbox => Nat.not_le_of_lt hshort hbox.2.2) fun l hl => ?_
      rw [List.mem_singleton.1 hl]
      exact escapeChar_not_mem_shortQuery hd hquery _
    · simp only [if_neg hshort]
      by_cases hhtml : html = true
      · simp only [if_pos hhtml]
        refine .bare (fun hbox => absurd (hhtml.symm.trans hbox.2.1) (by decide)) fun l hl => ?_
        obtain ⟨f, hf, rfl⟩ := List.mem_map.1 hl
        exact escapeChar_not_mem_toHtml (hshown f hf)
      · simp only [if_neg hhtml]
        exact .boxed hd ⟨⟨docs, h⟩, by simpa using hhtml, Nat.le_of_not_lt hshort⟩ fun l =>
          Terminal.exists_styled_of_mem_results hquery hshown

theorem colorless_inspect (hd : d.colors = false) (hr : (Request.inspect path).Escapeless read) :
    Colorless d ((Request.inspect path).DrawsBox read) ((Request.inspect path).answer d read) := by
  have hpath : escapeChar ∉ path.toList := hr.words _ (by simp [Request.words])
  cases h : loadRead (read path) with
  | error e =>
    rw [Request.answer, h]
    exact .failed hd (fun hbox => by simp [Request.DrawsBox, h] at hbox) hpath
      (hr.reason path rfl) h
  | ok docs =>
    rw [Request.answer, h]
    exact .boxed hd ⟨docs, h⟩ fun l => Terminal.exists_styled_of_mem_summary hpath _

/-- Colors are off when they are turned off, and away from a terminal. -/
theorem colors_display_eq_false {e : Environment} :
    e.display.colors = false ↔ e.noColor.isSome = true ∨ e.terminal = false := by
  simp only [Environment.display, Bool.and_eq_false_iff, Option.isNone_eq_false_iff]
  exact or_comm

/-- **Borders alone are colored without colors.** With colors turned off, or away from a terminal,
and for texts without the escape character, nothing is written to standard error that holds one. On
standard output there is one exactly when a box is drawn, and then every sequence is the color of
its borders or the end of that color. -/
theorem escapes_iff_drawsBox (e : Environment) (hoff : e.noColor.isSome = true ∨ e.terminal = false)
    (r : Request) (read : String → Except ReadError String) (hr : r.Escapeless read) :
    let output := r.answer e.display read
    escapeChar ∉ output.stderr.toList ∧
    (escapeChar ∈ output.stdout.toList ↔ r.DrawsBox read) ∧
    ∃ text, Styled (fun s => s = e.display.border ∨ s = Terminal.reset)
      output.stdout.toList text := by
  have hd : e.display.colors = false := colors_display_eq_false.2 hoff
  have hcolorless : Colorless e.display (r.DrawsBox read) (r.answer e.display read) := by
    cases r with
    | version =>
      refine .bare (fun hbox => hbox) fun l hl => ?_
      rw [List.mem_singleton.1 hl]
      decide
    | search path query config html => exact colorless_search hd hr
    | inspect path => exact colorless_inspect hd hr
  exact ⟨hcolorless.stderr, hcolorless.escape_iff, hcolorless.styled⟩

theorem loadRead_eq_ok_of_toOption {content : Except ReadError String}
    (h : (loadRead content).toOption = some docs) : loadRead content = .ok docs := by
  cases hl : loadRead content with
  | error e =>
    rw [hl] at h
    cases h
  | ok found =>
    rw [hl] at h
    exact congrArg Except.ok (Option.some.inj h)

/-- With markup asked for, nothing is colored. -/
theorem escapes_iff_drawsBox_html :
    let read : String → Except ReadError String := fun _ => .ok "[\x7b\"title\":\"A guide\"\x7d]"
    let e : Environment := { noColor := some "1", terminal := true }
    loadRead (read "i.json") = .ok [{ title := "A guide" }] ∧
      escapeChar ∉ ((Request.search "i.json" "guide" {} true).answer e.display
        read).stdout.toList := by
  intro read e
  have hload : loadRead (read "i.json") = .ok [{ title := "A guide" }] :=
    loadRead_eq_ok_of_toOption (by decide +kernel)
  have hr : (Request.search "i.json" "guide" {} true).Escapeless read := by
    refine ⟨by decide, fun path _ reason code h => (by cases h), fun path _ docs h => ?_⟩
    rw [Except.ok.inj (h.symm.trans hload), List.forall_mem_singleton]
    exact ⟨by decide, by decide, by decide⟩
  have hbox : ¬ (Request.search "i.json" "guide" {} true).DrawsBox read := fun h =>
    absurd h.2.1 (by decide)
  have hescapes := (escapes_iff_drawsBox e (.inl rfl) _ read hr).2.1
  exact ⟨hload, fun hc => hbox (hescapes.1 hc)⟩

/-- The summary of an empty index has colored borders, although colors are turned off. -/
theorem escape_of_colors_off :
    let read : String → Except ReadError String := fun _ => .ok "[]"
    let e : Environment := { noColor := some "1" }
    (Request.inspect "i.json").Escapeless read ∧
      escapeChar ∈ ((Request.inspect "i.json").answer e.display read).stdout.toList := by
  intro read e
  have hload : loadRead (read "i.json") = .ok [] :=
    loadRead_eq_ok_of_toOption (by decide +kernel)
  refine ⟨⟨by decide, fun path _ reason code h => (by cases h), fun path _ docs h => ?_⟩, ?_⟩
  · rw [Except.ok.inj (h.symm.trans hload)]
    simp
  · rw [Request.answer, hload]
    exact escapeChar_mem_lines_iff.2 (Terminal.escapeChar_mem_summary e.display _ _)

end Command

end SearchPanel
