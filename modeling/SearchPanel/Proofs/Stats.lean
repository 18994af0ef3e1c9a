import SearchPanel.Stats

/-!
# Statistics of joined indexes

* `Stats.append a b`: what is reported about an index with the report `a` and behind it one with the
  report `b`.
* `ofDocuments_append`: the report about two indexes in a row is that of their reports.
* `PositionsOf P docs ks`: `ks` are the positions of the documents with `P`, in order. They are
  found part by part too (`PositionsOf.append`), so what is listed as missing are the blank texts of
  the index (`positionsOf_blankPositions`).
-/

namespace SearchPanel

/-- The text is empty or holds nothing but white space. -/
def IsBlank (text : String) : Prop := ∀ c ∈ text.toList, Text.isBlank c = true

/-- `ks` are the positions of the documents with `P`, from the first to the last. -/
structure PositionsOf (P : Document → Prop) (docs : List Document) (ks : List Nat) : Prop where
  increasing : ks.Pairwise (· < ·)
  mem_iff : ∀ k, k ∈ ks ↔ ∃ d, docs[k]? = some d ∧ P d

variable {P : Document → Prop} {text : Document → String} {docs as bs : List Document}
  {d : Document} {ks ls : List Nat}

theorem isBlankText_iff {t : String} : Text.isBlankText t = true ↔ IsBlank t := List.all_eq_true

/-! ## Positions -/

namespace PositionsOf

theorem lt_length (h : PositionsOf P docs ks) {k : Nat} (hk : k ∈ ks) : k < docs.length := by
  obtain ⟨d, hd, -⟩ := (h.mem_iff k).1 hk
  exact (List.getElem?_eq_some_iff.1 hd).1

theorem nil : PositionsOf P [] [] := ⟨.nil, by simp⟩

theorem singleton_of_pos (hd : P d) : PositionsOf P [d] [0] := by
  refine ⟨List.pairwise_singleton _ _, fun k => ?_⟩
  cases k <;> simp [hd]

theorem singleton_of_neg (hd : ¬ P d) : PositionsOf P [d] [] := by
  refine ⟨.nil, fun k => ?_⟩
  cases k <;> simp [hd]

/-- The positions in the second list lie behind the whole first one. -/
theorem append (ha : PositionsOf P as ks) (hb : PositionsOf P bs ls) :
    PositionsOf P (as ++ bs) (ks ++ ls.map (· + as.length)) where
  increasing := by
    refine List.pairwise_append.2 ⟨ha.increasing, ?_, fun k hk l hl => ?_⟩
    · exact hb.increasing.map _ fun _ _ hlt => Nat.add_lt_add_right hlt _
    · obtain ⟨l, -, rfl⟩ := List.mem_map.1 hl
      have := ha.lt_length hk
      omega
  mem_iff k := by
    rw [List.mem_append, List.mem_map]
    rcases Nat.lt_or_ge k as.length with hlt | hge
    · have hright : ¬ ∃ l, l ∈ ls ∧ l + as.length = k := by
        rintro ⟨l, -, rfl⟩
        omega
      rw [or_iff_left hright, List.getElem?_append_left hlt]
      exact ha.mem_iff k
    · have hleft : k ∉ ks := fun hk => by
        have := ha.lt_length hk
        omega
      rw [or_iff_right hleft, List.getElem?_append_right hge, ← hb.mem_iff]
      constructor
      · rintro ⟨l, hl, rfl⟩
        rwa [Nat.add_sub_cancel]
      · exact fun hl => ⟨_, hl, Nat.sub_add_cancel hge⟩

/-- No position is listed exactly when no document is meant. -/
theorem eq_nil_iff (h : PositionsOf P docs ks) : ks = [] ↔ ∀ d ∈ docs, ¬ P d := by
  rw [List.eq_nil_iff_forall_not_mem]
  constructor
  · intro hnone d hd hP
    obtain ⟨k, hk⟩ := List.mem_iff_getElem?.1 hd
    exact hnone k ((h.mem_iff k).2 ⟨d, hk, hP⟩)
  · intro hnone k hk
    obtain ⟨d, hd, hP⟩ := (h.mem_iff k).1 hk
    exact hnone d (List.mem_of_getElem? hd) hP

end PositionsOf

/-! ## Parts of a report -/

/-- Counting from `k` on moves every position by `k`. -/
theorem blankPositions_eq_map (text : Document → String) (k : Nat) (docs : List Document) :
    blankPositions text k docs = (blankPositions text 0 docs).map (· + k) := by
  induction docs generalizing k with
  | nil => rfl
  | cons d docs ih =>
    have hmove : blankPositions text (k + 1) docs =
        (blankPositions text (0 + 1) docs).map (· + k) := by
      rw [ih (k + 1), ih (0 + 1), List.map_map]
      congr 1
      funext i
      simp only [Function.comp_apply]
      omega
    by_cases hd : Text.isBlankText (text d) = true <;> simp [blankPositions, hd, hmove]

theorem blankPositions_append (text : Document → String) (as bs : List Document) :
    blankPositions text 0 (as ++ bs) =
      blankPositions text 0 as ++ (blankPositions text 0 bs).map (· + as.length) := by
  suffices H : ∀ k, blankPositions text k (as ++ bs) =
      blankPositions text k as ++ blankPositions text (k + as.length) bs by
    rw [H 0, Nat.zero_add, blankPositions_eq_map text as.length]
  induction as with
  | nil => exact fun k => rfl
  | cons d as ih =>
    intro k
    have hk : k + (d :: as).length = k + 1 + as.length := by
      rw [List.length_cons]
      omega
    rw [List.cons_append, blankPositions, blankPositions, ih, hk]
    split <;> rfl

/-- An index is a row of single documents, so its blank texts are found one by one. -/
theorem positionsOf_blankPositions (text : Document → String) (docs : List Document) :
    PositionsOf (fun d => IsBlank (text d)) docs (blankPositions text 0 docs) := by
  induction docs with
  | nil => exact .nil
  | cons d docs ih =>
    rw [← List.singleton_append, blankPositions_append]
    refine .append ?_ ih
    by_cases hd : Text.isBlankText (text d) = true
    · rw [blankPositions, if_pos hd]
      exact .singleton_of_pos (isBlankText_iff.1 hd)
    · rw [blankPositions, if_neg hd]
      exact .singleton_of_neg fun hblank => hd (isBlankText_iff.2 hblank)

theorem charCount_append (text : Document → String) (as bs : List Document) :
    charCount text (as ++ bs) = charCount text as + charCount text bs := by
  induction as with
  | nil => exact (Nat.zero_add _).symm
  | cons d as ih =>
    have hcons : ∀ docs, charCount text (d :: docs) = (text d).length + charCount text docs :=
      fun _ => rfl
    rw [List.cons_append, hcons, hcons, ih, Nat.add_assoc]

namespace Stats

/-- The statistics of an index with the statistics `a`, and behind it one with the statistics `b`:
sizes add up, the longest content is the longer one of the two, and the positions of the second
index lie behind all documents of the first. -/
def append (a b : Stats) : Stats where
  documents := a.documents + b.documents
  titleChars := a.titleChars + b.titleChars
  descriptionChars := a.descriptionChars + b.descriptionChars
  contentChars := a.contentChars + b.contentChars
  longestContent := max a.longestContent b.longestContent
  missingTitle := a.missingTitle ++ b.missingTitle.map (· + a.documents)
  missingPermalink := a.missingPermalink ++ b.missingPermalink.map (· + a.documents)

theorem longestContent_append (as bs : List Document) :
    (ofDocuments (as ++ bs)).longestContent =
      max (ofDocuments as).longestContent (ofDocuments bs).longestContent := by
  have hmax : ∀ docs : List Document, (ofDocuments docs).longestContent =
      (docs.map (·.content.length)).foldl max 0 := fun _ => rfl
  have hstart : ∀ (n : Nat) (sizes : List Nat),
      sizes.foldl max (max n 0) = max n (sizes.foldl max 0) := fun _ _ => List.foldl_assoc
  rw [hmax, hmax, hmax, List.map_append, List.foldl_append, ← hstart, Nat.max_zero]

theorem ofDocuments_singleton (d : Document) : ofDocuments [d] =
    { documents := 1
      titleChars := d.title.length
      descriptionChars := d.description.length
      contentChars := d.content.length
      longestContent := d.content.length
      missingTitle := if Text.isBlankText d.title then [0] else []
      missingPermalink := if Text.isBlankText d.permalink then [0] else [] } := by
  simp [ofDocuments, charCount, blankPositions]

theorem ofDocuments_append (as bs : List Document) :
    ofDocuments (as ++ bs) = (ofDocuments as).append (ofDocuments bs) := by
  have hlongest := longestContent_append as bs
  simp only [ofDocuments] at hlongest
  simp only [ofDocuments, append, List.length_append, charCount_append, blankPositions_append,
    hlongest]

theorem isClean_iff (docs : List Document) : (ofDocuments docs).isClean = true ↔
    ∀ d ∈ docs, ¬ IsBlank d.title ∧ ¬ IsBlank d.permalink := by
  have htitle := positionsOf_blankPositions (·.title) docs
  have hlink := positionsOf_blankPositions (·.permalink) docs
  rw [isClean, Bool.and_eq_true, List.isEmpty_iff, List.isEmpty_iff]
  refine (and_congr htitle.eq_nil_iff hlink.eq_nil_iff).trans ?_
  exact ⟨fun ⟨ht, hl⟩ d hd => ⟨ht d hd, hl d hd⟩,
    fun h => ⟨fun d hd => (h d hd).1, fun d hd => (h d hd).2⟩⟩

/-- **Statistics of joined indexes.** They are those of the parts put together, and those of a
single document are its sizes. So the positions that are listed as missing are those of the
documents with a blank title, or with a blank link, in their order, and an index is clean exactly
when every document has both. -/
theorem ofDocuments_homomorphism :
    (∀ d : Document, ofDocuments [d] =
      { documents := 1
        titleChars := d.title.length
        descriptionChars := d.description.length
        contentChars := d.content.length
        longestContent := d.content.length
        missingTitle := if Text.isBlankText d.title then [0] else []
        missingPermalink := if Text.isBlankText d.permalink then [0] else [] }) ∧
    (∀ as bs : List Document,
      ofDocuments (as ++ bs) = (ofDocuments as).append (ofDocuments bs)) ∧
    ∀ docs : List Document,
      (ofDocuments docs).documents = docs.length ∧
      PositionsOf (fun d => IsBlank d.title) docs (ofDocuments docs).missingTitle ∧
      PositionsOf (fun d => IsBlank d.permalink) docs (ofDocuments docs).missingPermalink ∧
      ((ofDocuments docs).isClean = true ↔
        ∀ d ∈ docs, ¬ IsBlank d.title ∧ ¬ IsBlank d.permalink) :=
  ⟨ofDocuments_singleton, ofDocuments_append, fun docs =>
    ⟨rfl, positionsOf_blankPositions (·.title) docs, positionsOf_blankPositions (·.permalink) docs,
      isClean_iff docs⟩⟩

end Stats

end SearchPanel
