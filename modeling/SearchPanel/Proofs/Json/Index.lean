import SearchPanel.Proofs.Json.Prefix

/-!
# Reading an index

* `Encodes members doc`: an object with these members is a faithful text of a document. Each field
  has one member whose value spells it, or none if it is empty; members of other names may be there.
* `Spoilt members`: a field has two members, or one whose value is no string.
* `parseIndex_eq_ok_iff`: a list of objects is read as the documents that they encode.
* `parseIndex_faithful`: so every faithful text of an index is read as that index, and a text with
  a spoilt element, with its end cut off or with more behind it is refused.
-/

namespace SearchPanel.Json

variable {before text rest after left : List Char} {ms : List Member}
  {es : List (List Member)} {doc : Document} {docs : List Document} {name s s' : String}

/-! ## Elements -/

/-- The only member of a name spells `s`, or there is none and `s` is empty. -/
def Gives (ms : List Member) (name s : String) : Prop :=
  ∃ o : Option String, Valued IsText ms name o ∧ s = o.getD ""

/-- An object with these members is a text of the document. -/
structure Encodes (ms : List Member) (doc : Document) : Prop where
  title : Gives ms "title" doc.title
  description : Gives ms "description" doc.description
  content : Gives ms "content" doc.content
  permalink : Gives ms "permalink" doc.permalink

/-- Some field has more than one member, or a member whose value is no string. -/
def Spoilt (ms : List Member) : Prop :=
  ∃ name ∈ documentType.fields, 1 < (ms.filter (·.name = name)).length ∨
    ∃ m ∈ ms, m.name = name ∧ ∀ s, ¬ IsText m.value s

theorem Gives.unique (h : Gives ms name s) (h' : Gives ms name s') : s = s' := by
  obtain ⟨o, ho, rfl⟩ := h
  obtain ⟨o', ho', rfl⟩ := h'
  exact congrArg (·.getD "") (ho.unique ho' IsText.unique)

theorem Encodes.unique {doc' : Document} (h : Encodes ms doc) (h' : Encodes ms doc') :
    doc = doc' := by
  cases doc
  cases doc'
  rw [Document.mk.injEq]
  exact ⟨h.title.unique h'.title, h.description.unique h'.description,
    h.content.unique h'.content, h.permalink.unique h'.permalink⟩

/-- The document of the fields that are taken is the one that is encoded. -/
theorem Taken.encodes {fs : Fields String} (h : Taken documentType IsText [] ms fs) :
    Encodes ms (toDocument fs) := by
  have hgives : ∀ name ∈ documentType.fields, Gives ms name ((fs.lookup name).getD "") :=
    fun name hn => ⟨fs.lookup name, (h.valued hn).2 rfl, rfl⟩
  exact ⟨hgives _ (by simp [documentType]), hgives _ (by simp [documentType]),
    hgives _ (by simp [documentType]), hgives _ (by simp [documentType])⟩

theorem Encodes.gives (h : Encodes ms doc) (hn : name ∈ documentType.fields) :
    ∃ s, Gives ms name s := by
  simp only [documentType, List.mem_cons, List.not_mem_nil, or_false] at hn
  rcases hn with rfl | rfl | rfl | rfl
  · exact ⟨_, h.title⟩
  · exact ⟨_, h.description⟩
  · exact ⟨_, h.content⟩
  · exact ⟨_, h.permalink⟩

/-- An element's members are taken as a document exactly if they encode it. -/
theorem exists_taken_iff_encodes :
    (∃ fs, Taken documentType IsText [] ms fs ∧ toDocument fs = doc) ↔ Encodes ms doc := by
  constructor
  · rintro ⟨fs, h, rfl⟩
    exact h.encodes
  · intro h
    obtain ⟨fs, hfs⟩ : ∃ fs, Taken documentType IsText [] ms fs := by
      refine exists_taken (fun hc => nomatch hc) fun name hn => ?_
      obtain ⟨s, o, ho, -⟩ := h.gives hn
      exact ⟨o, ho, .inr rfl⟩
    exact ⟨fs, hfs, hfs.encodes.unique h⟩

/-- In lists that belong together, each entry has a partner. -/
theorem exists_partner {α β : Type} {r : α → β → Prop} {as : List α} {bs : List β} {a : α}
    (h : List.Forall₂ r as bs) (ha : a ∈ as) : ∃ b ∈ bs, r a b := by
  induction h with
  | nil => cases ha
  | cons hr hs ih =>
    rcases List.mem_cons.1 ha with rfl | ha
    · exact ⟨_, List.mem_cons_self, hr⟩
    · obtain ⟨b, hb, hr⟩ := ih ha
      exact ⟨b, .tail _ hb, hr⟩

theorem Encodes.not_spoilt (h : Encodes ms doc) : ¬ Spoilt ms := by
  rintro ⟨name, hn, hspoilt⟩
  obtain ⟨s, o, ho, -⟩ := h.gives hn
  have hfilter : ∀ m ∈ ms, m.name = name → m ∈ ms.filter (·.name = name) :=
    fun m hm heq => List.mem_filter.2 ⟨hm, decide_eq_true heq⟩
  cases o with
  | none =>
    rcases hspoilt with hlt | ⟨m, hm, heq, -⟩
    · rw [show ms.filter (·.name = name) = [] from ho] at hlt
      cases hlt
    · exact absurd (hfilter m hm heq) (List.eq_nil_iff_forall_not_mem.1 ho m)
  | some x =>
    obtain ⟨m, hms, hx⟩ := ho
    rw [hms] at hspoilt hfilter
    rcases hspoilt with hlt | ⟨m', hm, heq, hno⟩
    · exact absurd hlt (by simp)
    · obtain rfl := List.mem_singleton.1 (hfilter m' hm heq)
      exact hno x hx

/-! ## Lists of elements -/

theorem nextElement_first (hb : Blank before) :
    nextElement true (before ++ '{' :: rest) = .ok (true, '{' :: rest) := by
  rw [nextElement, skipSpace_append hb, skipSpace_cons rfl]
  rfl

/-- Behind a comma an element begins like the first one. -/
theorem nextElement_comma (ha : Blank after) (hb : Blank before) :
    nextElement false (after ++ ',' :: (before ++ '{' :: rest)) =
      nextElement true (before ++ '{' :: rest) := by
  have hstart : skipSpace (before ++ '{' :: rest) = '{' :: rest := by
    rw [skipSpace_append hb, skipSpace_cons rfl]
  rw [nextElement_first hb, nextElement, skipSpace_append ha, skipSpace_cons rfl]
  simp [hstart]

theorem nextElement_close (ha : Blank after) (first : Bool) :
    nextElement first (after ++ ']' :: rest) = .ok (false, rest) := by
  rw [nextElement, skipSpace_append ha, skipSpace_cons rfl]
  rfl

theorem readDocuments_close (ha : Blank after) (first : Bool) :
    readDocuments first (after ++ ']' :: rest) = .ok (docs, left) ↔
      left = rest ∧ List.Forall₂ Encodes [] docs := by
  rw [readDocuments_eq, nextElement_close ha, List.forall₂_nil_left_iff, Except.ok.injEq,
    Prod.mk.injEq]
  exact ⟨fun h => ⟨h.2.symm, h.1.symm⟩, fun h => ⟨h.2.symm, h.1.symm⟩⟩

theorem readDocuments_comma (ha : Blank after) (h : Separated ObjectText es text) :
    readDocuments false (after ++ ',' :: (text ++ rest)) = readDocuments true (text ++ rest) := by
  obtain ⟨before, ms, first, tail, hb, ho, rfl⟩ := h.head
  obtain ⟨first, rfl⟩ := Enclosed.head ho
  rw [List.append_assoc, List.cons_append, List.cons_append, readDocuments_eq,
    nextElement_comma ha hb, ← readDocuments_eq]

/-- If the other elements are read as the documents that they encode, so are all of them. -/
theorem readDocuments_cons {behind : List Char} (ho : ObjectText ms text) (hb : Blank before)
    (h : ∀ docs, readDocuments false rest = .ok (docs, left) ↔
      left = behind ∧ List.Forall₂ Encodes es docs) :
    readDocuments true (before ++ (text ++ rest)) = .ok (docs, left) ↔
      left = behind ∧ List.Forall₂ Encodes (ms :: es) docs := by
  have hrecord : ∀ fs left, readRecord documentType (text ++ rest) = .ok (fs, left) ↔
      left = rest ∧ Taken documentType IsText [] ms fs := fun fs left =>
    readRecord_append documentType_takes ho blank_nil
  obtain ⟨tail, rfl⟩ := Enclosed.head ho
  rw [List.cons_append] at hrecord ⊢
  rw [readDocuments_eq, nextElement_first hb]
  simp only
  constructor
  · intro h'
    split at h'
    · cases h'
    · next fs _ hr =>
      obtain ⟨rfl, ht⟩ := (hrecord _ _).1 hr
      split at h'
      · cases h'
      · next ds _ hd =>
        obtain ⟨rfl, rfl⟩ := Prod.mk.inj (Except.ok.inj h')
        obtain ⟨hl, hes⟩ := (h ds).1 hd
        exact ⟨hl, .cons ht.encodes hes⟩
  · rintro ⟨hl, hes⟩
    cases hes with
    | cons hm hes =>
      obtain ⟨fs, ht, rfl⟩ := exists_taken_iff_encodes.2 hm
      simp only [(hrecord fs rest).2 ⟨rfl, ht⟩, (h _).2 ⟨hl, hes⟩]

theorem readDocuments_separated (h : Separated ObjectText es text) :
    readDocuments true (text ++ ']' :: rest) = .ok (docs, left) ↔
      left = rest ∧ List.Forall₂ Encodes es docs := by
  induction h generalizing docs with
  | single hb ho ha =>
    rw [List.append_assoc, List.append_assoc]
    exact readDocuments_cons ho hb fun docs => readDocuments_close ha false
  | cons hb ho ha hr ih =>
    rw [List.append_assoc, List.append_assoc, List.append_assoc, List.cons_append]
    refine readDocuments_cons ho hb fun docs => ?_
    rw [readDocuments_comma ha hr]
    exact ih

/-- A list of objects is read as the documents that they encode, and what follows it is left. -/
theorem readIndex_append (hb : Blank before) (h : Enclosed '[' ']' ObjectText es text) :
    readIndex (before ++ (text ++ rest)) = .ok (docs, left) ↔
      left = rest ∧ List.Forall₂ Encodes es docs := by
  cases h with
  | empty h =>
    rw [readIndex, skipSpace_append hb, List.append_assoc, List.cons_append, skipSpace_cons rfl]
    exact readDocuments_close h true
  | items h =>
    rw [readIndex, skipSpace_append hb, List.append_assoc, List.cons_append, skipSpace_cons rfl]
    exact readDocuments_separated h

/-! ## Whole texts -/

/-- A whole text is read if nothing but white space is left. -/
theorem readAll_eq_ok_iff {α : Type} {read : List Char → Reading α} {x : α} :
    readAll read (String.ofList text) = .ok x ↔ ∃ rest, read text = .ok (x, rest) ∧ Blank rest := by
  rw [readAll, String.toList_ofList]
  constructor
  · intro h
    split at h
    · cases h
    · next y rest hr =>
      split at h
      · next hs =>
        obtain rfl := Except.ok.inj h
        exact ⟨rest, hr, skipSpace_eq_nil_iff.1 hs⟩
      · cases h
  · rintro ⟨rest, hr, hb⟩
    simp only [hr, skipSpace_eq_nil_iff.2 hb]

theorem exists_error {ε α : Type} {r : Except ε α} (h : ∀ x, r ≠ .ok x) : ∃ e, r = .error e := by
  cases r with
  | error e => exact ⟨e, rfl⟩
  | ok x => exact absurd rfl (h x)

/-- **A list of objects is read as an index** exactly if nothing but white space follows it, and
the documents are those that its elements encode. -/
theorem parseIndex_eq_ok_iff (hb : Blank before) (h : Enclosed '[' ']' ObjectText es text) :
    parseIndex (String.ofList (before ++ (text ++ after))) = .ok docs ↔
      Blank after ∧ List.Forall₂ Encodes es docs := by
  rw [parseIndex, readAll_eq_ok_iff]
  simp only [readIndex_append hb h]
  constructor
  · rintro ⟨_, ⟨rfl, hes⟩, ha⟩
    exact ⟨ha, hes⟩
  · rintro ⟨ha, hes⟩
    exact ⟨after, ⟨rfl, hes⟩, ha⟩

/-- The beginning of a list is no index. -/
theorem parseIndex_cut {cut more : List Char} (hb : Blank before)
    (h : Enclosed '[' ']' ObjectText es text) (hcut : before ++ text = cut ++ more)
    (hmore : more ≠ []) : parseIndex (String.ofList cut) ≠ .ok docs := by
  rw [parseIndex, Ne, readAll_eq_ok_iff]
  rintro ⟨rest, hr, -⟩
  have hlonger : readIndex (before ++ (text ++ [])) = .ok (docs, rest ++ more) := by
    rw [List.append_nil, hcut]
    exact readIndex_more hr more
  -- the whole list would leave what was cut off
  obtain ⟨hnil, -⟩ := (readIndex_append hb h).1 hlonger
  exact hmore (List.append_eq_nil_iff.1 hnil).2

/-- **Every faithful text of an index is read as that index**, and a text that is spoilt, cut off or
continued is refused. -/
theorem parseIndex_faithful (hb : Blank before) (h : Enclosed '[' ']' ObjectText es text) :
    (∀ after docs, Blank after → List.Forall₂ Encodes es docs →
      parseIndex (String.ofList (before ++ (text ++ after))) = .ok docs) ∧
    (∀ after, (∃ ms ∈ es, Spoilt ms) →
      ∃ e, parseIndex (String.ofList (before ++ (text ++ after))) = .error e) ∧
    (∀ cut more, before ++ text = cut ++ more → more ≠ [] →
      ∃ e, parseIndex (String.ofList cut) = .error e) ∧
    ∀ after, ¬ Blank after →
      ∃ e, parseIndex (String.ofList (before ++ (text ++ after))) = .error e := by
  refine ⟨fun after docs ha hes => (parseIndex_eq_ok_iff hb h).2 ⟨ha, hes⟩, ?_, ?_, ?_⟩
  · rintro after ⟨ms, hms, hspoilt⟩
    refine exists_error fun docs hdocs => ?_
    obtain ⟨-, hes⟩ := (parseIndex_eq_ok_iff hb h).1 hdocs
    obtain ⟨doc, -, hd⟩ := exists_partner hes hms
    exact hd.not_spoilt hspoilt
  · exact fun cut more hcut hmore => exists_error fun docs => parseIndex_cut hb h hcut hmore
  · exact fun after ha => exists_error fun docs hdocs =>
      ha ((parseIndex_eq_ok_iff hb h).1 hdocs).1

/-- A list with two elements. The first has an unknown member, a name that is followed by white
space, and an escaped pair of surrogates; the second leaves everything out. -/
theorem parseIndex_faithful_pair :
    parseIndex "[\x7b\"tags\":[1],\"title\" : \"\\ud83d\\ude00\"\x7d,\x7b\x7d]\n" =
      .ok [{ title := "😀" }, {}] ∧
    (∃ e, parseIndex "[\x7b\"tags\":[1],\"title\" : \"\\ud83d\\ude00\"\x7d" = .error e) ∧
    (∃ e, parseIndex "[\x7b\"tags\":[1],\"title\" : \"\\ud83d\\ude00\"\x7d,\x7b\x7d]]" =
      .error e) ∧
    ∃ e, parseIndex "[\x7b\"title\":null\x7d]" = .error e := by
  -- the value of the unknown member
  have hone : Itself (ValueText 0) ['1'] ['1'] := ⟨rfl, .number (numberText_digit rfl)⟩
  have hlist : ValueText 1 "[1]".toList :=
    .inr (.inl ⟨[['1']], .items (.single blank_nil hone blank_nil)⟩)
  -- the title
  have hpair : SpellsChar '😀' "\\ud83d\\ude00".toList := by
    have h : HexDigits 0xd83d "d83d".toList := hexDigits_iff.2 rfl
    have h' : HexDigits 0xde00 "de00".toList := hexDigits_iff.2 rfl
    have hc : 0x10000 + (0xd83d - 0xD800) * 0x400 + (0xde00 - 0xDC00) = 0x1f600 := by
      simp only [Nat.reduceAdd, Nat.reduceSub, Nat.reduceMul]
    have hpair := SpellsChar.pair h h' (by decide) (by decide)
    rwa [hc] at hpair
  have hspells : Spells "😀".toList "\\ud83d\\ude00".toList := .cons hpair .nil
  have htitle : ValueText 0 (quote "\\ud83d\\ude00".toList) := .string hspells.stringText
  -- the list
  have hspace : Blank [' '] := by decide
  have hfirst : ObjectText [⟨"tags", "[1]".toList⟩, ⟨"title", quote "\\ud83d\\ude00".toList⟩]
      "\x7b\"tags\":[1],\"title\" : \"\\ud83d\\ude00\"\x7d".toList :=
    .items (.cons blank_nil (Member.writes_self (by decide) blank_nil blank_nil hlist) blank_nil
      (.single blank_nil (Member.writes_self (by decide) hspace hspace htitle) blank_nil))
  have hsecond : ObjectText [] "\x7b\x7d".toList := .empty blank_nil
  have htext : Enclosed '[' ']' ObjectText
      [[⟨"tags", "[1]".toList⟩, ⟨"title", quote "\\ud83d\\ude00".toList⟩], []]
      "[\x7b\"tags\":[1],\"title\" : \"\\ud83d\\ude00\"\x7d,\x7b\x7d]".toList :=
    .items (.cons blank_nil hfirst blank_nil (.single blank_nil hsecond blank_nil))
  -- a list whose element is spoilt
  have hnull : ValueText 0 "null".toList := .null
  have hspoilt : ObjectText [⟨"title", "null".toList⟩] "\x7b\"title\":null\x7d".toList :=
    .items (.single blank_nil (Member.writes_self (by decide) blank_nil blank_nil hnull) blank_nil)
  obtain ⟨hread, -, hcut, hmore⟩ := parseIndex_faithful blank_nil htext
  refine ⟨hread ['\n'] _ (by decide) (.cons ?_ (.cons ?_ .nil)),
    hcut "[\x7b\"tags\":[1],\"title\" : \"\\ud83d\\ude00\"\x7d".toList ",\x7b\x7d]".toList rfl
      (by decide),
    hmore [']'] (by decide),
    (parseIndex_faithful blank_nil (.items (.single blank_nil hspoilt blank_nil))).2.1 []
      ⟨_, List.mem_cons_self, ?_⟩⟩
  · refine ⟨⟨some "😀", ⟨⟨"title", quote "\\ud83d\\ude00".toList⟩, by simp, _, hspells, rfl⟩, rfl⟩,
      ⟨none, by simp [Valued], rfl⟩, ⟨none, by simp [Valued], rfl⟩, ⟨none, by simp [Valued], rfl⟩⟩
  · exact ⟨⟨none, rfl, rfl⟩, ⟨none, rfl, rfl⟩, ⟨none, rfl, rfl⟩, ⟨none, rfl, rfl⟩⟩
  · refine ⟨"title", by simp [documentType], .inr ⟨_, List.mem_cons_self, rfl, ?_⟩⟩
    rintro s ⟨inner, -, heq⟩
    cases heq

end SearchPanel.Json
