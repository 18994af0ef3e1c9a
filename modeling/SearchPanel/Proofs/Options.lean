import SearchPanel.Proofs.Json.Index
import SearchPanel.Proofs.LoadedIndex
import SearchPanel.Proofs.Page.Shortcut

/-!
# Options by three ways

Page options come as JSON, or as a value of a script: for the panels of a page, or for an index of
the script's own.

* `ofValue_known`: the ways through a script do not see members other than `indexPath`.
* `parseOptions_known`: an object that has no other member means the same as JSON and as a value.
* `options_by_three_ways`: other members are refused in JSON, and only there. Without them either
  all three ways refuse the object, or all three give the same settings, of which only the path may
  differ from the theme's. `unknown_option_taken` is an object that JSON refuses and scripts do not.
-/

namespace SearchPanel

open Json

variable {members : List (String × OptionValue)} {ms : List Member}
  {before text after v : List Char} {x : OptionValue} {o : PageOptions} {path : Option String}

/-! ## Options as JSON -/

/-- `text` is a JSON text of the value, as far as options tell values apart: what stands in lists
and objects does not matter, nor which number a number is. There is none for what is undefined. -/
def OptionValue.WrittenAs : OptionValue → List Char → Prop
  | undefined, _ => False
  | null, text => text = "null".toList
  | boolean b, text => text = if b then "true".toList else "false".toList
  | number _, text => NumberText text
  | OptionValue.text s, text => IsText text s
  | list _, text => ∃ depth items, Enclosed '[' ']' (Itself (ValueText depth)) items text
  | object _, text =>
    ∃ depth items, Enclosed '{' '}' (Itself (MemberText StringText (ValueText depth))) items text

theorem not_isOptionalText {c : Char} {tail : List Char} (hq : c ≠ '"') (hn : c ≠ 'n') :
    ¬ IsOptionalText (c :: tail) path := by
  cases path with
  | none => exact fun h => hn (List.cons.inj h).1
  | some s =>
    rintro ⟨inner, -, h⟩
    exact hq (List.cons.inj h).1

theorem not_isOptionalText_number (h : NumberText v) : ¬ IsOptionalText v path := by
  cases h with
  | positive h =>
    obtain ⟨c, tail, rfl, hc⟩ := h.head
    refine not_isOptionalText ?_ ?_ <;> (rintro rfl; cases hc)
  | negative h => exact not_isOptionalText (by decide) (by decide)

/-- As a value of the path, JSON and a script mean the same. -/
theorem OptionValue.WrittenAs.isOptionalText_iff (h : x.WrittenAs v) :
    IsOptionalText v path ↔ OptionValue.toPath (some x) = .ok path := by
  cases x with
  | undefined => cases h
  | null =>
    obtain rfl := h
    cases path with
    | none => exact iff_of_true rfl rfl
    | some s =>
      refine iff_of_false ?_ (fun h => by cases h)
      rintro ⟨inner, -, h⟩
      cases h
  | boolean b =>
    obtain rfl := h
    refine iff_of_false ?_ (fun h => by cases h)
    cases b <;> exact not_isOptionalText (by decide) (by decide)
  | number y => exact iff_of_false (not_isOptionalText_number h) (fun h => by cases h)
  | text s =>
    cases path with
    | none =>
      refine iff_of_false ?_ (fun h => by cases h)
      obtain ⟨inner, -, rfl⟩ := h
      exact fun h => by cases h
    | some s' =>
      constructor
      · intro h'
        rw [h.unique h']
        rfl
      · intro h'
        obtain rfl := Option.some.inj (Except.ok.inj h')
        exact h
  | list items =>
    obtain ⟨depth, items, h⟩ := h
    obtain ⟨tail, rfl⟩ := h.head
    exact iff_of_false (not_isOptionalText (by decide) (by decide)) (fun h => by cases h)
  | object members =>
    obtain ⟨depth, items, h⟩ := h
    obtain ⟨tail, rfl⟩ := h.head
    exact iff_of_false (not_isOptionalText (by decide) (by decide)) (fun h => by cases h)

/-- A member of a JSON text has the name and the value of an option. -/
structure Same (m : Member) (p : String × OptionValue) : Prop where
  name : m.name = p.1
  value : p.2.WrittenAs m.value

/-- The options of an object are those of its fields, and nothing but white space follows it. -/
theorem parseOptions_eq_ok_iff (hb : Blank before) (h : ObjectText ms text) (ha : Blank after) :
    parseOptions (String.ofList (before ++ (text ++ after))) = .ok o ↔
      ∃ fs, Taken optionsType IsOptionalText [] ms fs ∧ o = ⟨(fs.lookup "indexPath").join⟩ := by
  have hrecord : ∀ fs left, readRecord optionsType (before ++ (text ++ after)) = .ok (fs, left) ↔
      left = after ∧ Taken optionsType IsOptionalText [] ms fs := fun fs left =>
    readRecord_append optionsType_takes h hb
  rw [parseOptions, readAll_eq_ok_iff]
  unfold readOptions
  constructor
  · rintro ⟨rest, hr, -⟩
    split at hr
    · cases hr
    · next fs left hf =>
      obtain ⟨rfl, -⟩ := Prod.mk.inj (Except.ok.inj hr)
      exact ⟨fs, ((hrecord _ _).1 hf).2, rfl⟩
  · rintro ⟨fs, hf, rfl⟩
    refine ⟨after, ?_, ha⟩
    rw [(hrecord fs after).2 ⟨rfl, hf⟩]

/-- Another member than the path is refused. -/
theorem parseOptions_unknown (hb : Blank before) (h : ObjectText ms text) (ha : Blank after)
    {m : Member} (hm : m ∈ ms) (hname : m.name ≠ "indexPath") :
    ∃ e, parseOptions (String.ofList (before ++ (text ++ after))) = .error e := by
  refine exists_error fun o ho => ?_
  obtain ⟨fs, hf, -⟩ := (parseOptions_eq_ok_iff hb h ha).1 ho
  exact hname (List.mem_singleton.1 (hf.allowed rfl m hm))

/-! ## Options as values -/

theorem lookup_filter (name : String) (members : List (String × OptionValue)) :
    (members.filter (·.1 = name)).lookup name = members.lookup name := by
  induction members with
  | nil => rfl
  | cons p members ih =>
    obtain ⟨key, x⟩ := p
    by_cases hkey : key = name
    · rw [List.filter_cons_of_pos (by simpa using hkey)]
      simp [hkey]
    · rw [List.filter_cons_of_neg (by simpa using hkey), ih, List.lookup_cons,
        beq_eq_false_iff_ne.2 (Ne.symm hkey)]

/-- Of an object only the path is seen. -/
theorem ofValue_known (members : List (String × OptionValue)) :
    PageOptions.ofValue (.object (members.filter (·.1 = "indexPath"))) =
      PageOptions.ofValue (.object members) := by
  rw [PageOptions.ofValue, lookup_filter, PageOptions.ofValue]

theorem ofValue_singleton :
    PageOptions.ofValue (.object [("indexPath", x)]) = .ok o ↔
      ∃ path, OptionValue.toPath (some x) = .ok path ∧ o = ⟨path⟩ := by
  have hlookup : [("indexPath", x)].lookup "indexPath" = some x := by simp
  rw [PageOptions.ofValue, hlookup]
  cases OptionValue.toPath (some x) with
  | error e => simp [Except.map]
  | ok path => simp [Except.map, eq_comm]

theorem taken_singleton {m : Member} (hname : m.name = "indexPath") {fs : Fields (Option String)} :
    Taken optionsType IsOptionalText [] [m] fs ↔
      ∃ path, IsOptionalText m.value path ∧ fs = [("indexPath", path)] := by
  have hfield : m.name ∈ optionsType.fields := List.mem_singleton.2 hname
  rw [taken_cons, or_iff_left fun h => h.1 hfield, and_iff_right hfield,
    and_iff_right List.lookup_nil, hname]
  simp only [taken_nil, List.nil_append]

/-- An object without other members means the same as JSON and as a value. -/
theorem parseOptions_known (hb : Blank before) (h : ObjectText ms text) (ha : Blank after)
    (hsame : List.Forall₂ Same ms members) (hkeys : (members.map Prod.fst).Nodup)
    (hknown : ∀ p ∈ members, p.1 = "indexPath") :
    parseOptions (String.ofList (before ++ (text ++ after))) = .ok o ↔
      PageOptions.ofValue (.object members) = .ok o := by
  rw [parseOptions_eq_ok_iff hb h ha]
  cases hsame with
  | nil =>
    simp only [taken_nil]
    constructor
    · rintro ⟨fs, rfl, rfl⟩
      rfl
    · intro h
      cases h
      exact ⟨[], rfl, rfl⟩
  | @cons m p ms members hp hsame =>
    cases hsame with
    | nil =>
      obtain ⟨hname, hvalue⟩ := hp
      obtain ⟨key, x⟩ := p
      obtain rfl : key = "indexPath" := hknown _ List.mem_cons_self
      rw [ofValue_singleton]
      simp only [taken_singleton hname, hvalue.isOptionalText_iff]
      constructor
      · rintro ⟨fs, ⟨path, hpath, rfl⟩, rfl⟩
        exact ⟨path, hpath, by simp⟩
      · rintro ⟨path, hpath, rfl⟩
        exact ⟨_, ⟨path, hpath, rfl⟩, by simp⟩
    | @cons m' p' ms members hp' hsame =>
      -- a second member would have the name of the first
      have hne : p.1 ≠ p'.1 := by
        rw [List.map_cons, List.map_cons, List.nodup_cons] at hkeys
        exact fun heq => hkeys.1 (heq ▸ List.mem_cons_self)
      exact absurd ((hknown p (by simp)).trans (hknown p' (by simp)).symm) hne

/-! ## Scripts -/

/-- Scripts get an error for their options: no panel is wired, and no index is made. -/
structure ScriptsRefuse (options : OptionValue) : Prop where
  attach : ∀ page : Page, ∃ e, page.attach options = (.error (.options e), page, [])
  index : ∀ json docs, parseIndex json = .ok docs →
    ∃ e, LoadedIndex.ofText json options = .error (.options e)

/-- Scripts get panels, or an index, with these settings. -/
structure ScriptsTake (options : OptionValue) (config : Config) : Prop where
  attach : ∀ (page : Page) (e : OptionError), (page.attach options).1 ≠ .error (.options e)
  panels : ∀ page : Page, ∃ new, (page.attach options).2.1.panels = page.panels ++ new ∧
    ∀ s ∈ new, s.controller = { config }
  index : ∀ json docs, parseIndex json = .ok docs →
    LoadedIndex.ofText json options = .ok ⟨docs, config⟩

theorem scriptsRefuse {options : OptionValue} {e : OptionError}
    (h : PageOptions.ofValue options = .error e) : ScriptsRefuse options where
  attach page := by
    rw [Page.attach, h]
    exact ⟨e, rfl⟩
  index json docs hdocs := by
    rw [LoadedIndex.ofText, loadText_of_ok hdocs, h]
    exact ⟨e, rfl⟩

theorem scriptsTake {options : OptionValue} (h : PageOptions.ofValue options = .ok o) :
    ScriptsTake options o.toConfig where
  attach page e := by
    rw [Page.attach, h]
    simp only
    split
    · exact fun h => by cases h
    split
    · exact fun h => by cases h
    split
    · exact fun h => by cases h
    · exact fun h => by cases h
  panels page := by
    have hattached := page.attached options
    generalize (page.attach options).1 = result, (page.attach options).2.1 = q at hattached ⊢
    cases hattached with
    | nothing _ hpanels => exact ⟨[], hpanels.trans (List.append_nil _).symm, by simp⟩
    | sections ho _ hpanels =>
      obtain rfl := Except.ok.inj (h.symm.trans ho)
      refine ⟨_, hpanels, fun s hs => ?_⟩
      obtain ⟨root, -, hroot⟩ := List.mem_filterMap.1 hs
      exact (Page.of_sectionOf (Page.eq_ok_of_toOption hroot)).1
  index json docs hdocs :=
    LoadedIndex.ofText_eq_ok_iff.2 ⟨docs, o, hdocs, h, rfl⟩

/-! ## Main result -/

/-- **Options by three ways.** In JSON an object with another member than the path is refused.
Scripts do not see such members. An object without them is refused by all three ways, or all three
give the same settings, of which only the path may differ from the theme's. -/
theorem options_by_three_ways (hb : Blank before) (h : ObjectText ms text) (ha : Blank after)
    (hsame : List.Forall₂ Same ms members) (hkeys : (members.map Prod.fst).Nodup) :
    ((∃ p ∈ members, p.1 ≠ "indexPath") →
      ∃ e, parseOptions (String.ofList (before ++ (text ++ after))) = .error e) ∧
    (∀ page : Page, page.attach (.object members) =
      page.attach (.object (members.filter (·.1 = "indexPath")))) ∧
    (∀ json, LoadedIndex.ofText json (.object members) =
      LoadedIndex.ofText json (.object (members.filter (·.1 = "indexPath")))) ∧
    ((∀ p ∈ members, p.1 = "indexPath") →
      (∃ e, parseOptions (String.ofList (before ++ (text ++ after))) = .error e) ∧
        ScriptsRefuse (.object members) ∨
      ∃ o path, parseOptions (String.ofList (before ++ (text ++ after))) = .ok o ∧
        o.toConfig = { indexPath := path } ∧
        ScriptsTake (.object members) { indexPath := path }) := by
  refine ⟨?_, fun page => ?_, fun json => ?_, fun hknown => ?_⟩
  · rintro ⟨p, hp, hname⟩
    obtain ⟨m, hm, hmp⟩ := exists_partner hsame.flip hp
    exact parseOptions_unknown hb h ha hm (hmp.name ▸ hname)
  · rw [Page.attach, Page.attach, ofValue_known]
  · rw [LoadedIndex.ofText, LoadedIndex.ofText, ofValue_known]
  · have hparse : ∀ o, parseOptions (String.ofList (before ++ (text ++ after))) = .ok o ↔
        PageOptions.ofValue (.object members) = .ok o := fun o =>
      parseOptions_known hb h ha hsame hkeys hknown
    cases ho : PageOptions.ofValue (.object members) with
    | error e =>
      refine .inl ⟨exists_error fun o hjson => ?_, scriptsRefuse ho⟩
      cases ho.symm.trans ((hparse o).1 hjson)
    | ok o => exact .inr ⟨o, _, (hparse o).2 ho, rfl, scriptsTake ho⟩

theorem objectText_minChars :
    ObjectText [⟨"minChars", ['2']⟩] "\x7b\"minChars\":2\x7d".toList := by
  have hvalue : ValueText 0 ['2'] := .number (numberText_digit rfl)
  exact .items (.single blank_nil (Member.writes_self (by decide) blank_nil blank_nil hvalue)
    blank_nil)

theorem objectText_path : ObjectText [⟨"indexPath", quote "/a.json".toList⟩]
    "\x7b\"indexPath\":\"/a.json\"\x7d".toList := by
  have hspells : Spells "/a.json".toList "/a.json".toList := .self (by decide)
  have hvalue : ValueText 0 (quote "/a.json".toList) := .string hspells.stringText
  exact .items (.single blank_nil (Member.writes_self (by decide) blank_nil blank_nil hvalue)
    blank_nil)

theorem parseIndex_empty : parseIndex "[]" = .ok [] := by
  have hlist : Enclosed '[' ']' ObjectText [] "[]".toList := .empty blank_nil
  have hread : parseIndex (String.ofList ([] ++ ("[]".toList ++ []))) = .ok [] :=
    (parseIndex_eq_ok_iff blank_nil hlist).2 ⟨blank_nil, .nil⟩
  exact hread

theorem ofValue_path : PageOptions.ofValue (.object [("indexPath", .text "/a.json")]) =
    .ok ⟨some "/a.json"⟩ := ofValue_singleton.2 ⟨some "/a.json", rfl, rfl⟩

/-- An option of the theme's, which JSON refuses and scripts do not see, and a path. -/
theorem options_by_three_ways_path :
    (∃ e, parseOptions "\x7b\"minChars\":2\x7d" = .error e) ∧
    (∀ page : Page, page.attach (.object [("minChars", .number 2)]) = page.attach (.object [])) ∧
    ∃ o path, parseOptions "\x7b\"indexPath\":\"/a.json\"\x7d" = .ok o ∧
      o.toConfig = { indexPath := path } ∧
      ScriptsTake (.object [("indexPath", .text "/a.json")]) { indexPath := path } := by
  have hunknown : List.Forall₂ Same [⟨"minChars", ['2']⟩] [("minChars", .number 2)] :=
    .cons ⟨rfl, numberText_digit rfl⟩ .nil
  have hpath : List.Forall₂ Same [⟨"indexPath", quote "/a.json".toList⟩]
      [("indexPath", .text "/a.json")] :=
    .cons ⟨rfl, _, .self (by decide), rfl⟩ .nil
  obtain ⟨hrefused, hattach, -, -⟩ :=
    options_by_three_ways blank_nil objectText_minChars blank_nil hunknown (by simp)
  obtain ⟨-, -, -, hknown⟩ :=
    options_by_three_ways blank_nil objectText_path blank_nil hpath (by simp)
  refine ⟨hrefused ⟨_, List.mem_cons_self, by decide⟩, fun page => ?_, ?_⟩
  · simpa using hattach page
  · refine (hknown (by simp)).resolve_left ?_
    rintro ⟨-, hrefuse⟩
    obtain ⟨e, he⟩ := hrefuse.index "[]" [] parseIndex_empty
    have htaken := (scriptsTake ofValue_path).index "[]" [] parseIndex_empty
    cases he.symm.trans htaken

/-- **An option of the theme's is refused in JSON only**: a page does not refuse it, and a script
gets its index. -/
theorem unknown_option_taken :
    (∃ e, parseOptions "\x7b\"minChars\":2\x7d" = .error e) ∧
    (∀ (page : Page) (e : OptionError),
      (page.attach (.object [("minChars", .number 2)])).1 ≠ .error (.options e)) ∧
    LoadedIndex.ofText "[]" (.object [("minChars", .number 2)]) = .ok ⟨[], {}⟩ := by
  have hjson : ∃ e, parseOptions (String.ofList ([] ++ ("\x7b\"minChars\":2\x7d".toList ++ []))) =
      .error e :=
    parseOptions_unknown blank_nil objectText_minChars blank_nil List.mem_cons_self (by decide)
  have hvalue : PageOptions.ofValue (.object [("minChars", .number 2)]) = .ok {} := by
    simp [PageOptions.ofValue, List.lookup_cons, OptionValue.toPath, Except.map]
  have htake := scriptsTake hvalue
  exact ⟨hjson, htake.attach, htake.index "[]" [] parseIndex_empty⟩

end SearchPanel
