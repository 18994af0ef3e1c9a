import SearchPanel.Fragment
import SearchPanel.Proofs.Text.Cut

/-!
# The link target in a list item

* `linkTarget? html`: what stands between the first `href="` of a text and the next quote, and what
  follows that quote.
* `unescapeAttribute`: a text with the four references of link targets replaced, which takes back
  what `escapeAttribute` does (`unescapeAttribute_escapeAttribute`).
* `linkTarget_toHtml`: the list item of a fragment has its link target there, escaped and closed
  off, whatever markup follows.
-/

namespace SearchPanel

variable {text before after : List Char} {c d : Char}

/-- The references that a link target is written with. -/
def attributeReferences : List (List Char) :=
  ["&amp;".toList, "&lt;".toList, "&gt;".toList, "&quot;".toList]

/-- A text with the references of link targets replaced, in one pass from the left. -/
def unescapeAttribute : List Char → List Char
  | '&' :: 'a' :: 'm' :: 'p' :: ';' :: rest => '&' :: unescapeAttribute rest
  | '&' :: 'l' :: 't' :: ';' :: rest => '<' :: unescapeAttribute rest
  | '&' :: 'g' :: 't' :: ';' :: rest => '>' :: unescapeAttribute rest
  | '&' :: 'q' :: 'u' :: 'o' :: 't' :: ';' :: rest => '"' :: unescapeAttribute rest
  | c :: rest => c :: unescapeAttribute rest
  | [] => []

/-! ## Escaping a link target -/

/-- A character is written as it is, or by a reference. -/
theorem escapeAttributeChar_cases (c : Char) :
    (c ≠ '&' ∧ c ≠ '<' ∧ c ≠ '>' ∧ c ≠ '"') ∧ escapeAttributeChar c = [c] ∨
      escapeAttributeChar c ∈ attributeReferences := by
  unfold escapeAttributeChar
  by_cases ha : c = '&'
  · simp [ha, attributeReferences]
  by_cases hl : c = '<'
  · simp [hl, attributeReferences]
  by_cases hg : c = '>'
  · simp [hg, attributeReferences]
  by_cases hq : c = '"'
  · simp [hq, attributeReferences]
  simp [ha, hl, hg, hq]

theorem not_mem_reference : ∀ r ∈ attributeReferences, '<' ∉ r ∧ '>' ∉ r ∧ '"' ∉ r := by
  decide

/-- A reference begins with its only ampersand. -/
theorem reference_ampersand : ∀ r ∈ attributeReferences, ∃ rest, r = '&' :: rest ∧ '&' ∉ rest := by
  intro r hr
  refine ⟨r.tail, ?_⟩
  revert r
  decide

/-- A character of an escaped text stands in the text, or in a reference. -/
theorem mem_escapeAttribute_cases (h : d ∈ escapeAttribute text) :
    d ∈ text ∧ d ≠ '<' ∧ d ≠ '>' ∧ d ≠ '"' ∨ ∃ r ∈ attributeReferences, d ∈ r := by
  obtain ⟨c, hc, hd⟩ := List.mem_flatMap.1 h
  rcases escapeAttributeChar_cases c with ⟨hne, he⟩ | hr
  · rw [he, List.mem_singleton] at hd
    rw [hd]
    exact .inl ⟨hc, hne.2⟩
  · exact .inr ⟨_, hr, hd⟩

/-- What is written holds no character that means something in the attribute. -/
theorem ne_of_mem_escapeAttribute (h : d ∈ escapeAttribute text) :
    d ≠ '<' ∧ d ≠ '>' ∧ d ≠ '"' := by
  rcases mem_escapeAttribute_cases h with ⟨-, hne⟩ | ⟨r, hr, hd⟩
  · exact hne
  · obtain ⟨hl, hg, hq⟩ := not_mem_reference r hr
    exact ⟨fun h => hl (h ▸ hd), fun h => hg (h ▸ hd), fun h => hq (h ▸ hd)⟩

/-- An ampersand in what is written for one character begins it, and it is a reference. -/
theorem escapeAttributeChar_ampersand (h : escapeAttributeChar c = before ++ '&' :: after) :
    before = [] ∧ '&' :: after ∈ attributeReferences := by
  rcases escapeAttributeChar_cases c with ⟨hc, he⟩ | hr
  · have hmem : '&' ∈ [c] := by rw [← he, h]; simp
    exact absurd (List.mem_singleton.1 hmem).symm hc.1
  · obtain ⟨rest, hrest, hnot⟩ := reference_ampersand _ hr
    cases before with
    | nil =>
      rw [h] at hr
      exact ⟨rfl, hr⟩
    | cons x before =>
      have htail : rest = before ++ '&' :: after := (List.cons.inj (hrest.symm.trans h)).2
      exact absurd (by simp [htail]) hnot

/-- Every ampersand of an escaped text begins a reference. -/
theorem escapeAttribute_ampersand (h : escapeAttribute text = before ++ '&' :: after) :
    ∃ r ∈ attributeReferences, r <+: '&' :: after := by
  induction text generalizing before with
  | nil => simp [escapeAttribute] at h
  | cons c rest ih =>
    have hcons : escapeAttributeChar c ++ escapeAttribute rest = before ++ '&' :: after := h
    rcases List.append_eq_append_iff.1 hcons with ⟨more, -, hrest⟩ | ⟨more, hc, hrest⟩
    · exact ih hrest
    · cases more with
      | nil => exact @ih [] hrest.symm
      | cons x more =>
        obtain ⟨rfl, rfl⟩ := List.cons.inj hrest
        exact ⟨_, (escapeAttributeChar_ampersand hc).2, List.prefix_append _ _⟩

theorem unescapeAttribute_cons (hc : c ≠ '&') (rest : List Char) :
    unescapeAttribute (c :: rest) = c :: unescapeAttribute rest := by
  rw [unescapeAttribute] <;> exact fun _ h _ => hc h

/-- Escaping is taken back exactly, also of a text that looks escaped already. -/
theorem unescapeAttribute_escapeAttribute (text : List Char) :
    unescapeAttribute (escapeAttribute text) = text := by
  induction text with
  | nil => rfl
  | cons c rest ih =>
    show unescapeAttribute (escapeAttributeChar c ++ escapeAttribute rest) = c :: rest
    by_cases ha : c = '&'
    · subst ha; simp [escapeAttributeChar, unescapeAttribute, ih]
    by_cases hl : c = '<'
    · subst hl; simp [escapeAttributeChar, unescapeAttribute, ih]
    by_cases hg : c = '>'
    · subst hg; simp [escapeAttributeChar, unescapeAttribute, ih]
    by_cases hq : c = '"'
    · subst hq; simp [escapeAttributeChar, unescapeAttribute, ih]
    have hc : escapeAttributeChar c = [c] := by simp [escapeAttributeChar, ha, hl, hg, hq]
    rw [hc, List.singleton_append, unescapeAttribute_cons ha, ih]

theorem escapeAttribute_injective : Function.Injective escapeAttribute :=
  Function.LeftInverse.injective unescapeAttribute_escapeAttribute

/-! ## The link target in the list item -/

namespace Fragment

/-- What stands in front of a link target. -/
def hrefOpen : List Char := "href=\"".toList

/-- What stands between the first `href="` of a text and the next quote, and what follows that
quote. -/
def linkTarget? (html : List Char) : Option (List Char × List Char) :=
  (Text.cut? hrefOpen html).bind fun (_, rest) => Text.cut? ['"'] rest

/-- What follows the link target and its quote. -/
def behindHref (f : Fragment) : List Char :=
  beforeTitle.toList.drop 1 ++ f.titleHtml.toList ++ beforeBody.toList ++ f.bodyHtml.toList ++
    afterBody.toList

/-- The end of the link target is found, whatever markup follows. -/
theorem linkTarget?_toHtml (f : Fragment) :
    linkTarget? f.toHtml.toList = some (escapeAttribute f.href.toList, f.behindHref) := by
  have hhtml : f.toHtml.toList = "<li><a class=\"search-result\" ".toList ++
      (hrefOpen ++ (escapeAttribute f.href.toList ++ ('"' :: f.behindHref))) := by
    have hhref : beforeHref.toList = "<li><a class=\"search-result\" ".toList ++ hrefOpen := by
      decide
    have htitle : beforeTitle.toList = '"' :: beforeTitle.toList.drop 1 := by decide
    simp only [toHtml, behindHref, String.toList_append, String.toList_ofList, hhref,
      List.append_assoc]
    rw [htitle]
    rfl
  have hopen : Text.cut? hrefOpen f.toHtml.toList =
      some ("<li><a class=\"search-result\" ".toList,
        escapeAttribute f.href.toList ++ ('"' :: f.behindHref)) := by
    rw [hhtml]
    refine Text.cut?_append (by decide) ?_
    rw [← Text.occursIn_iff]
    decide
  have hclose : ¬ ['"'] <:+: escapeAttribute f.href.toList := by
    intro h
    exact (ne_of_mem_escapeAttribute (h.subset (List.mem_singleton_self _))).2.2 rfl
  rw [linkTarget?, hopen, Option.bind_some]
  exact Text.cut?_append (by simp) hclose

/-! ## Main result -/

/-- **The link target in a list item** ends at the first quote behind its beginning. It holds no
character that means something there, but for ampersands that begin a reference. With the references
replaced it is the link again, so the list item determines the link. Title and body follow it as
they are. -/
theorem linkTarget_toHtml (f : Fragment) :
    ∃ value, linkTarget? f.toHtml.toList = some (value,
        "><div class=\"search-result__title\">".toList ++ f.titleHtml.toList ++
          "</div><p class=\"search-result__body\">".toList ++ f.bodyHtml.toList ++
          "</p></a></li>".toList) ∧
      (∀ c ∈ value, c ≠ '<' ∧ c ≠ '>' ∧ c ≠ '"') ∧
      (∀ before after, value = before ++ '&' :: after →
        ∃ r ∈ attributeReferences, r <+: '&' :: after) ∧
      unescapeAttribute value = f.href.toList ∧
      ∀ g : Fragment, g.toHtml = f.toHtml → g.href = f.href := by
  refine ⟨escapeAttribute f.href.toList, linkTarget?_toHtml f, fun c => ne_of_mem_escapeAttribute,
    fun before after => escapeAttribute_ampersand, unescapeAttribute_escapeAttribute _,
    fun g hg => ?_⟩
  have hsome := linkTarget?_toHtml f
  rw [← hg, linkTarget?_toHtml g, Option.some.injEq, Prod.mk.injEq] at hsome
  exact String.toList_injective (escapeAttribute_injective hsome.1)

/-- A link with a reference and quotes in it, in front of a title that looks like a link. -/
theorem linkTarget_toHtml_quoted :
    let f : Fragment := { titleHtml := "href=\"x\"", bodyHtml := "", href := "/?a&lt;b\" c=\"<&" }
    ∃ value, (∃ rest, linkTarget? f.toHtml.toList = some (value, rest)) ∧
      value = "/?a&amp;lt;b&quot; c=&quot;&lt;&amp;".toList ∧
      (∃ r ∈ attributeReferences, r <+: "&amp;lt;b&quot; c=&quot;&lt;&amp;".toList) ∧
      unescapeAttribute value = f.href.toList ∧
      ∀ g : Fragment, g.toHtml = f.toHtml → g.href = f.href := by
  intro f
  obtain ⟨value, hvalue, -, hampersand, hhref, hinjective⟩ := linkTarget_toHtml f
  obtain rfl : value = "/?a&amp;lt;b&quot; c=&quot;&lt;&amp;".toList := by
    have hfound := (linkTarget?_toHtml f).symm.trans hvalue
    exact (Prod.mk.inj (Option.some.inj hfound)).1.symm.trans (by decide)
  exact ⟨_, ⟨_, hvalue⟩, rfl, hampersand "/?a".toList _ rfl, hhref, hinjective⟩

end Fragment

end SearchPanel
