import SearchPanel.Proofs.Text.Cut
import SearchPanel.Terminal.Markup

/-!
# The pieces of an excerpt

* `infix_of_mem_excerpt`: every segment of an excerpt stands in the field.
* `mem_of_mem_snippet`: a snippet has characters of the field, of the tags and of the ellipsis only.
* `Excerpt.pieces`: the segments with the ellipses among the plain ones.
* `ofMarkup_snippet`: they are read back from the markup of a field that has no such tags itself.
-/

namespace SearchPanel

variable {field query : List Char} {marks : List Span} {s : Segment} {c : Char}
  {a stop length : Nat}

theorem infix_slice (field : List Char) (a b : Nat) : slice field a b <:+: field :=
  (List.take_prefix _ _).isInfix.trans (List.drop_suffix _ _).isInfix

theorem infix_of_mem_segments (hs : s ∈ segments field a stop marks) : s.text <:+: field := by
  induction marks generalizing a with
  | nil =>
    obtain rfl := List.mem_singleton.1 hs
    exact infix_slice field a stop
  | cons m marks ih =>
    rw [segments, List.mem_cons, List.mem_cons] at hs
    rcases hs with rfl | rfl | hs
    · exact infix_slice field a m.first
    · exact infix_slice field m.first m.stop
    · exact ih hs

/-- Every segment of an excerpt stands in the field. -/
theorem infix_of_mem_excerpt (hs : s ∈ (excerpt field query length).segments) :
    s.text <:+: field := by
  unfold excerpt at hs
  by_cases hempty : (field.isEmpty || query.isEmpty) = true
  · rw [if_pos hempty] at hs
    cases hs
  rw [if_neg hempty] at hs
  dsimp only at hs
  split at hs
  · obtain rfl := List.mem_singleton.1 hs
    exact (List.take_prefix _ _).isInfix
  · exact infix_of_mem_segments hs

/-- A snippet has characters of the field, of the tags and of the ellipsis only. -/
theorem mem_of_mem_snippet {field query : String} (hc : c ∈ (snippet field query length).toList) :
    c ∈ field.toList ∨ c ∈ markOpen ∨ c ∈ markClose ∨ c ∈ ellipsis := by
  have hellipsis : ∀ cut : Bool, c ∈ (if cut = true then ellipsis else []) → c ∈ ellipsis := by
    intro cut h
    cases cut
    · cases h
    · exact h
  rw [snippet, String.toList_ofList, Excerpt.render, List.mem_append, List.mem_append,
    List.mem_flatMap] at hc
  rcases hc with (h | ⟨s, hs, h⟩) | h
  · exact .inr (.inr (.inr (hellipsis _ h)))
  · have hfield : c ∈ s.text → c ∈ field.toList := fun h => (infix_of_mem_excerpt hs).subset h
    cases s with
    | plain t => exact .inl (hfield h)
    | marked t =>
      rw [Segment.render, List.mem_append, List.mem_append] at h
      rcases h with (h | h) | h
      · exact .inr (.inl h)
      · exact .inl (hfield h)
      · exact .inr (.inr (.inl h))
  · exact .inr (.inr (.inr (hellipsis _ h)))

/-- What stands neither in the tags nor in the ellipsis comes into a snippet with the field. -/
theorem not_mem_snippet {field : String} (h : c ∉ field.toList)
    (hc : c ∉ markOpen ++ markClose ++ ellipsis) (query : String) (length : Nat) :
    c ∉ (snippet field query length).toList := by
  intro hmem
  rcases mem_of_mem_snippet hmem with hfield | hopen | hclose | hellipsis
  · exact h hfield
  · exact hc (by simp [hopen])
  · exact hc (by simp [hclose])
  · exact hc (by simp [hellipsis])

/-! ## Reading the markup back -/

/-- The segments with `before` and `after` around them, a plain one on each side of each mark. -/
def closePieces (before after : List Char) : List Segment → List Segment
  | [] => [.plain (before ++ after)]
  | .plain t :: rest => closePieces (before ++ t) after rest
  | .marked t :: rest => .plain before :: .marked t :: closePieces [] after rest

/-- The segments of an excerpt with the ellipses among the plain ones. -/
def Excerpt.pieces (e : Excerpt) : List Segment :=
  closePieces (if e.cutBefore then ellipsis else []) (if e.cutAfter then ellipsis else [])
    e.segments

/-- Neither tag stands in the text. -/
def Untagged (text : List Char) : Prop := ¬ markOpen <:+: text ∧ ¬ markClose <:+: text

instance (text : List Char) : Decidable (Untagged text) := inferInstanceAs (Decidable (_ ∧ _))

/-- A text without the character that tags begin with. -/
theorem untagged_of_not_mem {text : List Char} (h : '<' ∉ text) : Untagged text :=
  ⟨fun hopen => h (hopen.subset (by decide)), fun hclose => h (hclose.subset (by decide))⟩

theorem cut?_markOpen {before : List Char} (h : Untagged before) (after : List Char) :
    Text.cut? markOpen (before ++ (markOpen ++ after)) = some (before, after) := by
  have htail : '<' ∉ "mark>".toList := by decide
  exact Text.cut?_append htail h.1

theorem cut?_markClose {before : List Char} (h : Untagged before) (after : List Char) :
    Text.cut? markClose (before ++ (markClose ++ after)) = some (before, after) := by
  have htail : '<' ∉ "/mark>".toList := by decide
  exact Text.cut?_append htail h.2

theorem ofMarkup_eq (html : List Char) : Segment.ofMarkup html =
    match Text.cut? markOpen html with
    | none => [.plain html]
    | some (before, rest) =>
      match Text.cut? markClose rest with
      | none => [.plain before, .marked rest]
      | some (inside, after) => .plain before :: .marked inside :: Segment.ofMarkup after := by
  rw [Segment.ofMarkup]
  split
  · next hopen => rw [hopen]
  · next hopen =>
    split
    · next hclose => simp only [hopen, hclose]
    · next hclose => simp only [hopen, hclose]

theorem ofMarkup_eq_plain {html : List Char} (h : Text.cut? markOpen html = none) :
    Segment.ofMarkup html = [.plain html] := by
  rw [ofMarkup_eq, h]

theorem ofMarkup_eq_unclosed {html before rest : List Char}
    (hopen : Text.cut? markOpen html = some (before, rest))
    (hclose : Text.cut? markClose rest = none) :
    Segment.ofMarkup html = [.plain before, .marked rest] := by
  rw [ofMarkup_eq, hopen]
  simp only [hclose]

theorem ofMarkup_eq_marked {html before inside after rest : List Char}
    (hopen : Text.cut? markOpen html = some (before, rest))
    (hclose : Text.cut? markClose rest = some (inside, after)) :
    Segment.ofMarkup html = .plain before :: .marked inside :: Segment.ofMarkup after := by
  rw [ofMarkup_eq, hopen]
  simp only [hclose]

theorem ofMarkup_closePieces {before after : List Char} {segs : List Segment}
    (h : ∀ s ∈ closePieces before after segs, Untagged s.text) :
    Segment.ofMarkup (before ++ segs.flatMap Segment.render ++ after) =
      closePieces before after segs := by
  induction segs generalizing before with
  | nil =>
    have hopen : Text.cut? markOpen (before ++ after) = none :=
      Text.cut?_eq_none_iff.2 (h _ (List.mem_singleton.2 rfl)).1
    rw [List.flatMap_nil, List.append_nil]
    exact ofMarkup_eq_plain hopen
  | cons s rest ih =>
    cases s with
    | plain t =>
      have hrest := @ih (before ++ t) h
      rw [List.flatMap_cons, Segment.render, ← List.append_assoc]
      exact hrest
    | marked t =>
      have hbefore : Untagged before := h (.plain before) (by simp [closePieces])
      have hinside : Untagged t := h (.marked t) (by simp [closePieces])
      have hopen := cut?_markOpen hbefore
        (t ++ (markClose ++ (rest.flatMap Segment.render ++ after)))
      have hclose := cut?_markClose hinside (rest.flatMap Segment.render ++ after)
      have hrest := @ih [] fun s hs => h s (by simp [closePieces, hs])
      have hsplit : before ++ (Segment.marked t :: rest).flatMap Segment.render ++ after =
          before ++ (markOpen ++ (t ++ (markClose ++ (rest.flatMap Segment.render ++ after)))) := by
        simp [Segment.render]
      rw [hsplit, ofMarkup_eq_marked hopen hclose, closePieces, ← hrest]
      rfl

/-! ## A field without tags -/

/-- A pattern does not reach into a text in front that has none of its characters. -/
theorem infix_of_infix_append_right {pattern front text : List Char}
    (hfront : ∀ c ∈ front, c ∉ pattern) (hp : pattern ≠ []) (h : pattern <:+: front ++ text) :
    pattern <:+: text := by
  induction front with
  | nil => exact h
  | cons c front ih =>
    rw [List.cons_append, List.infix_cons_iff] at h
    rcases h with hprefix | h
    · obtain ⟨d, rest, rfl⟩ := List.exists_cons_of_ne_nil hp
      obtain ⟨more, heq⟩ := hprefix
      obtain rfl : d = c := (List.cons.inj heq).1
      exact absurd List.mem_cons_self (hfront d List.mem_cons_self)
    · exact ih (fun x hx => hfront x (by simp [hx])) h

theorem infix_of_infix_append_left {pattern back text : List Char}
    (hback : ∀ c ∈ back, c ∉ pattern) (hp : pattern ≠ []) (h : pattern <:+: text ++ back) :
    pattern <:+: text := by
  have hreverse : pattern.reverse <:+: back.reverse ++ text.reverse := by
    rwa [← List.reverse_append, List.reverse_infix]
  exact List.reverse_infix.1
    (infix_of_infix_append_right (by simpa using hback) (by simpa using hp) hreverse)

/-- Ellipses around a text make no tags. -/
theorem Untagged.ellipses {front text back : List Char} (hfront : front ⊆ ellipsis)
    (hback : back ⊆ ellipsis) (h : Untagged text) : Untagged (front ++ text ++ back) := by
  have hdot : ∀ c ∈ ellipsis, c = '.' := fun c => List.eq_of_mem_replicate (n := 3)
  have hopen : ∀ c ∈ ellipsis, c ∉ markOpen := fun c hc => hdot c hc ▸ (by decide : '.' ∉ markOpen)
  have hclose : ∀ c ∈ ellipsis, c ∉ markClose := fun c hc =>
    hdot c hc ▸ (by decide : '.' ∉ markClose)
  constructor
  · intro htag
    have hleft := infix_of_infix_append_left (fun c hc => hopen c (hback hc)) (by decide) htag
    exact h.1 (infix_of_infix_append_right (fun c hc => hopen c (hfront hc)) (by decide) hleft)
  · intro htag
    have hleft := infix_of_infix_append_left (fun c hc => hclose c (hback hc)) (by decide) htag
    exact h.2 (infix_of_infix_append_right (fun c hc => hclose c (hfront hc)) (by decide) hleft)

theorem Untagged.of_infix {text part : List Char} (h : Untagged text) (hp : part <:+: text) :
    Untagged part := ⟨fun htag => h.1 (htag.trans hp), fun htag => h.2 (htag.trans hp)⟩

theorem untagged_closePieces {before after : List Char} {field : List Char} {a stop : Nat}
    (hfield : Untagged field) (hbefore : before ⊆ ellipsis) (hafter : after ⊆ ellipsis) :
    ∀ s ∈ closePieces before after (segments field a stop marks), Untagged s.text := by
  have hslice : ∀ a b, Untagged (slice field a b) := fun a b =>
    hfield.of_infix (infix_slice field a b)
  induction marks generalizing a before with
  | nil =>
    rw [segments, closePieces, closePieces, List.forall_mem_singleton]
    exact (hslice a stop).ellipses hbefore hafter
  | cons m marks ih =>
    rw [segments, closePieces, closePieces, List.forall_mem_cons, List.forall_mem_cons]
    refine ⟨?_, hslice _ _, ih (List.nil_subset _)⟩
    have hplain := (hslice a m.first).ellipses hbefore (List.nil_subset ellipsis)
    rwa [List.append_nil] at hplain

theorem untagged_pieces {field : List Char} (hfield : Untagged field) (query : List Char)
    (length : Nat) : ∀ s ∈ (excerpt field query length).pieces, Untagged s.text := by
  have hcut : ∀ cut : Bool, (if cut = true then ellipsis else []) ⊆ ellipsis := by
    intro cut
    cases cut <;> simp
  unfold excerpt
  by_cases hempty : (field.isEmpty || query.isEmpty) = true
  · rw [if_pos hempty]
    exact List.forall_mem_singleton.2 (by decide)
  rw [if_neg hempty]
  dsimp only
  split
  · have htake : Untagged (field.take length) := hfield.of_infix (List.take_prefix _ _).isInfix
    have hplain := htake.ellipses (List.nil_subset ellipsis) (hcut (length < field.length))
    exact List.forall_mem_singleton.2 hplain
  · exact untagged_closePieces hfield (hcut _) (hcut _)

/-- The segments of a snippet are read back from its markup. -/
theorem ofMarkup_snippet {field : String} (hfield : Untagged field.toList) (query : String)
    (length : Nat) : Segment.ofMarkup (snippet field query length).toList =
      (excerpt field.toList query.toList length).pieces := by
  rw [snippet, String.toList_ofList, Excerpt.render]
  exact ofMarkup_closePieces (untagged_pieces hfield query.toList length)

end SearchPanel
