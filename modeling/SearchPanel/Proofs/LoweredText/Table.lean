import SearchPanel.Proofs.LoweredText.Occurrences
import SearchPanel.Proofs.Text.Bytes

/-!
# A table of places for a lowered text

The forms of the characters of a text depend on what stands around them, but their lengths in bytes
do not. So a table of the places where they begin can be made from each character by itself and
still belongs to the lowered text as a whole.

* `PositionTable.ofChars`: the lowered text with such a table. If the table did not fit, each
  character would be lowered by itself.
* `getElem?_starts`: the table holds the places of the forms in the lowered text, so it fits
  (`fits`).
* `PositionTable.charAt?`: the source character at a place in bytes, found by how many forms begin
  there or before. It is the holder of that place (`charAt?_eq_some_iff`, `charAt?_of_holds`).
* `positions_fit_lowered`: the table is strictly increasing and cuts the lowered text into the forms
  of its characters. What is found by it is the leftmost occurrence.
-/

namespace SearchPanel

open Text

/-- Where the forms of the characters of a text begin if each is lowered by itself, the first one at
`place`, and where the last one ends. -/
def startsFrom (place : Nat) : List Char → List Nat
  | [] => [place]
  | c :: text => place :: startsFrom (place + byteLength (lowerChar c)) text

/-- The table of a text ends where its lower-case form ends. -/
def Fits (text : List Char) : Prop :=
  (startsFrom 0 text).getLast? = some (byteLength (lowerChars text))

instance (text : List Char) : Decidable (Fits text) :=
  inferInstanceAs (Decidable (_ = _))

/-- A lowered text, and the places in it where the forms of the source characters begin, with its
length behind them. -/
structure PositionTable where
  lowered : List Char
  starts : List Nat

namespace PositionTable

/-- The table of a text. -/
def ofChars (text : List Char) : PositionTable :=
  { lowered := if Fits text then lowerChars text else text.flatMap lowerChar
    starts := startsFrom 0 text }

/-- The source character at a place: the last one whose form begins there or before. -/
def charAt? (t : PositionTable) (place : Nat) : Option Nat :=
  match (t.starts.takeWhile (· ≤ place)).length with
  | 0 => none
  | k + 1 => some k

/-- The source character at the leftmost occurrence of `needle`. -/
def find? (t : PositionTable) (needle : List Char) : Option Nat :=
  if needle.isEmpty then none else (byteMatches needle 0 0 t.lowered).head?.bind t.charAt?

end PositionTable

variable {text needle piece : List Char} {c : Char} {k l i o p place : Nat}

/-! ## Forms and their lengths -/

/-- A form is that of the character by itself, or a final sigma. -/
theorem lowerBetween_cases (before : List Char) (c : Char) (after : List Char) :
    lowerBetween before c after = lowerChar c ∨ c = 'Σ' ∧ lowerBetween before c after = ['ς'] := by
  unfold lowerBetween
  split
  · next hc =>
    subst hc
    cases endsWord before after with
    | true => exact .inr ⟨rfl, rfl⟩
    | false => exact .inl (by decide)
  · exact .inl rfl

/-- What stands around a character does not change the length of its form. -/
theorem byteLength_lowerBetween (before : List Char) (c : Char) (after : List Char) :
    byteLength (lowerBetween before c after) = byteLength (lowerChar c) := by
  rcases lowerBetween_cases before c after with h | ⟨rfl, h⟩
  · rw [h]
  · rw [h]
    decide

theorem getElem?_piecesAfter (before : List Char) (hc : text[k]? = some c) :
    ∃ b a, (piecesAfter before text)[k]? = some (lowerBetween b c a) := by
  induction text generalizing before k with
  | nil => cases hc
  | cons d rest ih =>
    cases k with
    | zero =>
      cases hc
      exact ⟨before, rest, rfl⟩
    | succ k => exact ih (d :: before) hc

/-- The form of a source character. -/
theorem getElem?_pieces (hc : text[k]? = some c) : ∃ piece, (pieces text)[k]? = some piece ∧
    (piece = lowerChar c ∨ c = 'Σ' ∧ piece = ['ς']) := by
  obtain ⟨b, a, h⟩ := getElem?_piecesAfter [] hc
  exact ⟨_, h, lowerBetween_cases b c a⟩

/-! ## The table -/

@[simp]
theorem length_startsFrom (place : Nat) (text : List Char) :
    (startsFrom place text).length = text.length + 1 := by
  induction text generalizing place with
  | nil => rfl
  | cons c text ih => rw [startsFrom, List.length_cons, ih, List.length_cons]

theorem getElem?_startsFrom (place : Nat) (before : List Char) (hk : k ≤ text.length) :
    (startsFrom place text)[k]? =
      some (place + byteLength ((piecesAfter before text).take k).flatten) := by
  induction text generalizing place before k with
  | nil =>
    obtain rfl := Nat.le_zero.1 hk
    rfl
  | cons c text ih =>
    cases k with
    | zero => rfl
    | succ k =>
      rw [startsFrom, List.getElem?_cons_succ, ih _ (c :: before) (by simpa using hk), piecesAfter,
        List.take_succ_cons, List.flatten_cons, byteLength_append, byteLength_lowerBetween,
        Nat.add_assoc]

namespace LoweredText

theorem flatten_take_append_flatten_drop (t : LoweredText) (k : Nat) :
    (t.pieces.take k).flatten ++ (t.pieces.drop k).flatten = t.chars := by
  rw [← List.flatten_append, List.take_append_drop]
  rfl

/-- The forms of the first characters are the beginning of the lowered text. -/
theorem flatten_take_pieces (t : LoweredText) (k : Nat) :
    (t.pieces.take k).flatten = t.chars.take (t.startOf k) := by
  rw [← t.flatten_take_append_flatten_drop k, startOf, List.take_left]

theorem flatten_drop_pieces (t : LoweredText) (k : Nat) :
    (t.pieces.drop k).flatten = t.chars.drop (t.startOf k) := by
  rw [← t.flatten_take_append_flatten_drop k, startOf, List.drop_left]

theorem startOf_charCount (t : LoweredText) : t.startOf t.charCount = t.chars.length := by
  rw [startOf, charCount, List.take_length]
  rfl

theorem startOf_le_length (t : LoweredText) (k : Nat) : t.startOf k ≤ t.chars.length := by
  have h := congrArg List.length (t.flatten_take_pieces k)
  rw [List.length_take] at h
  exact Nat.le_trans (Nat.le_of_eq h) (Nat.min_le_right _ _)

theorem startOf_succ {t : LoweredText} (hp : t.pieces[k]? = some piece) :
    t.startOf (k + 1) = t.startOf k + piece.length := by
  rw [startOf, startOf, List.take_add_one, hp, List.flatten_append, List.length_append]
  simp

/-- The characters of a form in the lowered text. -/
theorem getElem?_chars_startOf {t : LoweredText} (hp : t.pieces[k]? = some piece) (hi : i < piece.length) :
    t.chars[t.startOf k + i]? = piece[i]? := by
  obtain ⟨hlt, rfl⟩ := List.getElem?_eq_some_iff.1 hp
  rw [← List.getElem?_drop, ← t.flatten_drop_pieces, List.drop_eq_getElem_cons hlt,
    List.flatten_cons, List.getElem?_append_left hi]

/-- A place of the lowered text stands in the form of the character that holds it. -/
theorem Holds.exists_getElem? {t : LoweredText} (h : t.Holds k o) (hp : t.pieces[k]? = some piece) :
    ∃ i < piece.length, o = t.startOf k + i ∧ t.chars[o]? = piece[i]? := by
  obtain ⟨i, rfl⟩ := Nat.exists_eq_add_of_le h.1
  have hlt := h.2
  rw [startOf_succ hp] at hlt
  have hi : i < piece.length := by omega
  exact ⟨i, hi, rfl, getElem?_chars_startOf hp hi⟩

end LoweredText

theorem getElem?_starts_eq_flatten (text : List Char) (hk : k ≤ text.length) :
    (PositionTable.ofChars text).starts[k]? =
      some (byteLength ((pieces text).take k).flatten) := by
  have h := getElem?_startsFrom 0 [] hk
  rwa [Nat.zero_add] at h

/-- The table holds the places of the forms in the lowered text. -/
theorem getElem?_starts (text : List Char) (hk : k ≤ text.length) :
    (PositionTable.ofChars text).starts[k]? =
      some (byteLength ((lowerChars text).take ((LoweredText.ofChars text).startOf k))) :=
  (getElem?_starts_eq_flatten text hk).trans
    (congrArg (some ∘ byteLength) (LoweredText.flatten_take_pieces _ k))

theorem startOf_length (text : List Char) :
    (LoweredText.ofChars text).startOf text.length = (lowerChars text).length := by
  have h := (LoweredText.ofChars text).startOf_charCount
  rwa [LoweredText.charCount_ofChars] at h

theorem getElem?_starts_length (text : List Char) :
    (PositionTable.ofChars text).starts[text.length]? = some (byteLength (lowerChars text)) := by
  rw [getElem?_starts text (Nat.le_refl _), startOf_length, List.take_length]

/-- The table fits the lowered text as a whole. -/
theorem fits (text : List Char) : Fits text := by
  rw [Fits, List.getLast?_eq_getElem?, length_startsFrom, Nat.add_sub_cancel]
  exact getElem?_starts_length text

theorem lowered_ofChars (text : List Char) :
    (PositionTable.ofChars text).lowered = lowerChars text :=
  if_pos (fits text)

theorem startOf_lt (h : k < l) (hl : l ≤ text.length) :
    (LoweredText.ofChars text).startOf k < (LoweredText.ofChars text).startOf l := by
  have hle := LoweredText.startOf_add_le (t := LoweredText.ofChars text)
    (fun _ => ne_nil_of_mem_pieces) (by rwa [LoweredText.charCount_ofChars]) (Nat.le_of_lt h)
  omega

theorem pairwise_starts (text : List Char) :
    (PositionTable.ofChars text).starts.Pairwise (· < ·) := by
  refine List.pairwise_iff_getElem.2 fun i j hi hj hij => ?_
  have hlen : (PositionTable.ofChars text).starts.length = text.length + 1 :=
    length_startsFrom 0 text
  have hsi := getElem?_starts text (k := i) (by omega)
  have hsj := getElem?_starts text (k := j) (by omega)
  rw [List.getElem?_eq_getElem hi] at hsi
  rw [List.getElem?_eq_getElem hj] at hsj
  rw [Option.some.inj hsi, Option.some.inj hsj]
  exact byteLength_take_lt (startOf_lt hij (by omega)) (LoweredText.startOf_le_length _ j)

/-! ## The character at a place -/

/-- In an increasing list the entries up to a bound stand in front. -/
theorem le_iff_lt_length_takeWhile (place : Nat) {starts : List Nat}
    (hs : starts.Pairwise (· < ·)) {start : Nat} (hk : starts[k]? = some start) :
    start ≤ place ↔ k < (starts.takeWhile (· ≤ place)).length := by
  induction starts generalizing k with
  | nil => cases hk
  | cons first rest ih =>
    obtain ⟨hfirst, hrest⟩ := List.pairwise_cons.1 hs
    rw [List.takeWhile_cons]
    cases k with
    | zero =>
      obtain rfl : first = start := Option.some.inj hk
      by_cases hle : first ≤ place <;> simp [hle]
    | succ k =>
      have hlt := hfirst start (List.mem_of_getElem? hk)
      by_cases hle : first ≤ place
      · simpa [hle] using ih hrest hk
      · simp [hle]
        omega

/-- A place lies in the form of the character at it, and in no other one. -/
theorem charAt?_eq_some_iff {low high : Nat}
    (hlow : (PositionTable.ofChars text).starts[k]? = some low)
    (hhigh : (PositionTable.ofChars text).starts[k + 1]? = some high) :
    (PositionTable.ofChars text).charAt? place = some k ↔ low ≤ place ∧ place < high := by
  have hl := le_iff_lt_length_takeWhile place (pairwise_starts text) hlow
  have hh := le_iff_lt_length_takeWhile place (pairwise_starts text) hhigh
  rw [← Nat.not_le (b := place), hl, hh, PositionTable.charAt?]
  cases ((PositionTable.ofChars text).starts.takeWhile (· ≤ place)).length with
  | zero => simp
  | succ m =>
    simp only [Option.some.injEq]
    omega

/-- At the bytes of a lowered character the table finds its holder. -/
theorem charAt?_of_holds (h : (LoweredText.ofChars text).Holds k o)
    (hlow : byteLength ((lowerChars text).take o) ≤ place)
    (hhigh : place < byteLength ((lowerChars text).take (o + 1))) :
    (PositionTable.ofChars text).charAt? place = some k := by
  have hk : k < text.length := by
    have := h.lt_charCount
    rwa [LoweredText.charCount_ofChars] at this
  have hfirst := getElem?_starts text (Nat.le_of_lt hk)
  have hnext := getElem?_starts text (show k + 1 ≤ text.length from hk)
  refine (charAt?_eq_some_iff hfirst hnext).2 ⟨?_, ?_⟩
  · exact Nat.le_trans (byteLength_take_le _ h.1) hlow
  · exact Nat.lt_of_lt_of_le hhigh (byteLength_take_le _ h.2)

/-- Each place in the lowered text is that of a source character. -/
theorem exists_charAt? (h : place < byteLength (lowerChars text)) :
    ∃ k < text.length, (PositionTable.ofChars text).charAt? place = some k := by
  have hfirst := le_iff_lt_length_takeWhile place (pairwise_starts text)
    (getElem?_starts text (Nat.zero_le _))
  have hlast := le_iff_lt_length_takeWhile place (pairwise_starts text)
    (getElem?_starts_length text)
  have hzero := hfirst.1 (Nat.zero_le _)
  have hend := mt hlast.2 (Nat.not_le.2 h)
  rw [PositionTable.charAt?]
  cases hm : ((PositionTable.ofChars text).starts.takeWhile (· ≤ place)).length with
  | zero => omega
  | succ m => exact ⟨m, by omega, rfl⟩

/-- By the table the same is found as by the holders. -/
theorem find?_ofChars (text needle : List Char) :
    (PositionTable.ofChars text).find? needle = (LoweredText.ofChars text).find needle := by
  rw [PositionTable.find?, lowered_ofChars]
  by_cases hn : needle = []
  · subst hn
    exact (LoweredText.find_nil _).symm
  rw [if_neg (by simpa using hn)]
  by_cases hocc : needle <:+: lowerChars text
  · obtain ⟨s, h⟩ := LoweredText.exists_firstHit (t := LoweredText.ofChars text) hn hocc
    obtain ⟨o, ho, hc⟩ := id h
    have hlt : o < (lowerChars text).length := by
      have hle := ho.stands.add_length_le hn
      have hpos := List.length_pos_iff.2 hn
      rw [LoweredText.chars_ofChars] at hle
      omega
    have hplace : (byteMatches needle 0 0 (lowerChars text)).head? =
        some (byteLength ((lowerChars text).take o)) :=
      (head?_byteMatches hn).2 ⟨o, ho, (Nat.zero_add _).symm⟩
    rw [h.find_eq hn, hplace]
    exact charAt?_of_holds hc.first (Nat.le_refl _) (byteLength_take_lt (Nat.lt_succ_self o) hlt)
  · have hfind : (LoweredText.ofChars text).find needle = none := LoweredText.find_eq_none hocc
    have hnone : (byteMatches needle 0 0 (lowerChars text)).head? = none := by
      refine Option.eq_none_iff_forall_ne_some.2 fun n hsome => ?_
      obtain ⟨o, ho, -⟩ := (head?_byteMatches hn).1 hsome
      exact hocc (infix_iff_exists_standsAt.2 ⟨o, ho.stands⟩)
    rw [hfind, hnone]
    rfl

theorem isSome_find_iff (hn : needle ≠ []) :
    ((LoweredText.ofChars text).find needle).isSome = true ↔ needle <:+: lowerChars text := by
  constructor
  · refine fun hsome => Classical.byContradiction fun hocc => ?_
    have hfind : (LoweredText.ofChars text).find needle = none := LoweredText.find_eq_none hocc
    rw [hfind] at hsome
    cases hsome
  · intro hocc
    obtain ⟨s, h⟩ := LoweredText.exists_firstHit (t := LoweredText.ofChars text) hn hocc
    rw [h.find_eq hn]
    rfl

theorem find_eq_some_iff_holds {o : Nat} (ho : Leftmost needle (lowerChars text) o)
    (hn : needle ≠ []) : (LoweredText.ofChars text).find needle = some i ↔
      (LoweredText.ofChars text).Holds i o := by
  obtain ⟨s, h⟩ := LoweredText.exists_firstHit (t := LoweredText.ofChars text) hn
    (infix_iff_exists_standsAt.2 ⟨o, ho.stands⟩)
  obtain ⟨o', ho', hc⟩ := id h
  obtain rfl := ho'.unique ho
  rw [h.find_eq hn, Option.some.injEq]
  constructor
  · rintro rfl
    exact hc.first
  · exact fun hi => hc.first.unique hi

/-! ## Main result -/

/-- **The table of a lowered text.** It is made from each character by itself, and it fits the
lowered text as a whole, which is kept therefore. It has one place more than there are source
characters, begins at 0, increases strictly and ends with the length of the lowered text. Between
two neighbouring places stands the form of a character: that of the character by itself, or a final
sigma. Each place in the lowered text is that of the character whose form it lies in. By it a needle
is found exactly where it occurs, at the holder of the start of its leftmost occurrence. -/
theorem positions_fit_lowered (text : List Char) :
    let lowered := LoweredText.ofChars text
    let table := PositionTable.ofChars text
    (Fits text ∧ table.lowered = lowerChars text ∧ lowered.chars = lowerChars text) ∧
    (table.starts.length = text.length + 1 ∧ table.starts[0]? = some 0 ∧
      table.starts.Pairwise (· < ·) ∧
      table.starts[text.length]? = some (byteLength (lowerChars text))) ∧
    (∀ k c, text[k]? = some c → ∃ low high piece,
      table.starts[k]? = some low ∧ table.starts[k + 1]? = some high ∧
      byteSlice? (lowerChars text) low high = some piece ∧ lowered.pieces[k]? = some piece ∧
      (piece = lowerChar c ∨ c = 'Σ' ∧ piece = ['ς']) ∧
      ∀ place, table.charAt? place = some k ↔ low ≤ place ∧ place < high) ∧
    (∀ place < byteLength (lowerChars text), ∃ k < text.length,
      table.charAt? place = some k) ∧
    ∀ needle, table.find? needle = lowered.find needle ∧
      (needle ≠ [] → ((lowered.find needle).isSome = true ↔ needle <:+: lowerChars text) ∧
        ∀ o, Leftmost needle (lowerChars text) o →
          ∀ i, lowered.find needle = some i ↔ lowered.Holds i o) := by
  intro lowered table
  refine ⟨⟨fits text, lowered_ofChars text, rfl⟩,
    ⟨length_startsFrom 0 text, getElem?_starts text (Nat.zero_le _), pairwise_starts text,
      getElem?_starts_length text⟩,
    fun k c hc => ?_, fun place => exists_charAt?, fun needle => ⟨find?_ofChars text needle,
      fun hn => ⟨isSome_find_iff hn, fun o ho i => find_eq_some_iff_holds ho hn⟩⟩⟩
  obtain ⟨hk, -⟩ := List.getElem?_eq_some_iff.1 hc
  obtain ⟨piece, hpiece, hform⟩ := getElem?_pieces hc
  have hlow := getElem?_starts_eq_flatten text (Nat.le_of_lt hk)
  have hhigh := getElem?_starts_eq_flatten text (show k + 1 ≤ text.length from hk)
  have hslice := byteSlice?_flatten (pieces text) k 1
  rw [List.take_one, List.head?_drop, hpiece, Option.toList_some, List.flatten_singleton] at hslice
  exact ⟨_, _, piece, hlow, hhigh, hslice, hpiece, hform, fun _ => charAt?_eq_some_iff hlow hhigh⟩

/-- A capital that lowers to two characters, and a sigma that ends a word. The needle begins inside
of the form of the capital. -/
theorem positions_fit_lowered_dotted :
    let text := ['a', 'İ', 'Σ']
    let needle := ['\u0307', 'ς']
    text[2]? = some 'Σ' ∧ needle ≠ [] ∧ Leftmost needle (lowerChars text) 2 ∧
      (PositionTable.ofChars text).starts = [0, 1, 4, 6] ∧
      byteSlice? (lowerChars text) 4 6 = some ['ς'] ∧
      (PositionTable.ofChars text).charAt? 3 = some 1 ∧
      (PositionTable.ofChars text).find? needle = some 1 := by
  intro text needle
  have hc : text[2]? = some 'Σ' := rfl
  have hn : needle ≠ [] := List.cons_ne_nil _ _
  have ho : Leftmost needle (lowerChars text) 2 := ⟨by decide, by decide⟩
  have hstarts : (PositionTable.ofChars text).starts = [0, 1, 4, 6] := by decide
  have hform : (LoweredText.ofChars text).pieces[2]? = some ['ς'] := by decide
  obtain ⟨-, -, hforms, -, hfind⟩ := positions_fit_lowered text
  obtain ⟨low, high, piece, hlow, hhigh, hslice, hpiece, -, -⟩ := hforms 2 'Σ' hc
  obtain ⟨low', high', -, hlow', hhigh', -, -, -, hplace⟩ := hforms 1 'İ' rfl
  rw [hstarts] at hlow hhigh hlow' hhigh'
  cases hlow
  cases hhigh
  cases hlow'
  cases hhigh'
  cases hform.symm.trans hpiece
  obtain ⟨hsame, hfound⟩ := hfind needle
  have hholds : (LoweredText.ofChars text).Holds 1 2 := ⟨by decide, by decide⟩
  exact ⟨hc, hn, ho, hstarts, hslice, (hplace 3).2 (by decide),
    hsame.trans (((hfound hn).2 2 ho 1).2 hholds)⟩

end SearchPanel
