import Mathlib.Data.Option.Basic
import SearchPanel.Proofs.Occurrence

/-!
# Places in bytes

A stored text is a row of bytes, and its places are counted in them. A character takes up one byte
or more, so a place may lie inside of one.

* `byteLength`: how many bytes a text takes up, which is the size of it as a string
  (`utf8ByteSize_ofList`). Of two beginnings of a text the longer one takes up more
  (`byteLength_take_lt`).
* `splitBytes?`, `byteSlice?`: cutting a text at places in bytes. There is no cut inside of a
  character and none behind the end (`splitBytes?_eq_some_iff`).
* `byteMatches`: the places of a needle from the left, none inside the one before. The first of them
  is the leftmost occurrence (`head?_byteMatches`).
-/

namespace SearchPanel.Text

variable {text needle before after : List Char} {c : Char} {k l n place skip : Nat}

/-! ## Lengths -/

/-- How many bytes a text takes up. -/
def byteLength : List Char → Nat
  | [] => 0
  | c :: text => c.utf8Size + byteLength text

@[simp]
theorem byteLength_nil : byteLength [] = 0 := rfl

@[simp]
theorem byteLength_cons (c : Char) (text : List Char) :
    byteLength (c :: text) = c.utf8Size + byteLength text := rfl

@[simp]
theorem byteLength_append (before after : List Char) :
    byteLength (before ++ after) = byteLength before + byteLength after := by
  induction before with
  | nil => exact (Nat.zero_add _).symm
  | cons c before ih => rw [List.cons_append, byteLength_cons, ih, byteLength_cons, Nat.add_assoc]

theorem utf8ByteSize_ofList (text : List Char) :
    (String.ofList text).utf8ByteSize = byteLength text := by
  induction text with
  | nil => rfl
  | cons c text ih =>
    rw [← List.singleton_append, String.ofList_append, String.utf8ByteSize_append, ih]
    simp

theorem byteLength_eq_zero_iff : byteLength text = 0 ↔ text = [] := by
  cases text with
  | nil => simp
  | cons c text =>
    have := c.utf8Size_pos
    simp
    omega

theorem byteLength_take_le (text : List Char) (h : k ≤ l) :
    byteLength (text.take k) ≤ byteLength (text.take l) := by
  obtain ⟨d, rfl⟩ := Nat.exists_eq_add_of_le h
  rw [List.take_add, byteLength_append]
  exact Nat.le_add_right _ _

/-- A longer beginning of a text takes up more bytes. -/
theorem byteLength_take_lt (h : k < l) (hl : l ≤ text.length) :
    byteLength (text.take k) < byteLength (text.take l) := by
  have hk : k < text.length := by omega
  have hstep : byteLength (text.take (k + 1)) = byteLength (text.take k) + text[k].utf8Size := by
    rw [List.take_succ_eq_append_getElem hk, byteLength_append]
    rfl
  have hpos := text[k].utf8Size_pos
  have hle := byteLength_take_le text (show k + 1 ≤ l from h)
  omega

/-! ## Cuts -/

/-- The first `n` bytes of a text and what stands behind them, unless they end inside of a character
or there are not so many. -/
def splitBytes? : (n : Nat) → List Char → Option (List Char × List Char)
  | 0, text => some ([], text)
  | _ + 1, [] => none
  | n + 1, c :: text =>
    if c.utf8Size ≤ n + 1 then
      (splitBytes? (n + 1 - c.utf8Size) text).map fun (before, after) => (c :: before, after)
    else none

/-- The text between two places. -/
def byteSlice? (text : List Char) (low high : Nat) : Option (List Char) := do
  guard (low ≤ high)
  let (_, behind) ← splitBytes? low text
  let (slice, _) ← splitBytes? (high - low) behind
  return slice

/-- A text can be cut behind each of its characters, and nowhere else. -/
theorem splitBytes?_eq_some_iff :
    splitBytes? n text = some (before, after) ↔
      text = before ++ after ∧ byteLength before = n := by
  fun_induction splitBytes? n text generalizing before with
  | case1 text =>
    constructor
    · rintro ⟨⟩
      exact ⟨rfl, rfl⟩
    · rintro ⟨rfl, hn⟩
      rw [byteLength_eq_zero_iff.1 hn, List.nil_append]
  | case2 n =>
    refine iff_of_false (fun h => by cases h) ?_
    rintro ⟨hnil, hn⟩
    rw [(List.append_eq_nil_iff.1 hnil.symm).1] at hn
    cases hn
  | case3 n c text hle ih =>
    rw [Option.map_eq_some_iff]
    constructor
    · rintro ⟨⟨b, a⟩, hsplit, heq⟩
      obtain ⟨rfl, rfl⟩ := by simpa using heq
      obtain ⟨rfl, hn⟩ := ih.1 hsplit
      refine ⟨rfl, ?_⟩
      rw [byteLength_cons]
      omega
    · rintro ⟨htext, hn⟩
      cases before with
      | nil => cases hn
      | cons d b =>
        obtain ⟨rfl, rfl⟩ := List.cons.inj htext
        rw [byteLength_cons] at hn
        exact ⟨(b, after), ih.2 ⟨rfl, by omega⟩, rfl⟩
  | case4 n c text hle =>
    refine iff_of_false (fun h => by cases h) ?_
    rintro ⟨htext, hn⟩
    cases before with
    | nil => cases hn
    | cons d b =>
      obtain ⟨rfl, -⟩ := List.cons.inj htext
      rw [byteLength_cons] at hn
      omega

/-- The text behind one beginning and up to another one. -/
theorem byteSlice?_append (before slice after : List Char) :
    byteSlice? (before ++ slice ++ after) (byteLength before) (byteLength (before ++ slice)) =
      some slice := by
  have hlow : splitBytes? (byteLength before) (before ++ (slice ++ after)) =
      some (before, slice ++ after) := splitBytes?_eq_some_iff.2 ⟨rfl, rfl⟩
  have hhigh : splitBytes? (byteLength slice) (slice ++ after) = some (slice, after) :=
    splitBytes?_eq_some_iff.2 ⟨rfl, rfl⟩
  have hle : byteLength before ≤ byteLength (before ++ slice) := by
    rw [byteLength_append]
    exact Nat.le_add_right _ _
  have hlen : byteLength (before ++ slice) - byteLength before = byteLength slice := by
    rw [byteLength_append, Nat.add_sub_cancel_left]
  simp only [byteSlice?, (Option.guard_eq_some' ()).2 hle, List.append_assoc, hlen, hlow, hhigh,
    Option.bind_eq_bind, Option.bind_some, Option.pure_def]

/-- A stretch of some texts that stand one behind the other. -/
theorem byteSlice?_flatten (texts : List (List Char)) (k d : Nat) :
    byteSlice? texts.flatten (byteLength (texts.take k).flatten)
      (byteLength (texts.take (k + d)).flatten) = some ((texts.drop k).take d).flatten := by
  have hall : texts.flatten = (texts.take k).flatten ++ ((texts.drop k).take d).flatten ++
      ((texts.drop k).drop d).flatten := by
    rw [List.append_assoc, ← List.flatten_append, List.take_append_drop, ← List.flatten_append,
      List.take_append_drop]
  have hslice := byteSlice?_append (texts.take k).flatten ((texts.drop k).take d).flatten
    ((texts.drop k).drop d).flatten
  rwa [← hall, ← List.flatten_append, ← List.take_add] at hslice

/-! ## Places of a needle -/

/-- The places where `needle` stands, from the left and none inside the one before. The text begins
at `place`; its first `skip` characters still belong to the last one. -/
def byteMatches (needle : List Char) : (skip place : Nat) → List Char → List Nat
  | _, _, [] => []
  | skip + 1, place, c :: text => byteMatches needle skip (place + c.utf8Size) text
  | 0, place, c :: text =>
    if needle <+: c :: text then
      place :: byteMatches needle (needle.length - 1) (place + c.utf8Size) text
    else byteMatches needle 0 (place + c.utf8Size) text

theorem leftmost_succ_iff {o : Nat} (h : ¬ needle <+: c :: text) :
    Leftmost needle (c :: text) (o + 1) ↔ Leftmost needle text o := by
  constructor
  · rintro ⟨hs, hl⟩
    exact ⟨hs, fun p hp => hl (p + 1) (Nat.succ_lt_succ hp)⟩
  · rintro ⟨hs, hl⟩
    refine ⟨hs, fun p hp => ?_⟩
    cases p with
    | zero => exact h
    | succ p => exact hl p (Nat.lt_of_succ_lt_succ hp)

/-- The first place is that of the leftmost occurrence. -/
theorem head?_byteMatches (hn : needle ≠ []) : (byteMatches needle 0 place text).head? = some n ↔
    ∃ o, Leftmost needle text o ∧ n = place + byteLength (text.take o) := by
  induction text generalizing place with
  | nil =>
    refine iff_of_false (fun h => by cases h) ?_
    rintro ⟨o, ho, -⟩
    have hle := ho.stands.add_length_le hn
    rw [List.length_nil] at hle
    exact hn (List.eq_nil_of_length_eq_zero (by omega))
  | cons c text ih =>
    rw [byteMatches]
    split
    · next hp =>
      have hfirst : Leftmost needle (c :: text) 0 := ⟨hp, fun p hp => absurd hp (Nat.not_lt_zero p)⟩
      constructor
      · rintro ⟨⟩
        exact ⟨0, hfirst, rfl⟩
      · rintro ⟨o, ho, rfl⟩
        obtain rfl := ho.unique hfirst
        rfl
    · next hp =>
      rw [ih]
      constructor
      · rintro ⟨o, ho, rfl⟩
        refine ⟨o + 1, (leftmost_succ_iff hp).2 ho, ?_⟩
        rw [List.take_succ_cons, byteLength_cons, Nat.add_assoc]
      · rintro ⟨o, ho, rfl⟩
        cases o with
        | zero => exact absurd ho.stands hp
        | succ o =>
          refine ⟨o, (leftmost_succ_iff hp).1 ho, ?_⟩
          rw [List.take_succ_cons, byteLength_cons, Nat.add_assoc]

end SearchPanel.Text
