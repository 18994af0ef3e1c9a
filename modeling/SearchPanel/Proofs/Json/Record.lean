import SearchPanel.Proofs.Json.Skip

/-!
# Reading records

A record that is written as an object (`ObjectText`) is read member by member.

* `readText_append`, `readOptionalText_append`: which values are strings, or strings and `null`.
* `Taken t takes seen members fs`: the fields `seen` with those of `members` behind them are `fs`.
  Members of other names are refused or passed over, as the kind of record has it.
* `readRecord_append`: reading an object gives its fields and leaves what follows it, or fails.
* `Taken.valued` and `exists_taken`: what a field has as its value, told of the members of its name.
-/

namespace SearchPanel.Json

variable {text rest before after inner left v : List Char} {c : Char} {depth : Nat}

theorem blank_nil : Blank [] := by decide

/-! ## Strings as values -/

/-- `v` is the text of the string `s`. -/
def IsText (v : List Char) (s : String) : Prop := ∃ inner, Spells s.toList inner ∧ v = quote inner

/-- `v` is the text of the string in `o`, or `null`. -/
def IsOptionalText (v : List Char) : Option String → Prop
  | none => v = "null".toList
  | some s => IsText v s

theorem IsText.unique {s s' : String} (h : IsText v s) (h' : IsText v s') : s = s' := by
  obtain ⟨inner, hs, rfl⟩ := h
  obtain ⟨inner', hs', heq⟩ := h'
  obtain rfl := List.append_cancel_right (List.cons.inj heq).2
  exact String.toList_injective (hs.unique hs')

/-- A text between quotes is read as a string by its spellings only. -/
theorem readString_quoted {s : List Char} (h : StringText inner) :
    readString (inner ++ '"' :: rest) = .ok (s, left) ↔ left = rest ∧ Spells s inner := by
  have hskip : skipString (inner ++ '"' :: rest) = .ok rest :=
    skipString_eq_ok_iff.2 ⟨inner, h, rfl⟩
  rw [readString_eq_ok_iff]
  constructor
  · rintro ⟨spelling, hs, heq⟩
    -- the closing quote is found where the string is skipped
    have hskip' : skipString (inner ++ '"' :: rest) = .ok left :=
      skipString_eq_ok_iff.2 ⟨spelling, hs.stringText, heq⟩
    obtain rfl := Except.ok.inj (hskip'.symm.trans hskip)
    obtain rfl := List.append_cancel_right heq
    exact ⟨rfl, hs⟩
  · rintro ⟨rfl, hs⟩
    exact ⟨inner, hs, rfl⟩

theorem readText_of_ne (hb : Blank before) (hc : Starts c) (hq : c ≠ '"') :
    readText (before ++ c :: rest) = .error (wrongType "a string" (c :: rest)) := by
  rw [readText, skipSpace_append hb, skipSpace_cons hc.not_space]
  split
  · next heq => exact absurd (List.cons.inj heq).1 hq
  · rfl

theorem readText_quote (hb : Blank before) (h : StringText inner) {s : String} :
    readText (before ++ (quote inner ++ rest)) = .ok (s, left) ↔
      left = rest ∧ Spells s.toList inner := by
  rw [readText, skipSpace_append hb, quote, List.append_assoc, List.singleton_append,
    List.cons_append, skipSpace_cons rfl, ← readString_quoted h]
  simp only
  split
  · next heq => simp [heq]
  · next heq =>
    rw [heq, Except.ok.injEq, Prod.mk.injEq, Except.ok.injEq, Prod.mk.injEq,
      ← String.toList_inj, String.toList_ofList]

/-- A value is read as a string exactly if it is one. -/
theorem readText_append (h : ValueText depth v) (hb : Blank before) {s : String} :
    readText (before ++ (v ++ rest)) = .ok (s, left) ↔ left = rest ∧ IsText v s := by
  have hother : ∀ {c tail}, Starts c → c ≠ '"' →
      (readText (before ++ (c :: tail ++ rest)) = .ok (s, left) ↔
        left = rest ∧ IsText (c :: tail) s) := by
    intro c tail hc hq
    rw [List.cons_append, readText_of_ne hb hc hq]
    constructor
    · intro h
      cases h
    · rintro ⟨-, inner, -, heq⟩
      exact absurd (List.cons.inj heq).1 hq
  rcases h.kind with rfl | ⟨inner, hi, rfl⟩ | ⟨c, tail, rfl, hc, hq, -⟩
  · exact hother (by decide) (by decide)
  · rw [readText_quote hb hi]
    refine and_congr_right fun _ => ⟨fun hs => ⟨inner, hs, rfl⟩, ?_⟩
    rintro ⟨inner', hs, heq⟩
    obtain rfl := List.append_cancel_right (List.cons.inj heq).2
    exact hs
  · exact hother hc hq

theorem readOptionalText_null (hb : Blank before) :
    readOptionalText (before ++ ("null".toList ++ rest)) = .ok (none, rest) := by
  have hw : afterWord "ull".toList ("ull".toList ++ rest) = .ok rest := afterWord_append _ rest
  change readOptionalText (before ++ 'n' :: ("ull".toList ++ rest)) = _
  rw [readOptionalText, skipSpace_append hb, skipSpace_cons rfl]
  simp only [hw]

theorem readOptionalText_of_ne (hb : Blank before) (hc : Starts c) (hn : c ≠ 'n')
    {o : Option String} : readOptionalText (before ++ c :: rest) = .ok (o, left) ↔
      ∃ s, o = some s ∧ readText (c :: rest) = .ok (s, left) := by
  rw [readOptionalText, skipSpace_append hb, skipSpace_cons hc.not_space]
  split
  · next heq => exact absurd (List.cons.inj heq).1 hn
  · split
    · next heq => simp [heq]
    · next heq => simp [heq, eq_comm]

/-- A value is read as an optional string exactly if it is a string or `null`. -/
theorem readOptionalText_append (h : ValueText depth v) (hb : Blank before) {o : Option String} :
    readOptionalText (before ++ (v ++ rest)) = .ok (o, left) ↔
      left = rest ∧ IsOptionalText v o := by
  have hother : ∀ {c tail}, v = c :: tail → Starts c → c ≠ 'n' →
      (readOptionalText (before ++ (v ++ rest)) = .ok (o, left) ↔
        left = rest ∧ IsOptionalText v o) := by
    rintro c tail rfl hc hn
    have htext : ∀ s, readText (c :: (tail ++ rest)) = .ok (s, left) ↔
        left = rest ∧ IsText (c :: tail) s := fun s => readText_append h blank_nil
    rw [List.cons_append, readOptionalText_of_ne hb hc hn]
    simp only [htext]
    cases o with
    | none =>
      constructor
      · rintro ⟨s, h, -⟩
        cases h
      · rintro ⟨-, heq⟩
        exact absurd (List.cons.inj heq).1 hn
    | some s => simp [IsOptionalText]
  rcases h.kind with rfl | ⟨inner, -, rfl⟩ | ⟨c, tail, rfl, hc, -, hn⟩
  · rw [readOptionalText_null hb]
    cases o with
    | none => simp [IsOptionalText, eq_comm]
    | some s =>
      constructor
      · intro h
        cases h
      · rintro ⟨-, inner, -, heq⟩
        cases heq
  · exact hother rfl (by decide) (by decide)
  · exact hother rfl hc hn

/-! ## Members -/

variable {α : Type} {t : RecordType α} {takes : List Char → α → Prop} {seen fs : Fields α}
  {m : Member} {ms : List Member} {first : Bool} {name : String}

theorem nextMember_first (hb : Blank before) (h : Spells name.toList inner) :
    nextMember true (before ++ (quote inner ++ rest)) = .ok (some name, rest) := by
  have hs : readString (inner ++ '"' :: rest) = .ok (name.toList, rest) :=
    readString_eq_ok_iff.2 ⟨inner, h, rfl⟩
  rw [nextMember, skipSpace_append hb, quote, List.append_assoc, List.singleton_append,
    List.cons_append, skipSpace_cons rfl]
  simp [hs]

/-- Behind a comma a member begins like the first one. -/
theorem nextMember_comma (ha : Blank after) (hb : Blank before) :
    nextMember false (after ++ ',' :: (before ++ '"' :: rest)) =
      nextMember true (before ++ '"' :: rest) := by
  have hquote : skipSpace (before ++ '"' :: rest) = '"' :: rest := by
    rw [skipSpace_append hb, skipSpace_cons rfl]
  have hcomma : skipSpace (after ++ ',' :: (before ++ '"' :: rest)) =
      ',' :: (before ++ '"' :: rest) := by
    rw [skipSpace_append ha, skipSpace_cons rfl]
  simp [nextMember, hquote, hcomma]

theorem nextMember_close (ha : Blank after) (first : Bool) :
    nextMember first (after ++ '}' :: rest) = .ok (none, rest) := by
  rw [nextMember, skipSpace_append ha, skipSpace_cons rfl]
  rfl

theorem afterColon_append (hb : Blank before) :
    afterColon (before ++ ':' :: rest) = .ok rest := by
  rw [afterColon, skipSpace_append hb, skipSpace_cons rfl]
  rfl

/-- The members are read one by one. -/
theorem readMembers_eq (t : RecordType α) (first : Bool) (seen : Fields α) (text : List Char) :
    readMembers t first seen text =
      match nextMember first text with
      | .error e => .error e
      | .ok (none, rest) => .ok (seen, rest)
      | .ok (some name, rest) =>
        if name ∈ t.fields then
          if (seen.lookup name).isSome then .error (memberFault (.duplicateField name) rest)
          else
            match afterColon rest with
            | .error e => .error e
            | .ok rest =>
              match t.readValue rest with
              | .error e => .error e
              | .ok (v, rest) => readMembers t false (seen ++ [(name, v)]) rest
        else if t.closed then .error (memberFault (.unknownField name t.fields) rest)
        else
          match afterColon rest with
          | .error e => .error e
          | .ok rest =>
            match skipValue rest with
            | .error e => .error e
            | .ok rest => readMembers t false seen rest := by
  rw [readMembers]
  repeat' split <;> simp_all

/-- A record's values are read as `takes` says, and what follows them is left. -/
def RecordType.Takes (t : RecordType α) (takes : List Char → α → Prop) : Prop :=
  ∀ {depth : Nat} {v before rest left : List Char} {x : α}, ValueText depth v → Blank before →
    (t.readValue (before ++ (v ++ rest)) = .ok (x, left) ↔ left = rest ∧ takes v x)

theorem documentType_takes : documentType.Takes IsText :=
  fun h hb => readText_append h hb

theorem optionsType_takes : optionsType.Takes IsOptionalText :=
  fun h hb => readOptionalText_append h hb

/-- The fields of the members, behind those that were seen before, are `fs`. -/
inductive Taken (t : RecordType α) (takes : List Char → α → Prop) :
    Fields α → List Member → Fields α → Prop
  | nil {seen : Fields α} : Taken t takes seen [] seen
  | field {seen fs : Fields α} {m : Member} {ms : List Member} {x : α} (hm : m.name ∈ t.fields)
      (hs : seen.lookup m.name = none) (hx : takes m.value x)
      (h : Taken t takes (seen ++ [(m.name, x)]) ms fs) : Taken t takes seen (m :: ms) fs
  | passed {seen fs : Fields α} {m : Member} {ms : List Member} (hm : m.name ∉ t.fields)
      (hc : t.closed = false) (h : Taken t takes seen ms fs) : Taken t takes seen (m :: ms) fs

theorem taken_nil : Taken t takes seen [] fs ↔ fs = seen := by
  constructor
  · rintro ⟨⟩
    rfl
  · rintro rfl
    exact .nil

theorem taken_cons : Taken t takes seen (m :: ms) fs ↔
    (m.name ∈ t.fields ∧ seen.lookup m.name = none ∧
      ∃ x, takes m.value x ∧ Taken t takes (seen ++ [(m.name, x)]) ms fs) ∨
    (m.name ∉ t.fields ∧ t.closed = false ∧ Taken t takes seen ms fs) := by
  constructor
  · rintro (_ | ⟨hm, hs, hx, h⟩ | ⟨hm, hc, h⟩)
    · exact .inl ⟨hm, hs, _, hx, h⟩
    · exact .inr ⟨hm, hc, h⟩
  · rintro (⟨hm, hs, x, hx, h⟩ | ⟨hm, hc, h⟩)
    · exact .field hm hs hx h
    · exact .passed hm hc h

/-- A member is taken, refused or passed over, and then the others are read. -/
theorem readMembers_append (ht : t.Takes takes) (hm : m.Writes text) (hb : Blank before)
    (hr : Ends rest) : readMembers t true seen (before ++ (text ++ rest)) = .ok (fs, left) ↔
      (m.name ∈ t.fields ∧ seen.lookup m.name = none ∧ ∃ x, takes m.value x ∧
        readMembers t false (seen ++ [(m.name, x)]) rest = .ok (fs, left)) ∨
      (m.name ∉ t.fields ∧ t.closed = false ∧ readMembers t false seen rest = .ok (fs, left)) := by
  obtain ⟨hn, hb', ha, rfl, depth, hv⟩ := hm
  rw [List.append_assoc, List.append_assoc, List.cons_append, List.append_assoc, readMembers_eq,
    nextMember_first hb hn]
  simp only [afterColon_append hb', skipValue_append hv ha hr]
  by_cases hf : m.name ∈ t.fields
  · rw [if_pos hf, or_iff_left fun h => h.1 hf, and_iff_right hf]
    cases hs : seen.lookup m.name with
    | some x => simp
    | none =>
      rw [if_neg (by simp), and_iff_right rfl]
      split
      · next e he =>
        -- a value that fails is none that is taken
        refine iff_of_false (by simp) ?_
        rintro ⟨x, hx, -⟩
        cases he.symm.trans ((ht hv ha).2 ⟨rfl, hx⟩)
      · next x _ he =>
        obtain ⟨rfl, hx⟩ := (ht hv ha).1 he
        refine ⟨fun h => ⟨x, hx, h⟩, ?_⟩
        rintro ⟨y, hy, h⟩
        obtain ⟨rfl, -⟩ := Prod.mk.inj (Except.ok.inj (he.symm.trans ((ht hv ha).2 ⟨rfl, hy⟩)))
        exact h
  · rw [if_neg hf, or_iff_right fun h => hf h.1, and_iff_right hf]
    cases t.closed with
    | true => simp
    | false => simp

/-- A member whose name needs no escapes. -/
theorem Member.writes_self (hn : Plain name.toList) (hb : Blank before)
    (ha : Blank after) (hv : ValueText depth v) :
    Member.Writes ⟨name, v⟩ (quote name.toList ++ (before ++ ':' :: (after ++ v))) :=
  .intro (.self hn) hb ha ⟨rfl, depth, hv⟩

theorem Member.Writes.head (hm : m.Writes text) : ∃ tail, text = '"' :: tail := by
  cases hm
  exact ⟨_, rfl⟩

theorem readMembers_comma (ha : Blank after) (h : Separated Member.Writes ms text) :
    readMembers t false seen (after ++ ',' :: (text ++ rest)) =
      readMembers t true seen (text ++ rest) := by
  obtain ⟨before, m, first, tail, hb, hm, rfl⟩ := h.head
  obtain ⟨first, rfl⟩ := hm.head
  rw [List.append_assoc, List.cons_append, List.cons_append, readMembers_eq,
    nextMember_comma ha hb, ← readMembers_eq]

theorem readMembers_close (ha : Blank after) (first : Bool) :
    readMembers t first seen (after ++ '}' :: rest) = .ok (fs, left) ↔
      left = rest ∧ Taken t takes seen [] fs := by
  rw [readMembers_eq, nextMember_close ha, taken_nil, Except.ok.injEq, Prod.mk.injEq]
  exact ⟨fun h => ⟨h.2.symm, h.1.symm⟩, fun h => ⟨h.2.symm, h.1.symm⟩⟩

/-- If the other members are read as they are taken, so are all of them. -/
theorem readMembers_cons {behind : List Char} (ht : t.Takes takes) (hm : m.Writes text)
    (hb : Blank before) (hr : Ends rest)
    (h : ∀ seen, readMembers t false seen rest = .ok (fs, left) ↔
      left = behind ∧ Taken t takes seen ms fs) :
    readMembers t true seen (before ++ (text ++ rest)) = .ok (fs, left) ↔
      left = behind ∧ Taken t takes seen (m :: ms) fs := by
  rw [readMembers_append ht hm hb hr, taken_cons]
  simp only [h]
  constructor
  · rintro (⟨hf, hs, x, hx, hl, h⟩ | ⟨hf, hc, hl, h⟩)
    · exact ⟨hl, .inl ⟨hf, hs, x, hx, h⟩⟩
    · exact ⟨hl, .inr ⟨hf, hc, h⟩⟩
  · rintro ⟨hl, ⟨hf, hs, x, hx, h⟩ | ⟨hf, hc, h⟩⟩
    · exact .inl ⟨hf, hs, x, hx, hl, h⟩
    · exact .inr ⟨hf, hc, hl, h⟩

/-- All members up to the closing bracket are read. -/
theorem readMembers_separated (ht : t.Takes takes) (h : Separated Member.Writes ms text) :
    readMembers t true seen (text ++ '}' :: rest) = .ok (fs, left) ↔
      left = rest ∧ Taken t takes seen ms fs := by
  induction h generalizing seen with
  | single hb hm ha =>
    rw [List.append_assoc, List.append_assoc]
    exact readMembers_cons ht hm hb (ends_append ha (ends_cons.2 (by decide))) fun seen =>
      readMembers_close ha false
  | cons hb hm ha hr ih =>
    rw [List.append_assoc, List.append_assoc, List.append_assoc, List.cons_append]
    refine readMembers_cons ht hm hb (ends_append ha (ends_cons.2 (by decide))) fun seen => ?_
    rw [readMembers_comma ha hr]
    exact ih

/-- **An object is read as a record** if its members are taken, and what follows it is left. -/
theorem readRecord_append (ht : t.Takes takes) (h : ObjectText ms text) (hb : Blank before) :
    readRecord t (before ++ (text ++ rest)) = .ok (fs, left) ↔
      left = rest ∧ Taken t takes [] ms fs := by
  cases h with
  | empty h =>
    rw [readRecord, skipSpace_append hb, List.append_assoc, List.cons_append, skipSpace_cons rfl]
    simp only [List.singleton_append]
    exact readMembers_close h true
  | items h =>
    rw [readRecord, skipSpace_append hb, List.append_assoc, List.cons_append, skipSpace_cons rfl]
    simp only [List.singleton_append]
    exact readMembers_separated ht h

/-! ## Fields -/

/-- What the members have for a name: no member, or one whose value is taken as `x`. -/
def Valued (takes : List Char → α → Prop) (ms : List Member) (name : String) : Option α → Prop
  | none => ms.filter (·.name = name) = []
  | some x => ∃ m, ms.filter (·.name = name) = [m] ∧ takes m.value x

theorem filter_cons_of_ne (h : m.name ≠ name) :
    (m :: ms).filter (·.name = name) = ms.filter (·.name = name) :=
  List.filter_cons_of_neg (by simpa using h)

theorem filter_cons_self (m : Member) (ms : List Member) :
    (m :: ms).filter (·.name = m.name) = m :: ms.filter (·.name = m.name) :=
  List.filter_cons_of_pos (by simp)

theorem valued_cons_of_ne (h : m.name ≠ name) {o : Option α} :
    Valued takes (m :: ms) name o ↔ Valued takes ms name o := by
  cases o <;> simp only [Valued, filter_cons_of_ne h]

/-- A member is the only one of its name, if that has a value. -/
theorem valued_cons_self {o : Option α} : Valued takes (m :: ms) m.name o ↔
    ∃ x, o = some x ∧ takes m.value x ∧ Valued takes ms m.name none := by
  cases o with
  | none => simp [Valued]
  | some x =>
    simp only [Valued, filter_cons_self]
    constructor
    · rintro ⟨m', heq, hx⟩
      obtain ⟨rfl, hms⟩ := List.cons.inj heq
      exact ⟨x, rfl, hx, hms⟩
    · rintro ⟨y, hy, hx, hms⟩
      obtain rfl := Option.some.inj hy
      exact ⟨m, congrArg (m :: ·) hms, hx⟩

theorem Valued.unique {o o' : Option α} (h : Valued takes ms name o)
    (h' : Valued takes ms name o') (hu : ∀ {v x y}, takes v x → takes v y → x = y) : o = o' := by
  cases o with
  | none =>
    cases o' with
    | none => rfl
    | some y =>
      obtain ⟨m, hm, -⟩ := h'
      cases hm.symm.trans h
  | some x =>
    obtain ⟨m, hm, hx⟩ := h
    cases o' with
    | none => cases hm.symm.trans h'
    | some y =>
      obtain ⟨m', hm', hy⟩ := h'
      obtain rfl := (List.cons.inj (hm.symm.trans hm')).1
      exact congrArg some (hu hx hy)

theorem lookup_snoc_self {x : α} (hs : seen.lookup name = none) :
    (seen ++ [(name, x)]).lookup name = some x := by
  simp [List.lookup_append, hs]

theorem lookup_snoc_of_ne {x : α} (h : m.name ≠ name) :
    (seen ++ [(m.name, x)]).lookup name = seen.lookup name := by
  simp [List.lookup_append, List.lookup_cons, beq_eq_false_iff_ne.2 h.symm]

theorem Taken.allowed (h : Taken t takes seen ms fs) (hc : t.closed = true) :
    ∀ m ∈ ms, m.name ∈ t.fields := by
  induction h with
  | nil => simp
  | field hm hs hx h ih => exact List.forall_mem_cons.2 ⟨hm, ih⟩
  | passed hm ho h ih => cases ho.symm.trans hc

/-- A field has the value of its member; one that was seen before has no further member. -/
theorem Taken.valued (h : Taken t takes seen ms fs) (hn : name ∈ t.fields) :
    (∀ x, seen.lookup name = some x →
      fs.lookup name = some x ∧ Valued takes ms name none) ∧
    (seen.lookup name = none → Valued takes ms name (fs.lookup name)) := by
  induction h with
  | nil =>
    refine ⟨fun x hx => ⟨hx, rfl⟩, fun hs => ?_⟩
    rw [hs]
    rfl
  | @field seen fs m ms x hm hs hx h ih =>
    by_cases hname : m.name = name
    · subst hname
      obtain ⟨hfs, hms⟩ := ih.1 x (lookup_snoc_self hs)
      refine ⟨fun y hy => ?_, fun _ => ?_⟩
      · cases hs.symm.trans hy
      · rw [hfs, valued_cons_self]
        exact ⟨x, rfl, hx, hms⟩
    · rw [lookup_snoc_of_ne hname] at ih
      simpa only [valued_cons_of_ne hname] using ih
  | @passed seen fs m ms hm ho h ih =>
    have hname : m.name ≠ name := fun heq => hm (heq ▸ hn)
    simpa only [valued_cons_of_ne hname] using ih

/-- If each field has a value or no member, they are taken. -/
theorem exists_taken (hc : t.closed = true → ∀ m ∈ ms, m.name ∈ t.fields)
    (h : ∀ name ∈ t.fields, ∃ o, Valued takes ms name o ∧ (o = none ∨ seen.lookup name = none)) :
    ∃ fs, Taken t takes seen ms fs := by
  induction ms generalizing seen with
  | nil => exact ⟨seen, .nil⟩
  | cons m ms ih =>
    have hc' : t.closed = true → ∀ m ∈ ms, m.name ∈ t.fields := fun ht m hm => hc ht m (.tail _ hm)
    by_cases hm : m.name ∈ t.fields
    · obtain ⟨o, ho, hs⟩ := h m.name hm
      obtain ⟨x, rfl, hx, hms⟩ := valued_cons_self.1 ho
      obtain ⟨fs, hfs⟩ : ∃ fs, Taken t takes (seen ++ [(m.name, x)]) ms fs := by
        refine ih hc' fun name hname => ?_
        by_cases hne : m.name = name
        · subst hne
          exact ⟨none, hms, .inl rfl⟩
        · obtain ⟨o, ho, hs⟩ := h name hname
          rw [valued_cons_of_ne hne] at ho
          exact ⟨o, ho, by rwa [lookup_snoc_of_ne hne]⟩
      exact ⟨fs, .field hm (hs.resolve_left (by simp)) hx hfs⟩
    · have hopen : t.closed = false :=
        Bool.eq_false_iff.2 fun ht => hm (hc ht m List.mem_cons_self)
      obtain ⟨fs, hfs⟩ : ∃ fs, Taken t takes seen ms fs := by
        refine ih hc' fun name hname => ?_
        obtain ⟨o, ho, hs⟩ := h name hname
        exact ⟨o, (valued_cons_of_ne fun heq => hm (heq ▸ hname)).1 ho, hs⟩
      exact ⟨fs, .passed hm hopen hfs⟩

end SearchPanel.Json
