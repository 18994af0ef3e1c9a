import SearchPanel.Json.Index
import SearchPanel.Proofs.Text.Printable

/-!
# The wording of faults

What is wrong with an index is told in words that show no control character, whatever the index
holds: a string that stands in a wrong place is quoted, and the members that are named are fields of
a document.

* `Cause.Plain`: the causes of which this can be said.
* The lemmas `plain_…`: each reader fails with such a cause.
* `printable_message_of_parseIndex`: the message of an index that is refused.
-/

namespace SearchPanel.Json

open Text (Printable)

/-- The texts that a cause brings with it hold no control character. A name that is not known is
never told, since unknown members of a document are skipped. -/
@[grind]
def Cause.Plain : Cause → Prop
  | wrongType _ expected => Printable expected
  | unknownField .. => False
  | duplicateField name => Printable name
  | _ => True

@[simp, grind =]
theorem Failure.cause_behind (cause : Cause) (rest : List Char) :
    (Failure.behind cause rest).cause = cause := rfl

@[simp, grind =]
theorem Failure.cause_ahead (cause : Cause) (rest : List Char) :
    (Failure.ahead cause rest).cause = cause := rfl

variable {text word : List Char} {f : Failure} {atEnd : Cause} {negative first : Bool}
  {n : Numeral} {b : Bracket} {outer : List Bracket} {expected : String}

/-! ## Tokens -/

@[grind →]
theorem plain_afterWord (h : afterWord word text = .error f) : f.cause.Plain := by
  fun_induction afterWord word text <;> grind

@[grind →]
theorem plain_readHex (h : readHex text = .error f) : f.cause.Plain := by
  unfold readHex at h
  grind

@[grind →]
theorem plain_readPair {leading : Nat} (h : readPair leading text = .error f) : f.cause.Plain := by
  unfold readPair at h
  grind

@[grind →]
theorem plain_readEscape (h : readEscape text = .error f) : f.cause.Plain := by
  unfold readEscape at h
  grind

@[grind →]
theorem plain_readString (h : readString text = .error f) : f.cause.Plain := by
  fun_induction readString text <;> grind

@[grind →]
theorem plain_skipEscape (h : skipEscape text = .error f) : f.cause.Plain := by
  unfold skipEscape at h
  grind

@[grind →]
theorem plain_skipString (h : skipString text = .error f) : f.cause.Plain := by
  fun_induction skipString text <;> grind

/-! ## Numbers -/

@[grind →]
theorem plain_scanExponent (h : scanExponent atEnd text = .error f) (ha : atEnd.Plain) :
    f.cause.Plain := by
  unfold scanExponent at h
  grind

@[grind →]
theorem plain_withExponent (h : withExponent atEnd n text = .error f) (ha : atEnd.Plain) :
    f.cause.Plain := by
  unfold withExponent at h
  grind

@[grind →]
theorem plain_scanTail (h : scanTail atEnd n text = .error f) (ha : atEnd.Plain) :
    f.cause.Plain := by
  unfold scanTail at h
  grind

@[grind →]
theorem plain_scanNumber (h : scanNumber atEnd negative text = .error f) (ha : atEnd.Plain) :
    f.cause.Plain := by
  unfold scanNumber at h
  grind

@[grind →]
theorem plain_readNumber (h : readNumber negative text = .error f) : f.cause.Plain := by
  unfold readNumber at h
  grind

@[grind →]
theorem plain_skipNumber (h : skipNumber negative text = .error f) : f.cause.Plain := by
  unfold skipNumber at h
  grind

/-! ## Values that are skipped -/

@[grind →]
theorem plain_skipScalar (h : skipScalar text = .error f) : f.cause.Plain := by
  unfold skipScalar at h
  grind

@[grind →]
theorem plain_skipName (h : skipName text = .error f) : f.cause.Plain := by
  unfold skipName at h
  grind

@[grind →]
theorem plain_itemValue (h : itemValue b text = .error f) : f.cause.Plain := by
  cases b with
  | list => cases h
  | object => exact plain_skipName h

@[grind →]
theorem plain_nextItem (h : nextItem b first text = .error f) : f.cause.Plain := by
  cases b <;> (unfold nextItem Bracket.endCause Bracket.commaCause at h; grind)

/-- A value is skipped bracket by bracket, and each step fails plainly. -/
theorem plain_skip :
    (∀ outer text, ∀ f, skipValueIn outer text = .error f → f.cause.Plain) ∧
    ∀ first brackets text, ∀ f, skipItems first brackets text = .error f → f.cause.Plain := by
  apply skipValueIn.mutual_induct
  case case5 => intro first text f h; simp [skipItems] at h
  all_goals intros
  all_goals rename_i h
  case case1 | case2 | case3 | case4 =>
    rw [skipValueIn_eq] at h
    grind
  all_goals
    rw [skipItems_cons] at h
    grind

@[grind →]
theorem plain_skipValue (h : skipValue text = .error f) : f.cause.Plain := plain_skip.1 _ _ _ h

/-! ## Records -/

@[grind .]
theorem plain_wrongType (he : Printable expected) (text : List Char) :
    (wrongType expected text).cause.Plain := by
  unfold wrongType
  grind

@[grind →]
theorem plain_readText (h : readText text = .error f) : f.cause.Plain := by
  have he : Printable "a string" := by decide
  unfold readText at h
  grind

@[grind →]
theorem plain_nextElement (h : nextElement first text = .error f) : f.cause.Plain := by
  unfold nextElement at h
  grind

@[grind →]
theorem plain_endList (h : endList text = .error f) : f.cause.Plain := by
  unfold endList at h
  grind

@[grind →]
theorem plain_nextMember (h : nextMember first text = .error f) : f.cause.Plain := by
  unfold nextMember at h
  grind

@[grind →]
theorem plain_afterColon (h : afterColon text = .error f) : f.cause.Plain := by
  unfold afterColon at h
  grind

@[simp, grind =]
theorem cause_memberFault (cause : Cause) (text : List Char) :
    (memberFault cause text).cause = cause := by
  unfold memberFault
  grind

/-- A kind of record with printable names, that skips other members. -/
structure RecordType.Plain {α : Type} (t : RecordType α) : Prop where
  label : Printable t.label
  fields : ∀ name ∈ t.fields, Printable name
  closed : t.closed = false
  value : ∀ text f, t.readValue text = .error f → f.cause.Plain

theorem plain_documentType : documentType.Plain where
  label := by decide
  fields := by decide
  closed := rfl
  value _ _ := plain_readText

section Records

variable {α : Type} {t : RecordType α} {names : List String} {seen : Fields α}

theorem plain_readPlaces (ht : t.Plain) (h : readPlaces t first names text = .error f) :
    f.cause.Plain := by
  have hvalue := ht.value
  induction names generalizing first text with
  | nil =>
    unfold readPlaces at h
    grind
  | cons name names ih =>
    unfold readPlaces at h
    grind

theorem plain_readMembers (ht : t.Plain) (h : readMembers t first seen text = .error f) :
    f.cause.Plain := by
  obtain ⟨-, hfields, hclosed, hvalue⟩ := ht
  fun_induction readMembers t first seen text <;> grind

theorem plain_readRecord (ht : t.Plain) (h : readRecord t text = .error f) : f.cause.Plain := by
  have hlabel := ht.label
  unfold readRecord at h
  split at h
  · exact plain_readMembers ht h
  · exact plain_readPlaces ht h
  · grind

end Records

theorem plain_readDocuments (h : readDocuments first text = .error f) : f.cause.Plain := by
  fun_induction readDocuments first text with
  | case3 first text rest hn f' hr =>
    obtain rfl := Except.error.inj h
    exact plain_readRecord plain_documentType hr
  | _ => grind

theorem plain_readIndex (h : readIndex text = .error f) : f.cause.Plain := by
  have he : Printable "a sequence" := by decide
  unfold readIndex at h
  split at h
  · exact plain_readDocuments h
  · grind

/-! ## Messages -/

theorem printable_describe (floats : Decimal.Form) (found : Found) :
    Printable (found.describe floats) := by
  have htick : Printable "`" := by decide
  cases found with
  | null => exact (by decide : Printable "null")
  | boolean b =>
    cases b with
    | false => exact (by decide : Printable "boolean `false`")
    | true => exact (by decide : Printable "boolean `true`")
  | integer n =>
    have hname : Printable "integer `" := by decide
    exact (hname.append (Text.printable_int n)).append htick
  | float x =>
    have hname : Printable "floating point `" := by decide
    exact (hname.append (Text.printable_float floats x)).append htick
  | string s =>
    have hname : Printable "string " := by decide
    exact hname.append (Text.printable_quoted s)
  | sequence => exact (by decide : Printable "sequence")
  | map => exact (by decide : Printable "map")

theorem printable_wrongTypeMessage (floats : Decimal.Form) (found : Found)
    (he : Printable expected) : Printable (wrongTypeMessage floats found expected) := by
  have hstart : Printable "invalid type: " := by decide
  have hmiddle : Printable ", expected " := by decide
  exact ((hstart.append (printable_describe floats found)).append hmiddle).append he

theorem Cause.Plain.printable {cause : Cause} (h : cause.Plain) : Printable cause.message := by
  cases cause with
  | wrongType found expected => exact printable_wrongTypeMessage floatForm found h
  | unknownField name known => exact h.elim
  | duplicateField name =>
    have hstart : Printable "duplicate field `" := by decide
    have hend : Printable "`" := by decide
    exact (hstart.append h).append hend
  | _ => decide +kernel

theorem Error.printable {e : Error} (h : e.cause.Plain) : Printable e.message := by
  have hline : Printable " at line " := by decide
  have hcolumn : Printable " column " := by decide
  exact (((h.printable.append hline).append (Text.printable_toString _)).append hcolumn).append
    (Text.printable_toString _)

/-- The message of an index that is refused shows no control character. -/
theorem printable_message_of_parseIndex {json : String} {e : Error}
    (h : parseIndex json = .error e) : Printable e.message := by
  unfold parseIndex readAll at h
  dsimp only at h
  split at h
  · next hread =>
    obtain rfl := Except.error.inj h
    exact Error.printable (plain_readIndex hread)
  · split at h
    · cases h
    · obtain rfl := Except.error.inj h
      exact Error.printable trivial

end SearchPanel.Json
