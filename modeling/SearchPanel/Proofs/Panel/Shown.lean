import SearchPanel.Panel.View

/-!
# What a panel shows, and its mark

* `View.content`: what is shown, but for the height of the list. `View.changed` is what one step of
  a panel can make of it: a query that is taken empties it, and an answer fills it.
* `View.Marked v`: the mark stands over a list that is not empty, and only there.
* `View.HonestAlong v calls`: at no time while the calls are made does the mark stand over an empty
  list.
-/

namespace SearchPanel

variable {H : Type}

namespace View

variable {v : View H} {taken : Bool} {shown : Option (List Fragment)}

/-! ## Contents -/

/-- What is shown, but for the height of the list. -/
def content (v : View H) : View H := { v with maxHeight := none }

def cleared (v : View H) : View H :=
  { v with fragments := [], hasResults := false, clears := v.clears + 1 }

def filled (v : View H) (fragments : List Fragment) : View H :=
  { v with
    fragments
    hasResults := v.hasResults || !fragments.isEmpty
    renders := v.renders + 1 }

/-- A query was taken, or an answer shown, or both. -/
def changed (v : View H) (taken : Bool) (shown : Option (List Fragment)) : View H :=
  let v := if taken then v.cleared else v
  shown.elim v v.filled

theorem changed_changed (v : View H) (taken : Bool) (shown : Option (List Fragment)) :
    (v.changed taken none).changed false shown = v.changed taken shown := rfl

theorem clears_changed :
    (v.changed taken shown).clears = v.clears + if taken then 1 else 0 := by
  cases taken <;> cases shown <;> rfl

theorem renders_changed :
    (v.changed taken shown).renders = v.renders + if shown.isSome then 1 else 0 := by
  cases taken <;> cases shown <;> rfl

theorem fragments_changed_some (fragments : List Fragment) :
    (v.changed taken (some fragments)).fragments = fragments := rfl

theorem content_applyAll_showing [Sub H] (v : View H) (g : Layout H) (fragments : List Fragment) :
    (v.applyAll (showing g fragments)).content = v.content.filled fragments := by
  cases fragments <;> simp [showing, applyAll, apply, content, filled, Layout.adjust]

/-- The mark stands over a list that is not empty, and only there. -/
def Marked (v : View H) : Prop := v.hasResults = true ↔ v.fragments ≠ []

/-- An answer that comes without a query is shown in an empty list. -/
theorem Marked.changed (h : v.Marked)
    (hempty : taken = false → shown.isSome = true → v.fragments = []) :
    (v.changed taken shown).Marked := by
  cases shown with
  | none => cases taken <;> simp_all [Marked, View.changed, cleared]
  | some fragments =>
    have hoff : taken = false → v.hasResults = false := fun ht =>
      Bool.eq_false_iff.2 fun hon => h.1 hon (hempty ht rfl)
    cases taken <;> cases fragments <;> simp_all [Marked, View.changed, cleared, filled]

/-! ## Between the calls -/

/-- The mark does not stand over an empty list. -/
def Honest (v : View H) : Prop := v.hasResults = true → v.fragments ≠ []

/-- So it is after each of some calls, and before the first. -/
def HonestAlong (v : View H) : List (ViewCall H) → Prop
  | [] => v.Honest
  | call :: calls => v.Honest ∧ (v.apply call).HonestAlong calls

theorem HonestAlong.honest_applyAll {calls made : List (ViewCall H)} (h : v.HonestAlong calls)
    (hm : made <+: calls) : (v.applyAll made).Honest := by
  induction calls generalizing v made with
  | nil =>
    rw [List.prefix_nil.1 hm]
    exact h
  | cons call calls ih =>
    cases made with
    | nil => exact h.1
    | cons first made =>
      obtain ⟨rfl, hmade⟩ := List.cons_prefix_cons.1 hm
      exact ih (v := v.apply first) h.2 hmade

theorem HonestAlong.append {first later : List (ViewCall H)} (h : v.HonestAlong first)
    (h' : (v.applyAll first).HonestAlong later) : v.HonestAlong (first ++ later) := by
  induction first generalizing v with
  | nil => exact h'
  | cons call first ih => exact ⟨h.1, ih h.2 h'⟩

theorem honest_of_off (h : v.hasResults = false) : v.Honest := fun hon => by
  rw [h] at hon
  cases hon

theorem Honest.along_clearing (h : v.Honest) : v.HonestAlong clearing :=
  ⟨h, honest_of_off rfl, honest_of_off rfl⟩

/-- The fragments come before the mark. -/
theorem honestAlong_showing [Sub H] (h : v.hasResults = false) (g : Layout H)
    (fragments : List Fragment) : v.HonestAlong (showing g fragments) := by
  cases fragments with
  | nil => exact ⟨honest_of_off h, honest_of_off h⟩
  | cons f fragments =>
    exact ⟨honest_of_off h, honest_of_off h, fun _ => List.cons_ne_nil _ _,
      fun _ => List.cons_ne_nil _ _⟩

end View

end SearchPanel
