import SearchPanel.Proofs.Page.Turn

/-!
# A page, one thing at a time

* `Page.Move`: an event, a change of an element's text that no one is told of, or the turn of one
  task. The turns that follow an event need not come before the next one; only the tasks that have
  not begun begin in the order in which they were started (`Page.turn?`).
* `Page.play`, `Page.moments`: the page after some moves, and what happened on the way.
* `Page.Told p new q`: an event, or no more than a change of values, leads from `p` to `q` and
  starts the tasks `new`. Every event but the attaching of panels does no more (`told_handle`).
* `Page.Moved p m q`: all that a move can do, one case for each way that it can go (`moved`).
* `Moved.exists_becomes`, `Moved.response?_eq`: panels become what they are after the move, and
  answers stay.
* `spawned_append_eq`: tasks begin in the order in which they were started.
-/

namespace SearchPanel.Page

/-- What goes on in a page. -/
inductive Move
  /-- Something happens. The queries that it starts have not begun. -/
  | event (e : Event)
  /-- An element gets another text, and no one is told. -/
  | setValue (target : Nat) (text : String)
  /-- The task at a place has its turn. -/
  | turn (place : Nat)

/-- The task at a place that may have its turn: one that has begun, or else the oldest one. -/
def turn? (p : Page) (i : Nat) : Option Task :=
  (p.tasks[i]?).filter fun t => !t.isStarted || (p.tasks.take i).all (!·.isStarted)

/-- The task at a place has its turn, if it may. -/
def takeTurn (p : Page) (i : Nat) : Page :=
  match p.turn? i with
  | none => p
  | some t =>
    { (p.runTask t).2.1 with
      tasks := p.tasks.take i ++ (p.runTask t).1.toList ++ p.tasks.drop (i + 1) }

/-- The page after a move. -/
def move (p : Page) : Move → Page
  | .event e => (p.handle e).2.1
  | .setValue target text =>
    { p with tree := p.tree.modify target fun e => { e with value := text } }
  | .turn i => p.takeTurn i

/-- The page after some moves. -/
def play (p : Page) (moves : List Move) : Page := moves.foldl move p

/-- A move and the page that it is made in. -/
structure Moment where
  before : Page
  move : Move

/-- The moments of some moves. -/
def moments (p : Page) : List Move → List Moment
  | [] => []
  | m :: moves => ⟨p, m⟩ :: (p.move m).moments moves

namespace Moment

def after (m : Moment) : Page := m.before.move m.move

/-- The tasks that are started with the moment. -/
def spawned (m : Moment) : List Task :=
  match m.move with
  | .event _ => m.after.tasks.drop m.before.tasks.length
  | .setValue .. | .turn _ => []

/-- The task that begins with the moment. -/
def begun? (m : Moment) : Option Task :=
  match m.move with
  | .turn i => (m.before.turn? i).filter (·.isStarted)
  | .event _ | .setValue .. => none

end Moment

/-- The text of an element. -/
def valueOf (p : Page) (k : Nat) : String := ((p.tree.get? k).map (·.value)).getD ""

/-- The task is a query that has not begun, with the text of its panel's input. -/
def Captures (p : Page) (t : Task) : Prop :=
  t.stage = .started ∧ ∃ s, p.panels[t.panel]? = some s ∧ t.query = p.valueOf s.input

/-- What an event, or a change of values, can do: it starts the tasks `new`. -/
structure Told (p : Page) (new : List Task) (q : Page) : Prop where
  panels : q.panels = p.panels
  tasks : q.tasks = p.tasks ++ new
  captures : ∀ t ∈ new, q.Captures t
  requests : q.requests.length = p.requests.length
  responses : ∀ r response, p.response? r = some response → q.response? r = some response
  shown : p.tree.SameShown q.tree

variable {p q : Page} {t : Task} {s : Section} {m : Move} {new : List Task} {i : Nat}

/-! ## Events -/

theorem Told.of_shown (hpanels : q.panels = p.panels) (htasks : q.tasks = p.tasks)
    (hrequests : q.requests = p.requests) (h : p.tree.SameShown q.tree) : p.Told [] q where
  panels := hpanels
  tasks := htasks.trans (List.append_nil _).symm
  captures := fun t ht => absurd ht List.not_mem_nil
  requests := congrArg List.length hrequests
  responses := fun r response hr => by rwa [response?, hrequests]
  shown := h

/-- Every panel that listens starts a query. -/
theorem told_startQueries (p : Page) (target : Nat) :
    ∃ new, p.startQueries target = { p with tasks := p.tasks ++ new } ∧
      ∀ t ∈ new, p.Captures t := by
  refine ⟨_, rfl, fun t ht => ?_⟩
  obtain ⟨k, hk, rfl⟩ := List.mem_map.1 ht
  obtain ⟨⟨s, k'⟩, hs, rfl⟩ := List.mem_map.1 hk
  obtain ⟨hmem, hinput⟩ := List.mem_filter.1 hs
  have hpanel : p.panels[k']? = some s := List.mem_zipIdx_iff_getElem?.1 hmem
  refine ⟨rfl, s, hpanel, ?_⟩
  rw [of_decide_eq_true hinput]
  rfl

theorem told_setValue (p : Page) (target : Nat) (text : String) :
    p.Told [] { p with tree := p.tree.modify target fun e => { e with value := text } } :=
  .of_shown rfl rfl rfl (p.tree.sameShown_modify target (fun _ => rfl) fun _ => rfl)

theorem told_type (p : Page) (target : Nat) (text : String) :
    ∃ new, p.Told new (p.handle (.type target text)).2.1 := by
  have hset := p.told_setValue target text
  obtain ⟨new, heq, hnew⟩ := told_startQueries
    { p with tree := p.tree.modify target fun e => { e with value := text } } target
  refine ⟨new, ?_⟩
  show p.Told new (Page.startQueries _ target)
  rw [heq]
  exact ⟨rfl, rfl, hnew, rfl, hset.responses, hset.shown⟩

/-- No more than the focus changes, and no one is told. -/
theorem told_lost (p : Page) (active : Option Nat) :
    ∃ active' new, { p with active } = { p with active := active', tasks := p.tasks ++ new } ∧
      ∀ t ∈ new, p.Captures t := by
  refine ⟨active, [], ?_, fun t ht => absurd ht List.not_mem_nil⟩
  rw [List.append_nil]

theorem told_focus (p : Page) (target : Nat) :
    ∃ active new, p.focus target = { p with active, tasks := p.tasks ++ new } ∧
      ∀ t ∈ new, p.Captures t := by
  unfold focus
  split
  · exact p.told_lost p.active
  · obtain ⟨new, heq, hnew⟩ := told_startQueries { p with active := some target } target
    exact ⟨_, new, heq, hnew⟩

/-- An input that is asked to take the focus. -/
theorem told_askFocus (p : Page) (found : FoundInput) :
    ∃ active new, p.askFocus found = { p with active, tasks := p.tasks ++ new } ∧
      ∀ t ∈ new, p.Captures t := by
  cases found with
  | own k =>
    simp only [askFocus]
    split
    · exact p.told_focus k
    · exact p.told_lost p.active
  | shown focusable =>
    cases focusable with
    | true => exact p.told_lost none
    | false => exact p.told_lost p.active

theorem told_focusSections (p : Page) (roots : List Nat) :
    ∃ active new, roots.foldl focusSection p = { p with active, tasks := p.tasks ++ new } ∧
      ∀ t ∈ new, p.Captures t := by
  induction roots generalizing p with
  | nil => exact p.told_lost p.active
  | cons root roots ih =>
    have hfirst : ∃ active new, p.focusSection root = { p with active, tasks := p.tasks ++ new } ∧
        ∀ t ∈ new, p.Captures t := by
      unfold focusSection
      split
      · exact p.told_askFocus _
      · exact p.told_lost p.active
    obtain ⟨active, new, heq, hnew⟩ := hfirst
    obtain ⟨active', new', heq', hnew'⟩ := ih (p.focusSection root)
    refine ⟨active', new ++ new', ?_, fun t ht => ?_⟩
    · rw [List.foldl_cons, heq', heq, ← List.append_assoc]
    · rw [heq] at hnew'
      exact (List.mem_append.1 ht).elim (hnew t) (hnew' t)

theorem told_of_tasks {active : Option Nat} (hnew : ∀ t ∈ new, p.Captures t) :
    p.Told new { p with active, tasks := p.tasks ++ new } :=
  ⟨rfl, rfl, hnew, rfl, fun _ _ hr => hr, .refl p.tree⟩

theorem told_enable (p : Page) (target : Nat) (on : Bool) : p.Told [] (p.enable target on) :=
  .of_shown rfl rfl rfl (p.tree.sameShown_modify target (fun _ => rfl) fun _ => rfl)

theorem sameShown_adjust (p : Page) (s : Section) : p.tree.SameShown (p.adjust s).tree := by
  unfold adjust
  cases (p.layoutOf s).adjust (p.tree.childCount s.results) with
  | none => exact .refl p.tree
  | some h => exact p.tree.sameShown_modify s.results (fun _ => rfl) fun _ => rfl

theorem told_adjust (p : Page) (s : Section) : p.Told [] (p.adjust s) :=
  .of_shown (panels_performAll ..) (tasks_performAll ..) (requests_performAll ..)
    (p.sameShown_adjust s)

theorem Told.trans_nil {r : Page} (h : p.Told [] q) (h' : q.Told [] r) : p.Told [] r where
  panels := h'.panels.trans h.panels
  tasks := by rw [h'.tasks, h.tasks, List.append_nil]
  captures := h'.captures
  requests := h'.requests.trans h.requests
  responses := fun k response hk => h'.responses k response (h.responses k response hk)
  shown := h.shown.trans h'.shown

theorem told_adjustAll (p : Page) : p.Told [] p.adjustAll := by
  have hall : ∀ (sections : List Section) (p : Page), p.Told [] (sections.foldl adjust p) := by
    intro sections
    induction sections with
    | nil => exact fun p => .of_shown rfl rfl rfl (.refl p.tree)
    | cons s rest ih => exact fun p => (p.told_adjust s).trans_nil (ih (p.adjust s))
  exact hall p.panels p

theorem told_setHeights (p : Page) (heights : List (Nat × Int)) :
    p.Told [] (p.setHeights heights) := by
  have hall : ∀ (heights : List (Nat × Int)) (t : Tree),
      t.SameShown (heights.foldl (fun t h =>
        t.modify h.1 fun e => { e with height := h.2 }) t) := by
    intro heights
    induction heights with
    | nil => exact .refl
    | cons h rest ih =>
      intro t
      have hfirst : t.SameShown (t.modify h.1 fun e => { e with height := h.2 }) :=
        t.sameShown_modify h.1 (fun _ => rfl) fun _ => rfl
      exact hfirst.trans (ih _)
  exact .of_shown rfl rfl rfl (hall heights p.tree)

/-- An answer that was given stays. -/
theorem told_respond (p : Page) (r : Nat) (response : Response) :
    p.Told [] (p.respond r response).2 := by
  unfold respond
  split
  · next url hr =>
    refine ⟨rfl, (List.append_nil _).symm, fun t ht => absurd ht List.not_mem_nil,
      List.length_modify .., ?_, .refl p.tree⟩
    intro k given hk
    have hrk : r ≠ k := by
      rintro rfl
      rw [response?, hr] at hk
      cases hk
    show ((p.requests.modify r _)[k]?).bind (·.response) = some given
    rw [List.getElem?_modify_ne _ _ hrk]
    exact hk
  · exact .of_shown rfl rfl rfl (.refl p.tree)

/-- An event that attaches no panels starts tasks at the most. -/
theorem told_handle (p : Page) (e : Event) (he : ∀ options, e ≠ .attach options) :
    ∃ new, p.Told new (p.handle e).2.1 := by
  cases e with
  | setVerbosity v => exact ⟨[], .of_shown rfl rfl rfl (.refl p.tree)⟩
  | attach options => exact absurd rfl (he options)
  | type target text => exact p.told_type target text
  | focus target =>
    obtain ⟨active, new, heq, hnew⟩ := p.told_focus target
    refine ⟨new, ?_⟩
    show p.Told new (p.focus target)
    rw [heq]
    exact told_of_tasks hnew
  | blur => exact ⟨[], .of_shown rfl rfl rfl (.refl p.tree)⟩
  | enable target on => exact ⟨[], p.told_enable target on⟩
  | resize heights => exact ⟨[], (p.told_setHeights heights).trans_nil (told_adjustAll _)⟩
  | key key ctrl command target =>
    show ∃ new, p.Told new (p.press _).2
    unfold press
    split
    · obtain ⟨active, new, heq, hnew⟩ := p.told_focusSections p.shortcuts
      refine ⟨new, ?_⟩
      rw [heq]
      exact told_of_tasks hnew
    · exact ⟨[], .of_shown rfl rfl rfl (.refl p.tree)⟩
  | respond r response => exact ⟨[], p.told_respond r response⟩

/-! ## Events at the input of a panel -/

variable {k : Nat}

/-- A panel listens to its input. -/
theorem mem_startQueries (hs : p.panels[k]? = some s) :
    { panel := k, query := p.valueOf s.input } ∈
      (p.startQueries s.input).tasks.drop p.tasks.length := by
  have hlistens : (s, k) ∈ p.panels.zipIdx.filter (·.1.input = s.input) :=
    List.mem_filter.2 ⟨List.mem_zipIdx_iff_getElem?.2 hs, decide_eq_true rfl⟩
  rw [startQueries, List.drop_left]
  exact List.mem_map.2 ⟨k, List.mem_map.2 ⟨(s, k), hlistens, rfl⟩, rfl⟩

/-- Typing into the input of a panel starts a query with the text. -/
theorem mem_spawned_type (hs : p.panels[k]? = some s) (hhas : p.Has s) (text : String) :
    { panel := k, query := text } ∈ (Moment.mk p (.event (.type s.input text))).spawned := by
  have hmem := mem_startQueries
    (p := { p with tree := p.tree.modify s.input fun e => { e with value := text } }) hs
  have hvalue : valueOf { p with tree := p.tree.modify s.input fun e => { e with value := text } }
      s.input = text := by
    rw [valueOf, Tree.get?_modify, if_pos rfl, Tree.get?_eq_getElem hhas.input]
    rfl
  rwa [hvalue] at hmem

/-- Focusing the input of a panel starts a query, unless it has the focus already. -/
theorem mem_spawned_focus (hs : p.panels[k]? = some s) (hne : p.active ≠ some s.input) :
    { panel := k, query := p.valueOf s.input } ∈
      (Moment.mk p (.event (.focus s.input))).spawned := by
  show _ ∈ (p.focus s.input).tasks.drop _
  rw [focus, if_neg hne]
  exact mem_startQueries (p := { p with active := some s.input }) hs

/-! ## Moves -/

/-- The tasks around one that has its turn. If it begins then all before it have begun. -/
structure Splits (p : Page) (i : Nat) (before : List Task) (t : Task) (after : List Task) :
    Prop where
  turn : p.turn? i = some t
  tasks : p.tasks = before ++ t :: after
  order : t.isStarted = true → ∀ u ∈ before, u.isStarted = false

theorem splits_of_turn? (ht : p.turn? i = some t) :
    p.Splits i (p.tasks.take i) t (p.tasks.drop (i + 1)) := by
  obtain ⟨hget, hmay⟩ := Option.filter_eq_some_iff.1 ht
  obtain ⟨hi, rfl⟩ := List.getElem?_eq_some_iff.1 hget
  refine ⟨ht, ?_, fun hst u hu => ?_⟩
  · rw [← List.drop_eq_getElem_cons hi, List.take_append_drop]
  · rw [hst, Bool.not_true, Bool.false_or, List.all_eq_true] at hmay
    exact (Bool.not_eq_eq_eq_not.1 (hmay u hu)).trans Bool.not_true

/-- All that a move other than the attaching of panels can do. -/
inductive Moved (p : Page) : Move → Page → Prop
  /-- Something happens, or a text changes. -/
  | told {m : Move} {new : List Task} {q : Page} (hm : ∀ i, m ≠ .turn i) (h : p.Told new q) :
      Moved p m q
  /-- It is no task's turn. -/
  | idle {i : Nat} (ht : p.turn? i = none) : Moved p (.turn i) p
  /-- A task of no panel. -/
  | vanished {i : Nat} {before after : List Task} {t : Task} (ht : p.Splits i before t after)
      (hs : p.panels[t.panel]? = none) : Moved p (.turn i) { p with tasks := before ++ after }
  | turned {i : Nat} {before after : List Task} {t : Task} {s : Section} {kept : Option Task}
      {c : Controller} {q : Page} (ht : p.Splits i before t after)
      (hs : p.panels[t.panel]? = some s) (h : p.Turned t s kept c q) :
      Moved p (.turn i) { q with tasks := before ++ kept.toList ++ after }

theorem moved_turn (p : Page) (i : Nat) : p.Moved (.turn i) (p.takeTurn i) := by
  unfold takeTurn
  cases ht : p.turn? i with
  | none => exact .idle ht
  | some t =>
    have hsplits := splits_of_turn? ht
    cases hs : p.panels[t.panel]? with
    | some s =>
      obtain ⟨c, h⟩ := turned hs
      exact .turned hsplits hs h
    | none =>
      simp only [runTask_of_none hs, Option.toList_none, List.append_nil]
      exact .vanished hsplits hs

/-- Every move is one of the cases. -/
theorem moved (p : Page) (m : Move) (hm : ∀ options, m ≠ .event (.attach options)) :
    p.Moved m (p.move m) := by
  cases m with
  | event e =>
    obtain ⟨new, h⟩ := p.told_handle e fun options he => hm options (congrArg Move.event he)
    exact .told (fun i => Move.noConfusion) h
  | setValue target text => exact .told (fun i => Move.noConfusion) (p.told_setValue target text)
  | turn i => exact p.moved_turn i

namespace Moved

/-- Whatever is found of a panel after a move was there before. -/
theorem exists_becomes {s' : Section} (h : p.Moved m q) (hs' : q.panels[k]? = some s') :
    ∃ s, p.panels[k]? = some s ∧ s.Becomes s' := by
  cases h with
  | told hm h => exact ⟨s', h.panels ▸ hs', .refl s'⟩
  | idle ht => exact ⟨s', hs', .refl s'⟩
  | vanished ht hs => exact ⟨s', hs', .refl s'⟩
  | turned ht hs h => exact h.exists_becomes hs hs'

/-- An answer that was given stays. -/
theorem response?_eq {r : Nat} {response : Response} (h : p.Moved m q)
    (hr : p.response? r = some response) : q.response? r = some response := by
  cases h with
  | told hm h => exact h.responses r response hr
  | idle ht => exact hr
  | vanished ht hs => exact hr
  | turned ht hs h => exact (h.response?_eq r).trans hr

theorem length (h : p.Moved m q) : q.tree.elements.length = p.tree.elements.length := by
  cases h with
  | told hm h => exact h.shown.length
  | idle ht => rfl
  | vanished ht hs => rfl
  | turned ht hs h => exact h.length

end Moved

/-! ## Moments -/

theorem play_cons (p : Page) (m : Move) (moves : List Move) :
    p.play (m :: moves) = (p.move m).play moves := rfl

theorem play_append (p : Page) (moves later : List Move) :
    p.play (moves ++ later) = (p.play moves).play later := List.foldl_append

/-- A moment among others cuts the moves in two. -/
theorem exists_of_moments_eq {moves : List Move} {first later : List Moment} {m : Moment}
    (h : p.moments moves = first ++ m :: later) : ∃ moves₁ moves₂,
      moves = moves₁ ++ m.move :: moves₂ ∧ m.before = p.play moves₁ ∧
        first = p.moments moves₁ ∧ later = m.after.moments moves₂ := by
  induction moves generalizing p first with
  | nil => exact absurd h.symm (List.append_ne_nil_of_right_ne_nil _ (List.cons_ne_nil _ _))
  | cons m₁ moves ih =>
    cases first with
    | nil =>
      obtain ⟨rfl, rfl⟩ := List.cons.inj h
      exact ⟨[], moves, rfl, rfl, rfl, rfl⟩
    | cons first₁ first =>
      obtain ⟨rfl, hrest⟩ := List.cons.inj h
      obtain ⟨moves₁, moves₂, rfl, hbefore, rfl, hlater⟩ := ih hrest
      exact ⟨m₁ :: moves₁, moves₂, rfl, hbefore, rfl, hlater⟩

/-- What each move keeps holds after all of them. -/
theorem play_invariant {I : Page → Prop} {moves : List Move}
    (hmove : ∀ p, ∀ m ∈ moves, I p → I (p.move m)) (h : I p) : I (p.play moves) := by
  induction moves generalizing p with
  | nil => exact h
  | cons m moves ih =>
    exact ih (fun p m hm => hmove p m (.tail _ hm)) (hmove p m (.head _) h)

/-- Whatever is found of a panel after some moves was there before. -/
theorem exists_becomes_play {moves : List Move} {s' : Section}
    (hmoves : ∀ m ∈ moves, ∀ options, m ≠ .event (.attach options))
    (hs' : (p.play moves).panels[k]? = some s') :
    ∃ s, p.panels[k]? = some s ∧ s.Becomes s' := by
  induction moves generalizing p with
  | nil => exact ⟨s', hs', .refl s'⟩
  | cons m moves ih =>
    obtain ⟨s₁, hs₁, hb₁⟩ := ih (fun m hm => hmoves m (.tail _ hm)) hs'
    obtain ⟨s, hs, hb⟩ := (p.moved m (hmoves m (.head _))).exists_becomes hs₁
    exact ⟨s, hs, hb.trans hb₁⟩

/-! ## Tasks begin in order -/

theorem filter_started_cons_append {before after : List Task} (ht : p.Splits i before t after) :
    p.tasks.filter (·.isStarted) =
      ((p.turn? i).filter (·.isStarted)).toList ++ (before ++ after).filter (·.isStarted) := by
  rw [ht.turn, ht.tasks, List.filter_append, List.filter_append, List.filter_cons]
  cases hst : t.isStarted with
  | false => simp [Option.filter, hst]
  | true =>
    have hbefore : before.filter (·.isStarted) = [] :=
      List.filter_eq_nil_iff.2 fun u hu hu' => Bool.noConfusion (hu'.symm.trans (ht.order hst u hu))
    simp [Option.filter, hst, hbefore]

/-- A move takes the first of the tasks that have not begun, or none, and adds those that it starts
behind them. -/
theorem spawned_append_eq_move (p : Page) (m : Move)
    (hm : ∀ options, m ≠ .event (.attach options)) :
    p.tasks.filter (·.isStarted) ++ (Moment.mk p m).spawned =
      (Moment.mk p m).begun?.toList ++ (p.move m).tasks.filter (·.isStarted) := by
  cases m with
  | event e =>
    obtain ⟨new, h⟩ := p.told_handle e fun options he => hm options (congrArg Move.event he)
    have hspawned : (Moment.mk p (.event e)).spawned = new := by
      show (p.handle e).2.1.tasks.drop p.tasks.length = new
      rw [h.tasks, List.drop_left]
    have hnew : new.filter (·.isStarted) = new :=
      List.filter_eq_self.2 fun t ht => decide_eq_true (h.captures t ht).1
    rw [hspawned]
    show _ = [] ++ (p.handle e).2.1.tasks.filter _
    rw [h.tasks, List.filter_append, hnew, List.nil_append]
  | setValue target text => exact List.append_nil _
  | turn i =>
    have hmoved := p.moved_turn i
    show _ ++ [] = ((p.turn? i).filter _).toList ++ (p.takeTurn i).tasks.filter _
    rw [List.append_nil]
    generalize p.takeTurn i = q at hmoved ⊢
    cases hmoved with
    | told hm h => exact absurd rfl (hm i)
    | idle ht =>
      rw [ht]
      rfl
    | vanished ht hs => exact filter_started_cons_append ht
    | @turned _ before after t s kept c q ht hs h =>
      have hkept : kept.toList.filter (·.isStarted) = [] := by
        refine List.filter_eq_nil_iff.2 fun u hu hst => ?_
        exact Bool.noConfusion (hst.symm.trans (h.isStarted_of_kept (Option.mem_toList.1 hu)))
      rw [filter_started_cons_append ht]
      simp only [List.filter_append, hkept, List.append_nil]

/-- **Tasks begin in the order in which they were started.** Those that began in some moves, and
behind them those that have not begun after them, are those that had not begun before and those that
were started, in this order. -/
theorem spawned_append_eq (p : Page) {moves : List Move}
    (hm : ∀ m ∈ moves, ∀ options, m ≠ .event (.attach options)) :
    p.tasks.filter (·.isStarted) ++ (p.moments moves).flatMap (·.spawned) =
      (p.moments moves).filterMap (·.begun?) ++ (p.play moves).tasks.filter (·.isStarted) := by
  induction moves generalizing p with
  | nil => exact List.append_nil _
  | cons m moves ih =>
    have hfirst := p.spawned_append_eq_move m (hm m (.head _))
    have hrest := ih (p.move m) fun m hmem => hm m (.tail _ hmem)
    have hbegun : (p.moments (m :: moves)).filterMap (·.begun?) =
        (Moment.mk p m).begun?.toList ++ ((p.move m).moments moves).filterMap (·.begun?) := by
      rw [moments, List.filterMap_cons]
      cases (Moment.mk p m).begun? <;> rfl
    rw [hbegun, moments, List.flatMap_cons, ← List.append_assoc, hfirst, List.append_assoc, hrest,
      List.append_assoc, play_cons]

/-- The queries that are started have the texts that the inputs of their panels have then. -/
theorem captures_of_spawned {m : Moment} (hm : ∀ options, m.move ≠ .event (.attach options))
    (ht : t ∈ m.spawned) : m.after.Captures t := by
  obtain ⟨p, m⟩ := m
  cases m with
  | event e =>
    obtain ⟨new, h⟩ := p.told_handle e fun options he => hm options (congrArg Move.event he)
    refine h.captures t ?_
    have hdrop : t ∈ (p.handle e).2.1.tasks.drop p.tasks.length := ht
    rwa [h.tasks, List.drop_left] at hdrop
  | setValue target text => cases ht
  | turn i => cases ht

end SearchPanel.Page
