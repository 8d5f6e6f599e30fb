import JsonDesk.Proofs.StatusArea

set_option autoImplicit false

namespace JsonDesk

open EditorM

theorem DifferenceNote.ofJson_toMembers (n : DifferenceNote) :
    ofJson (.obj n.toMembers) = .ok n := by
  obtain ⟨type, path, left, right⟩ := n
  have hread : ofJson (.obj (toMembers ⟨type, path, left, right⟩)) =
      .ok ⟨(Json.str type).orEmpty, (Json.str path).orEmpty, left, right⟩ := by
    cases left <;> cases right <;> rfl
  rw [hread, Json.orEmpty_str, Json.orEmpty_str]

theorem mapM_ofJson (ns : List DifferenceNote) :
    (ns.map fun n => Json.obj n.toMembers).mapM DifferenceNote.ofJson = Except.ok ns := by
  induction ns with
  | nil => rfl
  | cons n ns ih =>
    rw [List.map_cons, List.mapM_cons, DifferenceNote.ofJson_toMembers, ih]
    rfl

/-- What is noted of the differences of two texts: nothing if one of them is blank. -/
def notesOf (l r : Text) : List DifferenceNote :=
  if l.isBlank || r.isBlank then [] else (compare l r).map (DifferenceNote.ofDifference [])

def DifferenceNote.shown (n : DifferenceNote) : Row := ⟨n.row ++ "\n", n.type⟩

/-- Two texts have a summary if both are valid and neither is blank. -/
def summarized (l r : Text) : Bool :=
  (Report.ofText l).valid && (Report.ofText r).valid && !(l.isBlank || r.isBlank)

def summaryOf (l r : Text) : Text :=
  if summarized l r then DifferenceNote.summary (notesOf l r).length else []

theorem notesOf_eq (l r : Text) : notesOf l r =
    if summarized l r then (compare l r).map (DifferenceNote.ofDifference []) else [] := by
  unfold notesOf summarized compare Report.ofText
  cases l.isBlank || r.isBlank with
  | true => simp
  | false => cases validate l <;> cases validate r <;> simp [Report.ofVerdict]

theorem summaryOf_eq (l r : Text) : summaryOf l r =
    if summarized l r then DifferenceNote.summary (compare l r).length else [] := by
  unfold summaryOf
  rw [notesOf_eq]
  split
  · rw [List.length_map]
  · rfl

namespace Part

/-- What the engine gives for a part of the comparison of two texts. -/
def due (l r : Text) : Part → Json
  | verdict .left => .obj (Report.ofText l).toMembers
  | verdict .right => .obj (Report.ofText r).toMembers
  | differences => .arr ((notesOf l r).map fun n => .obj n.toMembers)

/-- The differences of two texts are asked for unless one of them is blank. -/
def isAsked (l r : Text) : Part → Bool
  | verdict _ => true
  | differences => !(l.isBlank || r.isBlank)

def operation : Part → Operation
  | verdict _ => .validate
  | differences => .compare

def payload (l r : Text) : Part → Json
  | verdict .left => .str l
  | verdict .right => .str r
  | differences => .obj [("left", .str l), ("right", .str r)]

def asked (l r : Text) : List Part :=
  verdict .left :: verdict .right :: if l.isBlank || r.isBlank then [] else [differences]

variable {l r : Text} {p : Part}

theorem mem_asked : p ∈ asked l r ↔ p.isAsked l r = true := by
  unfold asked isAsked
  cases l.isBlank || r.isBlank <;> match p with
  | .verdict .left => simp
  | .verdict .right => simp
  | .differences => simp

theorem serve_payload (h : p.isAsked l r = true) :
    p.operation.serve (p.payload l r) = .ok (p.due l r) := by
  match p with
  | .verdict .left => rfl
  | .verdict .right => rfl
  | .differences =>
    have hblank : (l.isBlank || r.isBlank) = false := by simpa [isAsked] using h
    have hserve : Operation.compare.serve (payload l r .differences) =
        .ok (.arr ((compare l r).map fun d => .obj (DifferenceNote.ofDifference [] d).toMembers)) :=
      rfl
    rw [operation, hserve, due, notesOf, hblank]
    simp

end Part

namespace Gathered

def get? (g : Gathered) : Part → Option Json
  | .verdict .left => g.left
  | .verdict .right => g.right
  | .differences => g.differences

theorem get?_put (g : Gathered) (p q : Part) (v : Json) :
    (g.put p v).get? q = if q = p then some v else g.get? q := by
  match p, q with
  | .verdict .left, .verdict .left => rfl
  | .verdict .left, .verdict .right => rfl
  | .verdict .left, .differences => rfl
  | .verdict .right, .verdict .left => rfl
  | .verdict .right, .verdict .right => rfl
  | .verdict .right, .differences => rfl
  | .differences, .verdict .left => rfl
  | .differences, .verdict .right => rfl
  | .differences, .differences => rfl

/-- What is there is due to the comparison of two texts. -/
structure Fits (g : Gathered) (l r : Text) : Prop where
  blank : g.blank = (l.isBlank || r.isBlank)
  due : ∀ p v, g.get? p = some v → v = p.due l r

/-- Whether no part is missing. -/
def isComplete (g : Gathered) : Bool := g.left.isSome && g.right.isSome && g.differences.isSome

theorem isComplete_iff {g : Gathered} : g.isComplete = true ↔ ∀ p, g.get? p ≠ none := by
  simp only [isComplete, Bool.and_eq_true, Option.isSome_iff_ne_none]
  constructor
  · rintro ⟨⟨hleft, hright⟩, hdifferences⟩ p
    match p with
    | .verdict .left => exact hleft
    | .verdict .right => exact hright
    | .differences => exact hdifferences
  · exact fun h => ⟨⟨h (.verdict .left), h (.verdict .right)⟩, h .differences⟩

theorem get?_start (l r : Text) (p : Part) :
    (start (l.isBlank || r.isBlank)).get? p ≠ none ↔ p.isAsked l r = false := by
  unfold Part.isAsked
  cases l.isBlank || r.isBlank <;> match p with
  | .verdict .left => simp [start, get?]
  | .verdict .right => simp [start, get?]
  | .differences => simp [start, get?]

theorem fits_start (l r : Text) : (start (l.isBlank || r.isBlank)).Fits l r := by
  refine ⟨rfl, fun p v hv => ?_⟩
  match p with
  | .verdict .left => cases hv
  | .verdict .right => cases hv
  | .differences =>
    unfold Part.due notesOf
    cases hblank : l.isBlank || r.isBlank with
    | true =>
      rw [hblank] at hv
      cases hv
      rfl
    | false =>
      rw [hblank] at hv
      cases hv

theorem Fits.put {g : Gathered} {l r : Text} (h : g.Fits l r) (p : Part) :
    (g.put p (p.due l r)).Fits l r := by
  refine ⟨?_, fun q v hv => ?_⟩
  · rw [← h.blank]
    match p with
    | .verdict .left => rfl
    | .verdict .right => rfl
    | .differences => rfl
  · rw [get?_put] at hv
    split at hv
    · next heq =>
      cases hv
      rw [heq]
    · exact h.due q v hv

end Gathered

namespace Outcome

/-- Once no part is missing, what is shown is that of the comparison. -/
def settle (o : Outcome) (l r : Text) : Outcome :=
  if o.gathered.isComplete then
    { o with summary := summaryOf l r, rows := (notesOf l r).map DifferenceNote.shown }
  else o

def collect (o : Outcome) (l r : Text) (p : Part) : Outcome :=
  { o with gathered := o.gathered.put p (p.due l r) : Outcome }.settle l r

/-- What there is belongs to the comparison of two texts, and is shown once it is complete. -/
structure Of (o : Outcome) (l r : Text) : Prop where
  fits : o.gathered.Fits l r
  settled : o.gathered.isComplete = true →
    o.summary = summaryOf l r ∧ o.rows = (notesOf l r).map DifferenceNote.shown

def shown (o : Outcome) : Text × List Row := (o.summary, o.rows)

/-- The comparison of two texts is shown: a row for each difference, in order, and their number if
both texts are valid and neither is blank; nothing otherwise. -/
structure Presents (o : Outcome) (l r : Text) : Prop where
  summary : o.summary =
    if summarized l r then DifferenceNote.summary (compare l r).length else []
  rows : o.rows = if summarized l r then
      (compare l r).map fun d => (DifferenceNote.ofDifference [] d).shown
    else []

variable {o : Outcome} {l r : Text}

theorem Presents.of_shown (h : o.Presents l r) {o' : Outcome} (hs : o'.shown = o.shown) :
    o'.Presents l r :=
  ⟨(congrArg Prod.fst hs).trans h.summary, (congrArg Prod.snd hs).trans h.rows⟩

theorem Of.presents (h : o.Of l r) (hcomplete : o.gathered.isComplete = true) :
    o.Presents l r := by
  obtain ⟨hsummary, hrows⟩ := h.settled hcomplete
  refine ⟨hsummary.trans (summaryOf_eq l r), hrows.trans ?_⟩
  rw [notesOf_eq]
  split
  · rw [List.map_map]
    rfl
  · rfl

theorem run_settle : (o.settle l r).run = o.run := by
  unfold settle
  split <;> rfl

theorem gathered_settle : (o.settle l r).gathered = o.gathered := by
  unfold settle
  split <;> rfl

theorem of_settle (h : o.gathered.Fits l r) : (o.settle l r).Of l r := by
  refine ⟨by rwa [gathered_settle], fun hcomplete => ?_⟩
  rw [gathered_settle] at hcomplete
  rw [settle, if_pos hcomplete]
  exact ⟨rfl, rfl⟩

theorem run_collect (p : Part) : (o.collect l r p).run = o.run := run_settle

theorem get?_collect (p q : Part) : (o.collect l r p).gathered.get? q =
    if q = p then some (p.due l r) else o.gathered.get? q := by
  rw [collect, gathered_settle, Gathered.get?_put]

theorem shown_collect {p : Part} (h : (o.collect l r p).gathered.isComplete = false) :
    (o.collect l r p).shown = o.shown := by
  rw [collect, gathered_settle] at h
  rw [collect, settle, h]
  rfl

end Outcome

namespace Editor

theorem windows_modifyWindow {e : Editor} {w : Nat} {x : CompareWindow} (h : e.windows[w]? = some x)
    (f : CompareWindow → CompareWindow) : (e.modifyWindow w f).windows[w]? = some (f x) := by
  simp [modifyWindow, h]

/-- What a compare window shows, and what it has of its newest comparison; nothing at first. -/
def outcome (e : Editor) (w : Nat) : Outcome :=
  (e.windows[w]?.map (·.outcome)).getD ⟨0, .start false, [], []⟩

theorem outcome_of_window {e : Editor} {w : Nat} {x : CompareWindow}
    (h : e.windows[w]? = some x) : e.outcome w = x.outcome := by
  simp [outcome, h]

def sees (e : Editor) (w : Nat) : Bool :=
  e.isOpen && !e.refused.elem .checkWindow && e.windows[w]?.any (·.alive)

theorem exists_of_sees {e : Editor} {w : Nat} (h : e.sees w = true) :
    ∃ x, e.windows[w]? = some x ∧ e.outcome w = x.outcome := by
  simp only [sees, Bool.and_eq_true, Option.any_eq_true] at h
  obtain ⟨-, x, hx, -⟩ := h
  exact ⟨x, hx, outcome_of_window hx⟩

end Editor

namespace EditorM

open Editor

theorem run_isAlive (e : Editor) (w : Nat) :
    (isAlive w).run.run e = (.ok (e.sees w), e) := by
  unfold isAlive sees
  simp only [ExceptT.run_tryCatch, ExceptT.run_bind, StateT.run_bind, run_attempt]
  cases e.isOpen with
  | false => rfl
  | true =>
    cases e.refused.elem .checkWindow with
    | true => rfl
    | false =>
      refine Prod.ext (congrArg Except.ok ?_) rfl
      cases e.windows[w]? <;> rfl

theorem bothValid_due (l r : Text) :
    bothValid ((Part.verdict .left).due l r) ((Part.verdict .right).due l r) =
      .ok ((Report.ofText l).valid && (Report.ofText r).valid) := by
  have hleft : Report.ofJson ((Part.verdict .left).due l r).orRecord = .ok (Report.ofText l) :=
    Report.ofJson_ofText l
  have hright : Report.ofJson ((Part.verdict .right).due l r).orRecord = .ok (Report.ofText r) :=
    Report.ofJson_ofText r
  unfold bothValid
  rw [hleft, hright]
  cases hl : (Report.ofText l).valid <;> simp [bind, Except.bind, hl, pure, Except.pure]

theorem attains_showDifferences {e : Editor} {w : Nat} {x : CompareWindow}
    (hx : e.windows[w]? = some x) (l r : Text) (summarize : Bool) :
    Attains (fun s => s.windows[w]? = some { x with
        summary := if summarize then DifferenceNote.summary (notesOf l r).length else [],
        rows := (notesOf l r).map DifferenceNote.shown })
      (showDifferences w (Part.differences.due l r) summarize) e := by
  have hshow : Attains (fun s => s.windows[w]? = some { x with
        summary := if summarize then DifferenceNote.summary (notesOf l r).length else [],
        rows := (notesOf l r).map DifferenceNote.shown }) (do
      let notes ← MonadExcept.ofExcept
        (((notesOf l r).map fun n => Json.obj n.toMembers).mapM DifferenceNote.ofJson)
      modify fun e => e.modifyWindow w fun window => { window with
        summary := if summarize then DifferenceNote.summary notes.length else [],
        rows := notes.map fun n => ⟨n.row ++ "\n", n.type⟩ }
      notice (.listed w (notes.map fun n => ⟨n.row ++ "\n", n.type⟩))) e :=
    .ofExcept (mapM_ofJson _) (.modify ⟨⟨⟩, rfl, windows_modifyWindow hx _⟩)
  unfold showDifferences
  dsimp only
  by_cases hany : (Part.differences.due l r).truthy = true
  · rw [if_pos hany]
    exact .ofExcept (a := (notesOf l r).map fun n => Json.obj n.toMembers) rfl hshow
  · rw [if_neg hany]
    have hnotes : notesOf l r = [] := by simpa [Part.due, Json.truthy] using hany
    have hnone : (notesOf l r).map (fun n => Json.obj n.toMembers) = [] := by rw [hnotes]; rfl
    rw [hnone] at hshow
    exact .known rfl hshow

/-- What is done with a window when a part has been added: nothing if another one is missing. -/
def settleWindow (w : Nat) : EditorM Unit := withWindow w fun window => do
  match window.gathered with
  | ⟨blank, some left, some right, some differences⟩ =>
    let valid ← MonadExcept.ofExcept (bothValid left right)
    showDifferences w differences (valid && !blank)
  | _ => return

theorem attains_settleWindow {e : Editor} {w : Nat} {x : CompareWindow}
    (hx : e.windows[w]? = some x) {l r : Text} (hfits : x.gathered.Fits l r) :
    Attains (fun s => s.outcome w = x.outcome.settle l r) (settleWindow w) e := by
  unfold settleWindow withWindow
  refine .get ?_
  rw [hx]
  dsimp only
  split
  · next blank left right differences hg =>
    have hleft : left = _ := hfits.due (.verdict .left) left (by rw [hg]; rfl)
    have hright : right = _ := hfits.due (.verdict .right) right (by rw [hg]; rfl)
    have hdifferences : differences = _ := hfits.due .differences differences (by rw [hg]; rfl)
    have hblank : blank = (l.isBlank || r.isBlank) := by rw [← hfits.blank, hg]
    have hcomplete : x.outcome.gathered.isComplete = true := by
      show x.gathered.isComplete = true
      rw [hg]
      rfl
    subst hleft hright hdifferences hblank
    refine .ofExcept (bothValid_due l r) ((attains_showDifferences hx l r _).imp fun s hs => ?_)
    rw [outcome_of_window hs, Outcome.settle, if_pos hcomplete]
    rfl
  · next hg =>
    have hmissing : x.outcome.gathered.isComplete ≠ true := by
      show x.gathered.isComplete ≠ true
      intro hcomplete
      simp only [Gathered.isComplete, Bool.and_eq_true, Option.isSome_iff_exists] at hcomplete
      obtain ⟨⟨⟨left, hleft⟩, right, hright⟩, differences, hdifferences⟩ := hcomplete
      exact hg x.gathered.blank left right differences (by rw [← hleft, ← hright, ← hdifferences])
    refine .pure _ ?_
    rw [outcome_of_window hx, Outcome.settle, if_neg hmissing]

theorem attains_applyPart {e : Editor} {w : Nat} (hsees : e.sees w = true) {l r : Text}
    (hfits : (e.outcome w).gathered.Fits l r) (p : Part) :
    Attains (fun s => s.outcome w = (e.outcome w).collect l r p)
      (applyPart w (e.outcome w).run p (p.due l r)) e := by
  obtain ⟨x, hx, houtcome⟩ := exists_of_sees hsees
  rw [houtcome] at hfits ⊢
  have hput := windows_modifyWindow hx
    fun window => { window with gathered := window.gathered.put p (p.due l r) }
  unfold applyPart
  refine .get ?_
  rw [hx]
  dsimp only
  rw [if_pos (by rfl)]
  refine .known (run_isAlive e w) ?_
  rw [if_pos hsees]
  refine .modify ?_
  match p with
  | .verdict .left =>
    refine .ofExcept (Report.ofJson_ofText l) (.modify ?_)
    exact attains_settleWindow (windows_modifyWindow hput _) (hfits.put (.verdict .left))
  | .verdict .right =>
    refine .ofExcept (Report.ofJson_ofText r) (.modify ?_)
    exact attains_settleWindow (windows_modifyWindow hput _) (hfits.put (.verdict .right))
  | .differences => exact attains_settleWindow hput (hfits.put .differences)

theorem run_applyPart_of_ne {e : Editor} {w run : Nat}
    (h : run ≠ (e.outcome w).run ∨ e.sees w = false) (p : Part) (payload : Json) :
    (applyPart w run p payload).run.run e = (.ok (), e) := by
  have happly : (applyPart w run p payload).run.run e =
      (if e.windows[w]?.map (·.run) = some run then _ else pure () : EditorM Unit).run.run e := rfl
  rw [happly]
  split
  · next hnewest =>
    obtain ⟨x, hx, hrun⟩ := Option.map_eq_some_iff.mp hnewest
    have hunseen : e.sees w = false :=
      h.resolve_left fun hne => hne (by rw [outcome_of_window hx, ← hrun]; rfl)
    refine (run_bind (run_isAlive e w)).trans ?_
    rw [hunseen]
    rfl
  · rfl

end EditorM

end JsonDesk
