import JsonDesk.Proofs.ComparisonRuns
import JsonDesk.Proofs.Overwriting

/-!
Compare windows that were closed.  No comparison begins in one any more, and a result for a part of
an old one is dropped.  A text that comes back in another form is not: the side it was for is looked
up, and since it is gone that fails.
-/

set_option autoImplicit false

namespace JsonDesk

open EditorM

namespace Editor

/-! ### What happens to windows and timers -/

/-- A timer that is no comparison and belongs to no window, or else that of a window that is not
known to be gone. -/
inductive Rightful (e : Editor) (t : Timer Job) : Prop
  | plain : t.owner = none → (∀ w, t.job ≠ .comparison w) → Rightful e t
  | comparison (w : Nat) : t.owner = some w → t.job = .comparison w →
    (w < e.windows.length → e.hasWindow w = true) → Rightful e t

/-- Windows that are gone do not come back, only a window that was made is in use, and no timer is
started for a window that is gone. -/
structure Proceeds (e e' : Editor) : Prop where
  made : e.windows.length ≤ e'.windows.length
  gone : ∀ w < e.windows.length, e.hasWindow w = false → e'.hasWindow w = false
  comparing : ∀ w, e'.comparing = some w → e.comparing = some w ∨ w < e'.windows.length
  timers : ∀ t ∈ e'.timers, t ∈ e.timers ∨ Rightful e t

instance : IsPreorder Editor Proceeds where
  refl _ := ⟨Nat.le_refl _, fun _ _ h => h, fun _ h => .inl h, fun _ h => .inl h⟩
  trans e e' e'' h h' := by
    refine ⟨Nat.le_trans h.made h'.made, fun w hw hgone => ?_, fun w hw => ?_, fun t ht => ?_⟩
    · exact h'.gone w (Nat.lt_of_lt_of_le hw h.made) (h.gone w hw hgone)
    · exact (h'.comparing w hw).elim (fun hw => (h.comparing w hw).imp_right
        fun hlt => Nat.lt_of_lt_of_le hlt h'.made) .inr
    · cases h'.timers t ht with
      | inl ht => exact h.timers t ht
      | inr ht =>
        cases ht with
        | plain howner hjob => exact .inr (.plain howner hjob)
        | comparison w howner hjob hthere =>
          refine .inr (.comparison w howner hjob fun hw => ?_)
          by_contra hgone
          rw [Bool.not_eq_true] at hgone
          have hlate := hthere (Nat.lt_of_lt_of_le hw h.made)
          rw [h.gone w hw hgone] at hlate
          cases hlate

variable {e e' : Editor}

theorem Proceeds.of_eq (hwindows : e'.windows = e.windows) (hcomparing : e'.comparing = e.comparing)
    (htimers : ∀ t ∈ e'.timers, t ∈ e.timers ∨ Rightful e t) : Proceeds e e' where
  made := Nat.le_of_eq (congrArg List.length hwindows.symm)
  gone w _ hgone := by rwa [hasWindow, hwindows]
  comparing w hw := .inl (hcomparing ▸ hw)
  timers := htimers

theorem Proceeds.of_calm (h : Calm e e') : Proceeds e e' where
  made := Nat.le_of_eq h.windows.length_eq
  gone w _ hgone := (h.windows.alive w).trans hgone
  comparing w hw := .inl (h.comparing ▸ hw)
  timers t ht := by
    have htimers : e'.timers = e.timers := congrArg Core.timers h.core
    exact .inl (htimers ▸ ht)

theorem proceeds_modifyWindow (e : Editor) (w : Nat) {f : CompareWindow → CompareWindow}
    (hf : ∀ x, (f x).alive = true → x.alive = true) : Proceeds e (e.modifyWindow w f) where
  made := Nat.le_of_eq (List.length_modify _ _ _).symm
  gone v _ hgone := by
    simp only [hasWindow, modifyWindow, List.getElem?_modify] at hgone ⊢
    cases hx : e.windows[v]? with
    | none => rfl
    | some x =>
      rw [hx] at hgone
      by_cases hw : w = v
      · have hdead : x.alive = false := hgone
        simpa [hw, hdead] using hf x
      · simpa [hw] using hgone
  comparing _ hw := .inl hw
  timers _ ht := .inl ht

end Editor

open Editor

namespace EditorM

theorem proceeds_startTimer (owner : Option Nat) (delay : Int) (job : Job) {e : Editor}
    (h : ∀ id due, Rightful e ⟨id, due, owner, job⟩) :
    Proceeds e (after (startTimer owner delay job) e) := by
  obtain hsame | hstarted := after_startTimer owner delay job e
  · rw [hsame]
    exact refl_of Proceeds e
  · rw [hstarted]
    refine .of_eq rfl rfl fun t ht => ?_
    rcases List.mem_append.mp ht with ht | ht
    · exact .inl ht
    · rw [List.mem_singleton.mp ht]
      exact .inr (h _ _)

theorem proceeds_postpone (r : Reply) (payload : Json) : Leads Proceeds (postpone r payload) := by
  intro e
  rw [after_postpone]
  exact proceeds_startTimer none 0 (.reply r payload) fun _ _ => .plain rfl nofun

theorem overlooks_proceeds : Overlooks Proceeds := overlooks_calm.mono fun _ _ => .of_calm

theorem shows_proceeds : Shows Proceeds :=
  shows_of_overlooks overlooks_proceeds fun _ _ => .setLabel fun _ =>
    .of_eq rfl rfl fun _ ht => .inl ht

theorem admits_proceeds : Admits Proceeds fun _ => True where
  calm := .of_calm
  startTimer delay _ _ _ hs := by
    refine proceeds_startTimer _ delay _ fun id due => ?_
    cases hs with
    | feedback => exact .plain rfl nofun
    | comparison hw => exact .comparison _ rfl rfl fun _ => hw
  dropTimers _ _ := .of_eq rfl rfl fun _ ht => .inl (List.mem_filter.mp ht).1
  dropRequests _ _ _ := .of_eq rfl rfl fun _ ht => .inl ht
  ask op payload r _ _ _ hh :=
    leads_ask (fun _ _ _ _ _ => .of_eq rfl rfl fun _ ht => .inl ht) proceeds_postpone
      op payload r hh
  warn := shows_proceeds.warnIfInvalid
  openWindow e theme := by
    refine ⟨by simp, fun w hw hgone => ?_, fun w hw => .inl hw, fun t ht => .inl ht⟩
    rwa [hasWindow, List.getElem?_append_left hw]
  useWindow e w hw := by
    refine ⟨Nat.le_refl _, fun _ _ h => h, fun v hv => .inr ?_, fun t ht => .inl ht⟩
    cases hv
    simp only [hasWindow, Option.any_eq_true] at hw
    obtain ⟨x, hx, -⟩ := hw
    exact (List.getElem?_eq_some_iff.mp hx).1
  leaveWindow e := by
    refine ⟨Nat.le_refl _, fun _ _ h => h, fun w hw => ?_, fun t ht => .inl ht⟩
    cases hw
  loseAny e w := proceeds_modifyWindow e w fun _ hx => by cases hx
  close e := by
    refine ⟨by simp, fun w _ _ => ?_, fun w hw => .inl hw, fun _ ht => by cases ht⟩
    simp only [hasWindow, List.getElem?_map]
    cases e.windows[w]? <;> rfl

theorem proceeds_applyPart (w run : Nat) (part : Part) (payload : Json) :
    Leads Proceeds (applyPart w run part payload) :=
  leads_applyPart w (fun e _ hf => proceeds_modifyWindow e w fun x hx => (hf x).alive ▸ hx)
    overlooks_proceeds.notice run part payload

theorem proceeds_feedback : Leads Proceeds feedback :=
  admits_proceeds.feedback shows_proceeds (fun _ _ => .of_eq rfl rfl fun _ ht => .inl ht)
    (fun _ _ _ => trivial) fun _ => trivial

theorem proceeds_comparison (w : Nat) : Leads Proceeds (comparison w) :=
  admits_proceeds.comparison w (proceeds_applyPart w)
    (fun e _ _ => proceeds_modifyWindow e w fun _ hx => hx) fun _ _ => trivial

theorem proceeds_handle (r : Reply) (payload : Json) : Leads Proceeds (r.handle payload) :=
  admits_proceeds.handle shows_proceeds trivial proceeds_applyPart r payload

end EditorM

namespace Editor

variable {e e' : Editor} {event : Event}

theorem keeps_proceeding {I : Editor → Prop} (hI : ∀ {s s' : Editor}, Proceeds s s' → I s → I s')
    (hnext : e.next? event = some e') (he : I e) : I e' := by
  have harrived {s s' : Editor} (h : Arrives Proceeds s s') : Proceeds s s' :=
    admits_proceeds.arrived proceeds_feedback proceeds_comparison h
  refine keeps_next (fun stop s s' hturn hs => ?_) (fun s now hs => ?_) hnext (fun hwait => ?_) he
  · exact hI (harrived (admits_proceeds.turn admits_proceeds.tabs hturn
      fun r payload s _ _ => proceeds_handle r payload s)) hs
  · have hclock : Proceeds s { s with now := now } := .of_eq rfl rfl fun _ ht => .inl ht
    exact hI hclock hs
  · exact hI (harrived (admits_proceeds.onward trivial hwait hnext (fun _ _ _ _ => trivial)
      fun r payload s _ _ => proceeds_handle r payload s)) he

/-! ### Windows that are closed -/

/-- Only windows that were made are in use, and a comparison is begun by a timer of its window. -/
structure Orderly (e : Editor) : Prop where
  comparing : ∀ w, e.comparing = some w → w < e.windows.length
  timers : ∀ t ∈ e.timers, ∀ w, t.job = .comparison w → t.owner = some w

theorem Orderly.of_proceeds (h : Orderly e) (hp : Proceeds e e') : Orderly e' := by
  refine ⟨fun w hw => ?_, fun t ht w hjob => ?_⟩
  · exact (hp.comparing w hw).elim (fun hw => Nat.lt_of_lt_of_le (h.comparing w hw) hp.made) id
  · cases hp.timers t ht with
    | inl ht => exact h.timers t ht w hjob
    | inr ht =>
      cases ht with
      | plain _ hnone => exact absurd hjob (hnone w)
      | comparison v howner hv =>
        cases hjob.symm.trans hv
        exact howner

/-- The window was made and is there no more, and it has no timer. -/
structure Gone (w : Nat) (e : Editor) : Prop where
  made : w < e.windows.length
  gone : e.hasWindow w = false
  idle : ∀ t ∈ e.timers, t.owner ≠ some w ∧ t.job ≠ .comparison w

theorem Gone.of_proceeds {w : Nat} (h : Gone w e) (hp : Proceeds e e') : Gone w e' := by
  refine ⟨Nat.lt_of_lt_of_le h.made hp.made, hp.gone w h.made h.gone, fun t ht => ?_⟩
  cases hp.timers t ht with
  | inl ht => exact h.idle t ht
  | inr ht =>
    cases ht with
    | plain howner hjob => exact ⟨by simp [howner], hjob w⟩
    | comparison v howner hjob hthere =>
      have hv : v ≠ w := by
        rintro rfl
        rw [h.gone] at hthere
        cases hthere h.made
      rw [howner, hjob]
      exact ⟨fun hw => hv (Option.some.inj hw), fun hw => hv (Job.comparison.inj hw)⟩

inductive Closes (e : Editor) (w : Nat) : Event → Prop
  | button : e.comparing = some w → Closes e w (.act (.press .close))
  | frame : e.comparing = some w → Closes e w (.act (.close .compare))

def stopsTimer (e : Editor) (w : Nat) : Bool :=
  (e.windows[w]?.bind (·.timer)).isNone || !e.refused.elem .stopTimer

/-- The screen refuses nothing that closing a window takes. -/
def yields (e : Editor) (w : Nat) : Bool := e.stopsTimer w && !e.refused.elem .destroy

end Editor

namespace EditorM

theorem run_attempt_bind {α : Type} {e : Editor} (hopen : e.isOpen = true) (c : Command)
    (f : Unit → EditorM α) : (attempt c >>= f).run.run e =
      if e.refused.elem c then (.error (.screen (.refused c)), e) else (f ⟨⟩).run.run e := by
  have hrun := run_attempt c e
  rw [hopen, Bool.not_true, if_neg Bool.false_ne_true] at hrun
  split
  · next hrefused =>
    rw [if_pos hrefused] at hrun
    exact run_bind_error hrun
  · next hyields =>
    rw [if_neg hyields] at hrun
    exact run_bind hrun

theorem after_destroyWindow {e : Editor} (hopen : e.isOpen = true) (w : Nat) :
    after (destroyWindow w) e = if e.refused.elem .destroy then e else
      { e.modifyWindow w fun x => { x with alive := false } with
        timers := e.timers.filter fun t => t.owner != some w } := by
  rw [after, destroyWindow, run_attempt_bind hopen]
  split
  · rfl
  · rfl

theorem after_leave (e : Editor) (w : Nat) :
    after (do
      modify fun e => { e with comparing := none }
      tryCatch (destroyWindow w) fun _ => return () : EditorM Unit) e =
      after (destroyWindow w) { e with comparing := none } := by
  rw [after_modify_bind, after_tryCatch]
  split <;> rfl

theorem run_cancel_comparison {e : Editor} (hopen : e.isOpen = true) (w : Nat) :
    ∃ timers, (∀ t ∈ timers, t ∈ e.timers) ∧
      (Debounce.cancel (comparisonHost w)).run.run e = if e.stopsTimer w then
        (.ok ⟨⟩, { e.modifyWindow w fun x => { x with timer := none } with timers := timers })
      else (.error (.screen (.refused .stopTimer)),
        e.modifyWindow w fun x => { x with timer := none }) := by
  have hpending : (comparisonHost w).pending.run.run e = (.ok (e.windows[w]?.bind (·.timer)), e) :=
    rfl
  have hset : ((comparisonHost w).setPending none).run.run e =
      (.ok ⟨⟩, e.modifyWindow w fun x => { x with timer := none }) := rfl
  rw [Debounce.cancel, run_bind hpending, run_bind hset, stopsTimer]
  cases e.windows[w]?.bind (·.timer) with
  | none => exact ⟨e.timers, fun _ ht => ht, rfl⟩
  | some id =>
    refine ⟨e.timers.filter fun t => t.id != id, fun t ht => (List.mem_filter.mp ht).1, ?_⟩
    have hopen' : (e.modifyWindow w fun x => { x with timer := none }).isOpen = true := hopen
    have hstop := run_attempt_bind hopen' .stopTimer fun _ =>
      modify fun s => { s with timers := s.timers.filter fun t => t.id != id }
    refine Eq.trans hstop ?_
    have hsame : (e.modifyWindow w fun x => { x with timer := none }).refused = e.refused := rfl
    rw [hsame]
    cases e.refused.elem .stopTimer with
    | true => rfl
    | false => rfl

theorem after_closeWindow {e : Editor} (hopen : e.isOpen = true) (w : Nat) :
    ∃ s : Editor, s.isOpen = true ∧ s.refused = e.refused ∧ s.hasWindow w = e.hasWindow w ∧
      (∀ t ∈ s.timers, t ∈ e.timers) ∧
      after (closeWindow w) e = if e.stopsTimer w then after (destroyWindow w) s else s := by
  obtain ⟨timers, htimers, hcancel⟩ := run_cancel_comparison hopen w
  have hthere := hasWindow_modifyWindow e w (f := fun x => { x with timer := none })
    (fun _ => rfl) w
  cases hstops : e.stopsTimer w with
  | true =>
    rw [hstops, if_pos rfl] at hcancel
    refine ⟨{ e.modifyWindow w fun x => { x with timer := none } with
      comparing := none, timers := timers }, hopen, rfl, hthere, htimers, ?_⟩
    rw [if_pos rfl, after, closeWindow, run_bind hcancel]
    exact after_leave _ w
  | false =>
    rw [hstops, if_neg Bool.false_ne_true] at hcancel
    refine ⟨e.modifyWindow w fun x => { x with timer := none }, hopen, rfl, hthere,
      fun _ ht => ht, ?_⟩
    rw [if_neg Bool.false_ne_true, closeWindow, after_bind, hcancel]
    exact congrArg Prod.snd hcancel

theorem hasWindow_closeWindow {e : Editor} (hopen : e.isOpen = true) (w : Nat) :
    (after (closeWindow w) e).hasWindow w = (e.hasWindow w && !e.yields w) := by
  obtain ⟨s, hopen', hrefused, hthere, -, hafter⟩ := after_closeWindow hopen w
  rw [hafter, after_destroyWindow hopen', hrefused, ← hthere, yields]
  cases e.stopsTimer w with
  | false => exact (Bool.and_true _).symm
  | true =>
    cases e.refused.elem .destroy with
    | true => exact (Bool.and_true _).symm
    | false => exact (hasWindow_lose s w).trans (Bool.and_false _).symm

theorem timers_closeWindow {e : Editor} (hopen : e.isOpen = true) {w : Nat}
    (hyields : e.yields w = true) :
    ∀ t ∈ (after (closeWindow w) e).timers, t ∈ e.timers ∧ t.owner ≠ some w := by
  obtain ⟨s, hopen', hrefused, -, htimers, hafter⟩ := after_closeWindow hopen w
  rw [yields, Bool.and_eq_true, Bool.not_eq_true'] at hyields
  rw [hafter, hyields.1, if_pos rfl, after_destroyWindow hopen', hrefused, hyields.2,
    if_neg Bool.false_ne_true]
  intro t ht
  obtain ⟨ht, howner⟩ := List.mem_filter.mp ht
  exact ⟨htimers t ht, bne_iff_ne.mp howner⟩

/-- What is noticed when a text comes back for a side of a window that is gone.  The side is looked
up unless the text came back as it was sent away. -/
def lateNotices (w : Nat) (side : Side) (content : Text) : Json → List Notice
  | .str reshaped =>
    if reshaped ≠ content then [.failed (.screen (.gone (BoxName.side w side).path))] else []
  | _ => []

theorem call_applySide_of_gone {e : Editor} {w : Nat} {side : Side}
    (hbox : e.box? (.side w side) = none) (content : Text) (payload : Json) :
    (call (applySide w side content payload) e).2 =
      { e with notices := e.notices ++ lateNotices w side content payload } := by
  have hquiet : e = { e with notices := e.notices ++ [] } := by rw [List.append_nil]
  cases payload with
  | str reshaped =>
    rw [lateNotices]
    split
    · next hne =>
      have hrun : (applySide w side content (.str reshaped)).run.run e =
          (.error (.screen (.gone (BoxName.side w side).path)), e) := by
        have hlook := run_useBox (.side w side) e
        rw [hbox] at hlook
        rw [applySide, if_pos hne]
        exact run_bind_error hlook
      rw [call, hrun]
      rfl
    · next heq =>
      rw [call, applySide, if_neg heq]
      exact hquiet
  | _ => exact hquiet

end EditorM

namespace Editor

variable {e e' : Editor} {event : Event}

theorem Closes.inUse {w : Nat} (h : Closes e w event) : e.comparing = some w := by
  cases h with
  | button hw => exact hw
  | frame hw => exact hw

theorem Closes.next?_eq {w : Nat} (h : Closes e w event) (hnext : e.next? event = some e') :
    e.isOpen = true ∧ ∃ ns, e' = { after (closeWindow w) e with notices := ns } := by
  obtain ⟨ns, hcall⟩ := call_eq_after (withCompare closeWindow) e
  have hafter : after (withCompare closeWindow) e = after (closeWindow w) e := by
    rw [withCompare, after_get_bind, h.inUse]
  rw [hafter] at hcall
  cases h with
  | button =>
    obtain ⟨hallows, hact⟩ := Option.ite_none_right_eq_some.mp hnext
    exact ⟨(Bool.and_eq_true_iff.mp hallows).1, ns, (Option.some.inj hact).symm.trans hcall⟩
  | frame =>
    obtain ⟨hallows, hact⟩ := Option.ite_none_right_eq_some.mp hnext
    exact ⟨(Bool.and_eq_true_iff.mp hallows).1, ns, (Option.some.inj hact).symm.trans hcall⟩

theorem Closes.gone {w : Nat} (h : Closes e w event) (hnext : e.next? event = some e')
    (he : Orderly e) (hyields : e.yields w = true) : Gone w e' := by
  obtain ⟨hopen, ns, rfl⟩ := h.next?_eq hnext
  have hp : Proceeds e (after (closeWindow w) e) := admits_proceeds.closeWindow w e
  refine ⟨Nat.lt_of_lt_of_le (he.comparing w h.inUse) hp.made, ?_, fun t ht => ?_⟩
  · have hthere := hasWindow_closeWindow hopen w
    rw [hyields] at hthere
    exact hthere.trans (Bool.and_false _)
  · obtain ⟨hold, howner⟩ := timers_closeWindow hopen hyields t ht
    exact ⟨howner, fun hjob => howner (he.timers t hold w hjob)⟩

theorem orderly_start {setup : Setup} {disk : Disk} {refused : List Command} {path : Text}
    (h : start setup disk refused path = .ok e) : Orderly e := by
  obtain ⟨taken, settings, session, hp⟩ := admits_proceeds.start h
  have hbare : Orderly (bare setup disk refused taken settings session) := ⟨nofun, nofun⟩
  exact hbare.of_proceeds hp

theorem Run.orderly {e₀ : Editor} {past : List (Editor × Event)} (h : Run e₀ past e)
    (h₀ : Orderly e₀) : Orderly e := by
  induction h with
  | start => exact h₀
  | step event _ hnext ih => exact keeps_proceeding (fun hp hs => hs.of_proceeds hp) hnext ih

theorem Run.gone {e₀ : Editor} {past : List (Editor × Event)} (h : Run e₀ past e)
    (h₀ : Orderly e₀) {s : Editor} {closing : Event} (hpast : (s, closing) ∈ past) {w : Nat}
    (hcloses : Closes s w closing) (hyields : s.yields w = true) : Gone w e := by
  induction h with
  | start => cases hpast
  | step event hrun hnext ih =>
    cases List.mem_append.mp hpast with
    | inl hpast => exact keeps_proceeding (fun hp hs => hs.of_proceeds hp) hnext (ih hpast)
    | inr hlast =>
      cases List.mem_singleton.mp hlast
      exact hcloses.gone hnext (hrun.orderly h₀) hyields

theorem box?_of_gone {w : Nat} (h : e.hasWindow w = false) (side : Side) :
    e.box? (.side w side) = none := by
  cases hbox : e.box? (.side w side) with
  | none => rfl
  | some b =>
    rw [hasWindow_of_box? hbox] at h
    cases h

/-- A reply has been taken from the client or the timers, and nothing has come of it but notices. -/
def Drops (e : Editor) (ns : List Notice) (e' : Editor) : Prop :=
  ∃ c timers now, (∀ x ∈ c.waiting, x ∈ e.client.waiting) ∧ (∀ t ∈ timers, t ∈ e.timers) ∧
    e' = { e with client := c, timers := timers, now := now, notices := e.notices ++ ns }

theorem Gone.drops_part {w : Nat} (h : Gone w e) (hnext : e.next? event = some e') {run : Nat}
    {p : Part} {payload : Json} (hd : Delivers e (.part w run p) payload event) :
    Drops e [] e' := by
  have hunseen : e.sees w = false := by
    have hgone : e.windows[w]?.any (·.alive) = false := h.gone
    rw [sees, hgone, Bool.and_false]
  obtain ⟨c, timers, now, hwaiting, htimers, heq⟩ := hd.dropped hnext fun c timers now =>
    run_applyPart_of_ne (e := { e with client := c, timers := timers, now := now }) (.inr hunseen)
      p payload
  refine ⟨c, timers, now, hwaiting, htimers, ?_⟩
  rw [heq, List.append_nil]

theorem Gone.drops_reshape {w : Nat} (h : Gone w e) (hnext : e.next? event = some e') {side : Side}
    {content : Text} {payload : Json}
    (hd : Delivers e (.reshapeSide w side content) payload event) :
    Drops e (lateNotices w side content payload) e' := by
  obtain ⟨c, timers, now, hwaiting, htimers, heq⟩ := hd.next?_eq hnext
  let taken : Editor := { e with client := c, timers := timers, now := now }
  have hbox : taken.box? (.side w side) = none := box?_of_gone h.gone side
  exact ⟨c, timers, now, hwaiting, htimers,
    heq.trans (call_applySide_of_gone hbox content payload)⟩

/-- In every run of an editor, a compare window that is closed is gone from then on, unless the
screen refuses to stop its timer or to destroy it: no timer is its own or begins a comparison in it,
and a result for a part of a comparison in it is dropped.  A text from one of its sides that comes
back in another form changes nothing either; but the side is looked up first, and that fails. -/
theorem closed_window_gone {setup : Setup} {disk : Disk} {refused : List Command} {path : Text}
    {e₀ e e' : Editor} {past : List (Editor × Event)} {event : Event}
    (hstart : start setup disk refused path = .ok e₀) (hrun : Run e₀ past e)
    (hnext : e.next? event = some e') :
    (∀ w, Closes e w event → e'.hasWindow w = (e.hasWindow w && !e.yields w)) ∧
    ∀ s closing w, (s, closing) ∈ past → Closes s w closing → s.yields w = true →
      e.hasWindow w = false ∧
      (∀ t ∈ e.timers, t.owner ≠ some w ∧ t.job ≠ .comparison w) ∧
      (∀ run p payload, Delivers e (.part w run p) payload event → Drops e [] e') ∧
      ∀ side content payload, Delivers e (.reshapeSide w side content) payload event →
        Drops e (lateNotices w side content payload) e' := by
  constructor
  · intro w hcloses
    obtain ⟨hopen, ns, rfl⟩ := hcloses.next?_eq hnext
    exact hasWindow_closeWindow hopen w
  · intro s closing w hpast hcloses hyields
    have hgone : Gone w e := hrun.gone (orderly_start hstart) hpast hcloses hyields
    exact ⟨hgone.gone, hgone.idle, fun _ _ _ hd => hgone.drops_part hnext hd,
      fun _ _ _ hd => hgone.drops_reshape hnext hd⟩

/-- A compare window is closed while its timer runs and while results for a comparison in it and the
formatted text of its left side are awaited.  The timer goes and the results are dropped, but the
text fails to find its side. -/
theorem closed_window_gone_formatted :
    ∃ setup e₀ past s e, start setup .empty [] [] = .ok e₀ ∧ Run e₀ past s ∧
      Closes s 0 (.act (.close .compare)) ∧ s.next? (.act (.close .compare)) = some e ∧
      s.yields 0 = true ∧ s.hasWindow 0 = true ∧ (s.timers.any fun t => t.owner = some 0) = true ∧
      e.hasWindow 0 = false ∧ (∀ t ∈ e.timers, t.owner ≠ some 0 ∧ t.job ≠ .comparison 0) ∧
      (∃ event e', e.next? event = some e' ∧
        Delivers e (.part 0 1 (.verdict .left)) (.obj [("valid", .bool true)]) event ∧
        Drops e [] e') ∧
      ∃ event e', e.next? event = some e' ∧
        Delivers e (.reshapeSide 0 .left "[1]") (.str "[\n  1\n]") event ∧
        Drops e [.failed (.screen (.gone (BoxName.side 0 .left).path))] e' := by
  have hscene : ((fresh? .remote).bind fun e₀ =>
      (e₀.follow ([.act (.edit 0 (.replace "[1]")), .act (.press .compare)] ++
        List.replicate 6 (.turn 1000) ++ [.act (.editSide .right (.replace "[]")), .turn 1000,
          .act (.press (.formatSide .left))])).bind fun s =>
      (s.next? (.act (.close .compare))).map fun e =>
        (s.comparing, [s.yields 0, s.hasWindow 0, s.timers.any fun t => t.owner = some 0],
          (e.client.find? "t4").map (·.onResult), (e.client.find? "t6").map (·.onResult))) =
      some (some 0, [true, true, true], some (Reply.part 0 1 (.verdict .left)),
        some (Reply.reshapeSide 0 .left "[1]")) := by
    decide +kernel
  obtain ⟨e₀, hstart, hscene⟩ := Option.bind_eq_some_iff.mp hscene
  have hstart := start_of_fresh? hstart
  obtain ⟨s, hfollow, hscene⟩ := Option.bind_eq_some_iff.mp hscene
  obtain ⟨e, hclose, hscene⟩ := Option.map_eq_some_iff.mp hscene
  simp only [Prod.mk.injEq, List.cons.injEq, and_true, and_assoc] at hscene
  obtain ⟨hinUse, hyields, hthere, htimer, hpart, hreshape⟩ := hscene
  obtain ⟨past, hrun, -⟩ := run_of_follow hfollow
  have hcloses : Closes s 0 (.act (.close .compare)) := .frame hinUse
  have hclosed : Run e₀ (past ++ [(s, .act (.close .compare))]) e := hrun.step _ hclose
  have hvalidated : Delivers e (.part 0 1 (.verdict .left)) (.obj [("valid", .bool true)])
      (.act (.respond (Response.toJson
        ⟨"VALIDATE_RESULT", .obj [("valid", .bool true)], .str "t4"⟩))) :=
    delivers_of_waiting hpart (by decide)
  have hformatted : Delivers e (.reshapeSide 0 .left "[1]") (.str "[\n  1\n]")
      (.act (.respond (Response.toJson ⟨"FORMAT_RESULT", .str "[\n  1\n]", .str "t6"⟩))) :=
    delivers_of_waiting hreshape (by decide)
  have hlater (response : Json) :=
    (closed_window_gone hstart hclosed (rfl : e.next? (.act (.respond response)) = some _)).2
      s _ 0 (by simp) hcloses hyields
  obtain ⟨hgone, hidle, -⟩ := hlater .null
  exact ⟨_, e₀, past, s, e, hstart, hrun, hcloses, hclose, hyields, hthere, htimer, hgone, hidle,
    ⟨_, _, rfl, hvalidated, (hlater _).2.2.1 _ _ _ hvalidated⟩,
    ⟨_, _, rfl, hformatted, (hlater _).2.2.2 _ _ _ hformatted⟩⟩

end Editor

end JsonDesk
