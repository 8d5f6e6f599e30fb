import JsonDesk.Proofs.ComparisonRuns

/-!
A compare window never mixes comparisons.  Results come in any order, while the sides are edited and
newer comparisons are begun; the invariant ties what a window has collected to what has come for its
newest comparison, and what it shows to the texts of that one.
-/

set_option autoImplicit false

namespace JsonDesk

open EditorM

namespace Editor

/-- A comparison was begun and captured two texts, those on the sides of its window. -/
def Compared (past : List (Editor × Event)) (w run : Nat) (l r : Text) : Prop :=
  ∃ s event s', (s, event) ∈ past ∧ s.next? event = some s' ∧ (s.outcome w).run < run ∧
    (s'.outcome w).run = run ∧ s.sideText? w .left = some l ∧ s.sideText? w .right = some r

/-- A result of a comparison has come while its window was seen: it was delivered, or else an inline
engine served it when the comparison was begun. -/
inductive PartCame (past : List (Editor × Event)) (w run : Nat) (p : Part) : Prop
  | delivered {s : Editor} {event : Event} {payload : Json} : (s, event) ∈ past →
    Delivers s (.part w run p) payload event → s.sees w = true → PartCame past w run p
  | atOnce {s s' : Editor} {event : Event} : (s, event) ∈ past → s.next? event = some s' →
    (s.outcome w).run < run → (s'.outcome w).run = run → s'.setup.engine = .inline →
    s'.sees w = true → PartCame past w run p

/-- All that a comparison of two texts has asked for has come. -/
def AllCame (past : List (Editor × Event)) (w run : Nat) (l r : Text) : Prop :=
  ∀ p, p.isAsked l r = true → PartCame past w run p

variable {past : List (Editor × Event)} {e e' : Editor} {event : Event} {w run : Nat} {p : Part}
  {l r : Text}

theorem compared_append_iff (hnext : e.next? event = some e') :
    Compared (past ++ [(e, event)]) w run l r ↔ Compared past w run l r ∨
      ((e.outcome w).run < run ∧ (e'.outcome w).run = run ∧
        e.sideText? w .left = some l ∧ e.sideText? w .right = some r) :=
  exists_step_concat_iff hnext

theorem partCame_append_iff (hnext : e.next? event = some e') :
    PartCame (past ++ [(e, event)]) w run p ↔ PartCame past w run p ∨
      (∃ payload, Delivers e (.part w run p) payload event ∧ e.sees w = true) ∨
        ((e.outcome w).run < run ∧ (e'.outcome w).run = run ∧ e'.setup.engine = .inline ∧
          e'.sees w = true) := by
  constructor
  · intro h
    cases h with
    | @delivered s before payload hmem hd hsees =>
      cases List.mem_append.mp hmem with
      | inl hmem => exact .inl (.delivered hmem hd hsees)
      | inr hmem =>
        cases List.mem_singleton.mp hmem
        exact .inr (.inl ⟨payload, hd, hsees⟩)
    | @atOnce s s' before hmem hs hlt hrun hengine hsees =>
      cases List.mem_append.mp hmem with
      | inl hmem => exact .inl (.atOnce hmem hs hlt hrun hengine hsees)
      | inr hmem =>
        cases List.mem_singleton.mp hmem
        cases hs.symm.trans hnext
        exact .inr (.inr ⟨hlt, hrun, hengine, hsees⟩)
  · rintro (h | ⟨payload, hd, hsees⟩ | ⟨hlt, hrun, hengine, hsees⟩)
    · cases h with
      | delivered hmem hd hsees => exact .delivered (List.mem_append_left _ hmem) hd hsees
      | atOnce hmem hs hlt hrun hengine hsees =>
        exact .atOnce (List.mem_append_left _ hmem) hs hlt hrun hengine hsees
    · exact .delivered (by simp) hd hsees
    · exact .atOnce (by simp) hnext hlt hrun hengine hsees

/-- No comparison but this and older ones was begun by an event, or had a result delivered. -/
structure PartsUpTo (w run : Nat) (q : Editor × Event) : Prop where
  begun : ∀ s', q.1.next? q.2 = some s' → (s'.outcome w).run ≤ run
  delivered : ∀ p payload m, Delivers q.1 (.part w m p) payload q.2 → m ≤ run

/-- While a comparison is the newest of its window and has captured two texts, what is still to come
for it is due to them, and what has come is collected. -/
structure Gathers (past : List (Editor × Event)) (w : Nat) (e : Editor) (l r : Text) : Prop where
  awaits : Awaits (PartDue w (e.outcome w).run l r) e
  upTo : ∀ q ∈ past, PartsUpTo w (e.outcome w).run q
  captured : ∀ l' r', Compared past w (e.outcome w).run l' r' ↔
    (e.outcome w).run ≠ 0 ∧ l' = l ∧ r' = r
  belongs : (e.outcome w).run ≠ 0 → (e.outcome w).Of l r
  got : (e.outcome w).run ≠ 0 → ∀ p, (e.outcome w).gathered.get? p ≠ none ↔
    p.isAsked l r = false ∨ PartCame past w (e.outcome w).run p

/-- What has come about in the window: it goes on to show what it did, or else the newest comparison
is complete. -/
def Settled (w : Nat) (e e' : Editor) : Prop :=
  (e'.outcome w).shown = (e.outcome w).shown ∨
    (e'.outcome w).run ≠ 0 ∧ (e'.outcome w).gathered.isComplete = true

theorem settled_of_begun {s : Editor} {ns : List Notice} (hs : Undisturbed w e s)
    (hbegun : Begun w l r s (after (comparison w) s))
    (he' : e' = { after (comparison w) s with notices := ns }) : Settled w e e' := by
  have hrun : (e'.outcome w).run = (s.outcome w).run + 1 := by
    rw [he']
    exact hbegun.run
  cases hcomplete : (e'.outcome w).gathered.isComplete with
  | true => exact .inr ⟨by omega, hcomplete⟩
  | false =>
    rw [he'] at hcomplete ⊢
    exact .inl ((hbegun.shown hcomplete).trans (by rw [hs.outcome]))

namespace Gathers

theorem isComplete_iff (h : Gathers past w e l r) (hrun : (e.outcome w).run ≠ 0) :
    (e.outcome w).gathered.isComplete = true ↔ AllCame past w (e.outcome w).run l r := by
  rw [Gathered.isComplete_iff]
  refine forall_congr' fun p => (h.got hrun p).trans ?_
  cases p.isAsked l r <;> simp

theorem step (h : Gathers past w e l r) (hnext : e.next? event = some e')
    (hrun : (e'.outcome w).run = (e.outcome w).run)
    (hawaits : Awaits (PartDue w (e.outcome w).run l r) e')
    (hdue : ∀ reply payload, Delivers e reply payload event →
      PartDue w (e.outcome w).run l r reply payload)
    (hbelongs : (e.outcome w).run ≠ 0 → (e'.outcome w).Of l r)
    (hgot : (e.outcome w).run ≠ 0 → ∀ p, (e'.outcome w).gathered.get? p ≠ none ↔
      (e.outcome w).gathered.get? p ≠ none ∨
        ∃ payload, Delivers e (.part w (e.outcome w).run p) payload event ∧ e.sees w = true) :
    Gathers (past ++ [(e, event)]) w e' l r where
  awaits := by rwa [hrun]
  upTo := by
    rw [hrun]
    refine List.forall_mem_append.mpr ⟨h.upTo, List.forall_mem_singleton.mpr ⟨?_, ?_⟩⟩
    · intro s' hs
      cases hs.symm.trans hnext
      exact Nat.le_of_eq hrun
    · exact fun p payload m hd => (hdue _ payload hd rfl).2.1
  captured l' r' := by
    rw [compared_append_iff hnext, hrun, h.captured l' r']
    simp
  belongs := by rwa [hrun]
  got := by
    rw [hrun]
    intro hne p
    rw [hgot hne p, h.got hne p, partCame_append_iff hnext, hrun]
    simp [or_assoc]

theorem steady (h : Gathers past w e l r) (hnext : e.next? event = some e')
    (hs : Undisturbed w e e') (hawaits : Awaits (PartDue w (e.outcome w).run l r) e')
    (hdue : ∀ reply payload, Delivers e reply payload event →
      PartDue w (e.outcome w).run l r reply payload)
    (hnone : ∀ p payload, Delivers e (.part w (e.outcome w).run p) payload event →
      e.sees w = false) : Gathers (past ++ [(e, event)]) w e' l r := by
  refine h.step hnext (by rw [hs.outcome]) hawaits hdue (hs.outcome ▸ h.belongs) fun _ p => ?_
  rw [hs.outcome, iff_self_or]
  rintro ⟨payload, hd, hsees⟩
  cases hsees.symm.trans (hnone p payload hd)

theorem collect (h : Gathers past w e l r) (hnext : e.next? event = some e') {payload : Json}
    (hd : Delivers e (.part w (e.outcome w).run p) payload event) (hsees : e.sees w = true)
    (hdue : ∀ reply payload, Delivers e reply payload event →
      PartDue w (e.outcome w).run l r reply payload) :
    e'.outcome w = (e.outcome w).collect l r p ∧ Gathers (past ++ [(e, event)]) w e' l r := by
  obtain ⟨hpos, -, hpart⟩ := hdue _ payload hd rfl
  obtain ⟨-, rfl⟩ := hpart rfl
  have hbelongs := h.belongs (Nat.ne_of_gt hpos)
  obtain ⟨c, timers, now, hwaiting, htimers, hcall⟩ := hd.next?_eq hnext
  let s : Editor := { e with client := c, timers := timers, now := now }
  obtain ⟨ns, hafter⟩ := call_eq_after (applyPart w (e.outcome w).run p (p.due l r)) s
  have heq : e' = { after (applyPart w (e.outcome w).run p (p.due l r)) s with notices := ns } :=
    hcall.trans hafter
  have hcollected : e'.outcome w = (e.outcome w).collect l r p := by
    rw [heq]
    exact (attains_applyPart (e := s) hsees hbelongs.fits p).after
  have hcore : SameCore s e' := by
    rw [heq]
    exact (status_applyPart w _ p _ s).1
  have hrun : (e'.outcome w).run = (e.outcome w).run := by rw [hcollected, Outcome.run_collect]
  refine ⟨hcollected, h.step hnext hrun ?_ hdue (fun _ => ?_) fun _ q => ?_⟩
  · have htaken : Awaits (PartDue w (e.outcome w).run l r) s := h.awaits.less hwaiting htimers rfl
    exact htaken.of_core hcore
  · rw [hcollected]
    exact Outcome.of_settle (hbelongs.fits.put p)
  · rw [hcollected, Outcome.get?_collect]
    by_cases hq : q = p
    · cases hq
      exact iff_of_true (by simp) (.inr ⟨_, hd, hsees⟩)
    · rw [if_neg hq, iff_self_or]
      rintro ⟨payload, hd', -⟩
      cases (hd.unique hd').1
      exact absurd rfl hq

/-- A result for the window is collected there, unless it is of an older comparison or the window is
not seen: then it is dropped. -/
theorem receive (h : Gathers past w e l r) (hnext : e.next? event = some e') {m : Nat}
    {payload : Json} (hd : Delivers e (.part w m p) payload event)
    (hdue : ∀ reply payload, Delivers e reply payload event →
      PartDue w (e.outcome w).run l r reply payload) :
    Settled w e e' ∧ Gathers (past ++ [(e, event)]) w e' l r := by
  by_cases hm : m ≠ (e.outcome w).run ∨ e.sees w = false
  · obtain ⟨c, timers, now, hwaiting, htimers, rfl⟩ := hd.dropped hnext fun c timers now =>
      run_applyPart_of_ne (e := { e with client := c, timers := timers, now := now }) hm p payload
    refine ⟨.inl rfl, h.steady hnext ⟨rfl, rfl⟩ (h.awaits.less hwaiting htimers rfl) hdue
      fun p' payload' hd' => hm.resolve_left fun hne => ?_⟩
    cases (hd.unique hd').1
    exact hne rfl
  · rw [not_or, not_not, Bool.not_eq_false] at hm
    obtain ⟨rfl, hsees⟩ := hm
    obtain ⟨hcollected, hgathers⟩ := h.collect hnext hd hsees hdue
    refine ⟨?_, hgathers⟩
    cases hcomplete : (e'.outcome w).gathered.isComplete with
    | true =>
      have hrun : (e'.outcome w).run = (e.outcome w).run := by
        rw [hcollected, Outcome.run_collect]
      exact .inr ⟨hrun ▸ Nat.ne_of_gt (hdue _ _ hd rfl).1, hcomplete⟩
    | false =>
      rw [hcollected] at hcomplete
      exact .inl (hcollected ▸ Outcome.shown_collect hcomplete)

theorem not_compared (h : Gathers past w e l r) (l' r' : Text) :
    ¬ Compared past w ((e.outcome w).run + 1) l' r' := by
  rintro ⟨s, before, s', hmem, hs, -, hrun, -⟩
  exact absurd (hrun ▸ (h.upTo _ hmem).begun s' hs) (Nat.not_succ_le_self _)

theorem not_partCame (h : Gathers past w e l r) : ¬ PartCame past w ((e.outcome w).run + 1) p := by
  intro hc
  cases hc with
  | delivered hmem hd =>
    exact absurd ((h.upTo _ hmem).delivered _ _ _ hd) (Nat.not_succ_le_self _)
  | atOnce hmem hs _ hrun =>
    exact absurd (hrun ▸ (h.upTo _ hmem).begun _ hs) (Nat.not_succ_le_self _)

theorem begin (h : Gathers past w e l r) (hnext : e.next? event = some e') {s : Editor}
    {l' r' : Text} {ns : List Notice} (hs : Aloof w (e.outcome w).run l r e s)
    (htexts : SameContents e s) (hbegun : Begun w l' r' s (after (comparison w) s))
    (he' : e' = { after (comparison w) s with notices := ns })
    (hother : ∀ reply payload, Delivers e reply payload event → reply.comparisonRun? w = none) :
    Gathers (past ++ [(e, event)]) w e' l' r' := by
  obtain ⟨hsame, hbears⟩ := hs
  have hrun : (e'.outcome w).run = (e.outcome w).run + 1 := by
    rw [he', ← hsame.outcome]
    exact hbegun.run
  have hno (q : Part) (payload : Json) (m : Nat) : ¬ Delivers e (.part w m q) payload event :=
    fun hd => by simpa [Reply.comparisonRun?] using hother _ payload hd
  constructor
  case awaits =>
    have hawaits : Awaits (PartDue w ((s.outcome w).run + 1) l' r') s :=
      (hbears h.awaits).imp fun reply payload hdue => by
        rw [hsame.outcome]
        exact partDue_next hdue l' r'
    rw [hrun, ← hsame.outcome, he']
    exact (hbegun.awaits hawaits).of_core rfl
  case upTo =>
    rw [hrun]
    refine List.forall_mem_append.mpr ⟨fun q hq => ?_, List.forall_mem_singleton.mpr ⟨?_, ?_⟩⟩
    · exact ⟨fun s' hs' => Nat.le_succ_of_le ((h.upTo q hq).begun s' hs'),
        fun p payload m hd => Nat.le_succ_of_le ((h.upTo q hq).delivered p payload m hd)⟩
    · intro s' hs'
      cases hs'.symm.trans hnext
      exact Nat.le_of_eq hrun
    · exact fun q payload m hd => absurd hd (hno q payload m)
  case captured =>
    intro l'' r''
    have hl : e.sideText? w .left = some l' := htexts.side w .left ▸ hbegun.left
    have hr : e.sideText? w .right = some r' := htexts.side w .right ▸ hbegun.right
    rw [hrun, compared_append_iff hnext, hrun, hl, hr]
    simp [h.not_compared, eq_comm]
  case belongs =>
    rw [he']
    exact fun _ => hbegun.belongs
  case got =>
    intro _ q
    rw [hrun, partCame_append_iff hnext, hrun]
    have hgot : (e'.outcome w).gathered.get? q ≠ none ↔
        q.isAsked l' r' = false ∨ (e'.setup.engine = .inline ∧ e'.sees w = true) := by
      rw [he']
      exact hbegun.got q
    rw [hgot]
    simp [h.not_partCame, hno]

/-- Whatever an event leads to, the window goes on to gather what comes for its newest comparison. -/
theorem next (h : Gathers past w e l r) (hwait : event.isWait = false)
    (hhonest : ∀ response, event = .act (.respond response) → e.Honest response)
    (hnext : e.next? event = some e') :
    Settled w e e' ∧ ∃ l' r', Gathers (past ++ [(e, event)]) w e' l' r' := by
  have hdue (reply : Reply) (payload : Json) (hd : Delivers e reply payload event) :
      PartDue w (e.outcome w).run l r reply payload := hd.awaited h.awaits hhonest
  -- a result for the window is looked at for itself, all else is admitted by the relation
  by_cases hpart : ∃ m p payload, Delivers e (.part w m p) payload event
  · obtain ⟨m, p, payload, hd⟩ := hpart
    obtain ⟨hsettled, hgathers⟩ := h.receive hnext hd hdue
    exact ⟨hsettled, l, r, hgathers⟩
  · have hother (reply : Reply) (payload : Json) (hd : Delivers e reply payload event) :
        reply.comparisonRun? w = none := by
      cases reply with
      | part v m p =>
        have hv : v ≠ w := fun hv => hpart ⟨m, p, payload, hv ▸ hd⟩
        simp [Reply.comparisonRun?, hv]
      | _ => rfl
    have hrest {s : Editor} (hs : Aloof w (e.outcome w).run l r e s)
        (hs' : Aloof w (e.outcome w).run l r s e') :
        Settled w e e' ∧ ∃ l' r', Gathers (past ++ [(e, event)]) w e' l' r' := by
      obtain ⟨hsame, hbears⟩ := trans_of (Aloof w (e.outcome w).run l r) hs hs'
      refine ⟨.inl (by rw [hsame.outcome]), l, r, h.steady hnext hsame (hbears h.awaits) hdue
        fun p payload hd => ?_⟩
      simpa [Reply.comparisonRun?] using hother _ payload hd
    have hnoticed {k s : Editor} {ns : List Notice} (hk : Aloof w (e.outcome w).run l r s k)
        (he' : e' = { k with notices := ns }) : Aloof w (e.outcome w).run l r s e' := by
      have hns : SameAside k { k with notices := ns } := rfl
      rw [he']
      exact trans_of (Aloof w (e.outcome w).run l r) hk (admits_aloof.overlooks.aside hns)
    have harrives : Arrives (Aloof w (e.outcome w).run l r) e e' := admits_aloof.onward
      ⟨trivial, partDue_other rfl⟩ hwait hnext
      (fun a reply _ hasks => ⟨trivial, partDue_other (by cases hasks <;> rfl)⟩)
      fun reply payload s hd _ => aloof_handle (hother reply payload hd) payload s
    cases harrives with
    | inl hs => exact hrest (refl_of _ e) hs
    | inr hbegins =>
      obtain ⟨k, s, ns, hk, hs, htexts, heq⟩ := hbegins
      cases hk with
      | feedback => exact hrest hs (hnoticed (aloof_feedback s) heq)
      | comparison v =>
        by_cases hv : v = w
        · cases hv
          have hidle : s.setup.engine = .inline → s.client.waiting = [] := fun hengine =>
            (hs.2 h.awaits).idle (by rw [hengine]; decide)
          obtain hsame | ⟨l', r', hbegun⟩ := begun_comparison w hidle
          · rw [hsame] at heq
            exact hrest hs (hnoticed (refl_of _ s) heq)
          · exact ⟨settled_of_begun hs.1 hbegun heq, l', r', h.begin hnext hs htexts hbegun heq hother⟩
        · exact hrest hs (hnoticed (aloof_comparison hv s) heq)

end Gathers

theorem gathers_start {setup : Setup} {disk : Disk} {refused : List Command} {path : Text}
    {e₀ : Editor} (hstart : start setup disk refused path = .ok e₀) (w : Nat) :
    Gathers [] w e₀ [] [] := by
  obtain ⟨taken, settings, session, hsame, hbears⟩ :=
    (admits_undisturbed w).both (admits_bears (P := PartDue w 0 [] [])) |>.start hstart
  have hrun : (e₀.outcome w).run = 0 := by
    rw [hsame.outcome]
    rfl
  have hnone (l r : Text) : ¬ Compared [] w 0 l r := by
    rintro ⟨s, event, s', hmem, -⟩
    cases hmem
  constructor
  case awaits =>
    rw [hrun]
    exact hbears ⟨by simp [bare, Client.empty], by simp [bare], fun _ => rfl, by simp [bare]⟩
  case upTo => simp
  case captured => simp [hrun, hnone]
  case belongs => exact fun hne => absurd hrun hne
  case got => exact fun hne => absurd hrun hne

theorem shown_start {setup : Setup} {disk : Disk} {refused : List Command} {path : Text}
    {e₀ : Editor} (hstart : start setup disk refused path = .ok e₀) (w : Nat) :
    (e₀.outcome w).shown = ([], []) := by
  obtain ⟨taken, settings, session, hsame⟩ := (admits_undisturbed w).start hstart
  rw [hsame.outcome]
  rfl

theorem Course.gathers {setup : Setup} {disk : Disk} {refused : List Command} {path : Text}
    {e₀ : Editor} (h : Course e₀ past e) (hstart : Editor.start setup disk refused path = .ok e₀)
    (w : Nat) : ∃ l r, Gathers past w e l r := by
  induction h with
  | start => exact ⟨[], [], gathers_start hstart w⟩
  | step _ hwait hhonest hnext ih =>
    obtain ⟨l, r, hgathers⟩ := ih
    exact (hgathers.next hwait hhonest hnext).2
  | clock now _ ih =>
    obtain ⟨l, r, h⟩ := ih
    exact ⟨l, r, h.awaits.of_core rfl, h.upTo, h.captured, h.belongs, h.got⟩

theorem Gathers.compared (h : Gathers past w e l r) (hrun : (e.outcome w).run ≠ 0) :
    Compared past w (e.outcome w).run l r :=
  (h.captured l r).mpr ⟨hrun, rfl, rfl⟩

theorem Gathers.presents (h : Gathers past w e l r) {l' r' : Text}
    (hcompared : Compared past w (e.outcome w).run l' r')
    (hall : AllCame past w (e.outcome w).run l' r') : (e.outcome w).Presents l' r' := by
  obtain ⟨hrun, rfl, rfl⟩ := (h.captured l' r').mp hcompared
  exact (h.belongs hrun).presents ((h.isComplete_iff hrun).mpr hall)

theorem Gathers.allCame (h : Gathers past w e' l r) (hs : Settled w e e')
    (hnew : (e'.outcome w).shown ≠ (e.outcome w).shown) :
    Compared past w (e'.outcome w).run l r ∧ AllCame past w (e'.outcome w).run l r := by
  obtain ⟨hrun, hcomplete⟩ := hs.resolve_left hnew
  exact ⟨h.compared hrun, (h.isComplete_iff hrun).mp hcomplete⟩

/-- What a window shows is that of one comparison, whichever of them was the last to be complete. -/
theorem Course.shows {setup : Setup} {disk : Disk} {refused : List Command} {path : Text}
    {e₀ : Editor} (h : Course e₀ past e) (hstart : Editor.start setup disk refused path = .ok e₀)
    (w : Nat) : (e.outcome w).shown = ([], []) ∨ ∃ run l r, Compared past w run l r ∧
      AllCame past w run l r ∧ (e.outcome w).Presents l r := by
  induction h with
  | start => exact .inl (shown_start hstart w)
  | @step past e e' event hcourse hwait hhonest hnext ih =>
    obtain ⟨l, r, hgathers⟩ := hcourse.gathers hstart w
    obtain ⟨hsettled, l', r', hgathers'⟩ := hgathers.next hwait hhonest hnext
    by_cases hnew : (e'.outcome w).shown = (e.outcome w).shown
    · obtain hblank | ⟨run, l, r, hcompared, hall, hpresents⟩ := ih
      · exact .inl (hnew.trans hblank)
      · exact .inr ⟨run, l, r, (compared_append_iff hnext).mpr (.inl hcompared),
          fun p hp => (partCame_append_iff hnext).mpr (.inl (hall p hp)), hpresents.of_shown hnew⟩
    · obtain ⟨hcompared, hall⟩ := hgathers'.allCame hsettled hnew
      exact .inr ⟨_, l', r', hcompared, hall, hgathers'.presents hcompared hall⟩
  | clock now _ ih => exact ih

/-- What is found of an empty array, of an empty object, and of both. -/
def arrayFound : Service :=
  ⟨.validate, .str "[]", .obj [("valid", .bool true), ("parsed", .arr [])], by cbv⟩

def objectFound : Service :=
  ⟨.validate, .str "\x7b\x7d", .obj [("valid", .bool true), ("parsed", .obj [])], by cbv⟩

def bothCompared : Service where
  op := .compare
  payload := .obj [("left", .str "[]"), ("right", .str "\x7b\x7d")]
  result := .arr [.obj [("type", .str "changed"), ("path", .str []), ("leftValue", .arr []),
    ("rightValue", .obj [])]]
  served := by cbv

/-- A comparison is overtaken by another when its right side is edited.  A verdict for the first one
comes, and then all results for the second. -/
theorem exists_overtaken : ∃ e₀ s₀ s₁ s₂ s₃ s₄ e : Editor,
    fresh? .remote = some e₀ ∧
    e₀.follow ([.act (.edit 0 (.replace "[]")), .act (.press .compare)] ++
      List.replicate 6 (.turn 1000) ++ [.act (.editSide .right (.replace "\x7b\x7d"))] ++
      List.replicate 3 (.turn 1000)) = some s₀ ∧
    s₀.sideText? 0 .left = some "[]" ∧ s₀.sideText? 0 .right = some "\x7b\x7d" ∧
    s₀.turn? 1000 = some s₁ ∧
    s₁.respond? arrayFound "t4" = some (.part 0 1 (.verdict .left), s₂) ∧
    s₂.respond? bothCompared "t10" = some (.part 0 2 .differences, s₃) ∧
    s₃.respond? objectFound "t9" = some (.part 0 2 (.verdict .right), s₄) ∧
    s₄.respond? arrayFound "t8" = some (.part 0 2 (.verdict .left), e) ∧
    (s₀.outcome 0).run = 1 ∧ (s₁.outcome 0).run = 2 ∧ (e.outcome 0).run = 2 ∧
    s₂.sees 0 = true ∧ s₃.sees 0 = true ∧ s₄.sees 0 = true := by
  have hscene : ((fresh? .remote).bind fun e₀ =>
      (e₀.follow ([.act (.edit 0 (.replace "[]")), .act (.press .compare)] ++
        List.replicate 6 (.turn 1000) ++ [.act (.editSide .right (.replace "\x7b\x7d"))] ++
        List.replicate 3 (.turn 1000))).bind fun s₀ =>
      (s₀.turn? 1000).bind fun s₁ =>
      (s₁.respond? arrayFound "t4").bind fun (r₁, s₂) =>
      (s₂.respond? bothCompared "t10").bind fun (r₂, s₃) =>
      (s₃.respond? objectFound "t9").bind fun (r₃, s₄) =>
      (s₄.respond? arrayFound "t8").map fun (r₄, e) =>
        ([s₀, s₁, e].map fun s => (s.outcome 0).run, [r₁, r₂, r₃, r₄],
          [s₀.sideText? 0 .left = some "[]", s₀.sideText? 0 .right = some "\x7b\x7d",
            s₂.sees 0, s₃.sees 0, s₄.sees 0])) =
      some ([1, 2, 2], [.part 0 1 (.verdict .left), .part 0 2 .differences,
        .part 0 2 (.verdict .right), .part 0 2 (.verdict .left)], List.replicate 5 true) := by
    decide +kernel
  obtain ⟨e₀, hstart, hscene⟩ := Option.bind_eq_some_iff.mp hscene
  obtain ⟨s₀, h₀, hscene⟩ := Option.bind_eq_some_iff.mp hscene
  obtain ⟨s₁, h₁, hscene⟩ := Option.bind_eq_some_iff.mp hscene
  obtain ⟨⟨r₁, s₂⟩, h₂, hscene⟩ := Option.bind_eq_some_iff.mp hscene
  obtain ⟨⟨r₂, s₃⟩, h₃, hscene⟩ := Option.bind_eq_some_iff.mp hscene
  obtain ⟨⟨r₃, s₄⟩, h₄, hscene⟩ := Option.bind_eq_some_iff.mp hscene
  obtain ⟨⟨r₄, e⟩, h₅, hscene⟩ := Option.map_eq_some_iff.mp hscene
  simp only [Prod.mk.injEq, List.map, List.replicate, List.cons.injEq, decide_eq_true_eq, and_true,
    and_assoc] at hscene
  obtain ⟨hrun₀, hrun₁, hrun, rfl, rfl, rfl, rfl, hleft, hright, hsees⟩ := hscene
  exact ⟨e₀, s₀, s₁, s₂, s₃, s₄, e, hstart, h₀, hleft, hright, h₁, h₂, h₃, h₄, h₅, hrun₀, hrun₁,
    hrun, hsees⟩

/-- Whatever happens while the engine answers in whatever order, a compare window never mixes
comparisons.  A result for an older one is dropped, with no other effect.  The newest comparison has
captured two texts, and once all that it asked for has come, it is shown.  Nothing else is ever shown
anew, so that what is shown is always that of one comparison. -/
theorem live_comparison_newest {setup : Setup} {disk : Disk} {refused : List Command} {path : Text}
    {e₀ e : Editor} {past : List (Editor × Event)} (hstart : start setup disk refused path = .ok e₀)
    (hcourse : Course e₀ past e) (w : Nat) :
    (∀ event e' p payload run, e.next? event = some e' →
      Delivers e (.part w run p) payload event → run ≠ (e.outcome w).run →
      ∃ client timers now, e' = { e with client := client, timers := timers, now := now }) ∧
    ((e.outcome w).run ≠ 0 → ∃ l r, Compared past w (e.outcome w).run l r) ∧
    (∀ l r, Compared past w (e.outcome w).run l r → AllCame past w (e.outcome w).run l r →
      (e.outcome w).Presents l r) ∧
    (∀ event e', event.isWait = false →
      (∀ response, event = .act (.respond response) → e.Honest response) →
      e.next? event = some e' → (e'.outcome w).shown ≠ (e.outcome w).shown →
      ∃ l r, Compared (past ++ [(e, event)]) w (e'.outcome w).run l r ∧
        AllCame (past ++ [(e, event)]) w (e'.outcome w).run l r ∧ (e'.outcome w).Presents l r) ∧
    ((e.outcome w).shown = ([], []) ∨ ∃ run l r, Compared past w run l r ∧
      AllCame past w run l r ∧ (e.outcome w).Presents l r) := by
  obtain ⟨l, r, hgathers⟩ := hcourse.gathers hstart w
  refine ⟨fun event e' p payload run hnext hd hne => ?_, fun hrun => ?_, fun l' r' => ?_,
    fun event e' hwait hhonest hnext hnew => ?_, hcourse.shows hstart w⟩
  · obtain ⟨client, timers, now, -, -, heq⟩ := hd.dropped hnext fun c timers now =>
      run_applyPart_of_ne (e := { e with client := c, timers := timers, now := now }) (.inl hne) p
        payload
    exact ⟨client, timers, now, heq⟩
  · exact ⟨l, r, hgathers.compared hrun⟩
  · exact hgathers.presents
  · obtain ⟨hsettled, l', r', hgathers'⟩ := hgathers.next hwait hhonest hnext
    obtain ⟨hcompared, hall⟩ := hgathers'.allCame hsettled hnew
    exact ⟨l', r', hcompared, hall, hgathers'.presents hcompared hall⟩

/-- A side is edited while the results for the older text are still to come.  One of them comes late
and is dropped; then those for the newer text come, the last one first, and are shown together. -/
theorem live_comparison_newest_edited :
    ∃ setup e₀ past e s event payload, start setup .empty [] [] = .ok e₀ ∧ Course e₀ past e ∧
      (s, event) ∈ past ∧ (s.outcome 0).run = 2 ∧
      Delivers s (.part 0 1 (.verdict .left)) payload event ∧
      (∃ client timers now,
        s.next? event = some { s with client := client, timers := timers, now := now }) ∧
      (e.outcome 0).run = 2 ∧ Compared past 0 2 "[]" "\x7b\x7d" ∧ AllCame past 0 2 "[]" "\x7b\x7d" ∧
      (e.outcome 0).summary = "1 difference found" ∧
      (e.outcome 0).rows = [⟨"(root): [] -> \x7b\x7d\n", "changed"⟩] := by
  have hsummarized : summarized "[]" "\x7b\x7d" = true := by cbv
  have hdifferences : JsonDesk.compare "[]" "\x7b\x7d" = [⟨[], .changed (.arr []) (.obj [])⟩] := by
    cbv
  obtain ⟨e₀, s₀, s₁, s₂, s₃, s₄, e, hstart, h₀, hleft, hright, h₁, h₂, h₃, h₄, h₅, hrun₀, hrun₁,
    hrun, hsees₂, hsees₃, hsees₄⟩ := exists_overtaken
  have hstart := start_of_fresh? hstart
  obtain ⟨past₀, hcourse₀⟩ := course_of_follow h₀ (by decide) (by simp)
  have hcourse₁ := hcourse₀.turn h₁
  obtain ⟨past, hpast, hcourse⟩ : ∃ past, past = _ ∧ Course e₀ past e :=
    ⟨_, rfl, (((hcourse₁.respond h₂).respond h₃).respond h₄).respond h₅⟩
  have hlate := delivers_of_respond? h₂
  obtain ⟨client, timers, now, hdropped⟩ := (live_comparison_newest hstart hcourse₁ 0).1
    _ _ _ _ 1 (respond?_eq_some h₂).2.2 hlate (by rw [hrun₁]; decide)
  obtain ⟨-, -, hpresents, -⟩ := live_comparison_newest hstart hcourse 0
  rw [hrun] at hpresents
  have hbegun : Compared past 0 2 "[]" "\x7b\x7d" :=
    ⟨s₀, .turn 1000, s₁, by simp [hpast], h₁, by rw [hrun₀]; decide, hrun₁, hleft, hright⟩
  have hall : AllCame past 0 2 "[]" "\x7b\x7d" := by
    intro p _
    cases p with
    | differences => exact .delivered (by simp [hpast]) (delivers_of_respond? h₃) hsees₂
    | verdict side =>
      cases side with
      | left => exact .delivered (by simp [hpast]) (delivers_of_respond? h₅) hsees₄
      | right => exact .delivered (by simp [hpast]) (delivers_of_respond? h₄) hsees₃
  obtain ⟨hsummary, hrows⟩ := hpresents _ _ hbegun hall
  rw [hsummarized, hdifferences] at hsummary hrows
  exact ⟨_, e₀, _, e, s₁, _, _, hstart, hcourse, by simp [hpast], hrun₁, hlate,
    ⟨client, timers, now, hdropped ▸ (respond?_eq_some h₂).2.2⟩, hrun, hbegun, hall, hsummary, hrows⟩

end Editor

end JsonDesk
