import JsonDesk.Proofs.BestEffort
import JsonDesk.Proofs.Boxes
import JsonDesk.Proofs.QuietSteps
import JsonDesk.Proofs.Transparency

set_option autoImplicit false

namespace JsonDesk

/-! ### Records -/

theorem Report.ofJson_ofText (t : Text) :
    Report.ofJson (.obj (Report.ofText t).toMembers) = .ok (Report.ofText t) := by
  unfold ofText
  cases validate t with
  | valid v => rfl
  | invalid message d =>
    have hnote : ErrorNote.ofMembers (ErrorNote.toMembers ⟨message, .ofDiagnosis d⟩) =
        ⟨(Json.str message).orEmpty, .ofDiagnosis d⟩ := by
      unfold Remark.ofDiagnosis
      cases d.place.line? <;> cases d.place.column? <;> rfl
    rw [Json.orEmpty_str] at hnote
    have hread : ofJson (.obj (ofVerdict (.invalid message d)).toMembers) = .ok ⟨false,
        some (ErrorNote.ofMembers (ErrorNote.toMembers ⟨message, .ofDiagnosis d⟩)), .null⟩ := rfl
    rw [hread, hnote]
    rfl

theorem formatBytes_ne_nil (n : Nat) : formatBytes n ≠ [] := by
  have hblank : Text.ofString " " ≠ [] := by decide
  unfold formatBytes
  split
  · decide
  · simp [Double.sizeText, hblank]

theorem Stats.ofJson_ofText (t : Text) :
    Stats.ofJson (Json.obj (Stats.ofText t).toMembers).orRecord = .ok (Stats.ofText t) := by
  have hsize : (Stats.ofText t).size ≠ [] := by
    unfold ofText
    dsimp only
    split <;> exact formatBytes_ne_nil _
  generalize Stats.ofText t = stats at hsize ⊢
  obtain ⟨keys, depth, size⟩ := stats
  have hint (i : Int) : (if (Json.int i).truthy then (Json.int i).toInt else .ok 0) = .ok i := by
    by_cases h : i = 0
    · rw [h]
      rfl
    · rw [if_pos (by simpa [Json.truthy] using h)]
      rfl
  have htext : (Json.str size).orText "0 B" = size := by
    cases size with
    | nil => exact absurd rfl hsize
    | cons c t => rfl
  have hread : Stats.ofJson (Json.obj (toMembers ⟨keys, depth, size⟩)).orRecord =
      (if (Json.int keys).truthy then (Json.int keys).toInt else .ok 0) >>= fun k =>
        (if (Json.int depth).truthy then (Json.int depth).toInt else .ok 0) >>= fun d =>
          pure ⟨k, d, (Json.str size).orText "0 B"⟩ := rfl
  rw [hread, hint, hint, htext]
  rfl

theorem Overlay.exists_markedLine (line : Option Nat) (count : Nat) :
    ∃ n, markedLine (.ofNat? line) (.ofNat count) = .ok n := by
  cases line with
  | none => exact ⟨none, rfl⟩
  | some n =>
    by_cases hline : (!(Json.int n).truthy) = true
    · exact ⟨none, if_pos hline⟩
    · by_cases hcount : decide ((count : Int) ≤ 0) = true
      · exact ⟨none, (if_neg hline).trans (if_pos hcount)⟩
      · exact ⟨_, (if_neg hline).trans (if_neg hcount)⟩

open EditorM Editor

namespace Editor

/-- The status area shows the verdict on a text, in the colours of a theme. -/
structure ShowsVerdict (e : Editor) (t : Text) (theme : Theme) : Prop where
  validity : e.status.validity = some ⟨(Report.ofText t).valid, theme⟩
  location : e.status.location =
    ((Report.ofText t).error.map fun note => note.remark.locationText).getD []
  message : e.status.message = ((Report.ofText t).error.map fun note => note.message).getD []

/-- Besides the verdict these statistics are shown; for a valid text nothing is suggested. -/
structure ShowsReport (e : Editor) (t : Text) (theme : Theme) (stats : Text) : Prop
    extends ShowsVerdict e t theme where
  suggestion : (Report.ofText t).valid = true → e.status.suggestion = .str []
  stats : e.status.stats = stats

theorem ShowsReport.of_status {e e' : Editor} {t stats : Text} {theme : Theme}
    (h : e.ShowsReport t theme stats) (hs : e'.status = e.status) : e'.ShowsReport t theme stats := by
  refine ⟨⟨?_, ?_, ?_⟩, fun hvalid => ?_, ?_⟩
  all_goals rw [hs]
  exacts [h.validity, h.location, h.message, h.suggestion hvalid, h.stats]

end Editor

namespace EditorM

variable {α : Type}

theorem attains_changeBox {e : Editor} {n : BoxName} {b : TextBox} (hb : e.box? n = some b)
    (f : TextBox → TextBox) :
    Attains (fun s => Calm e s ∧ s.box? n = some (f b)) (changeBox n f) e := by
  have hdone : Attains (fun _ => True) (changeBox n f) e := by
    refine .useBox hb ?_
    refine .bind (Q := fun _ => True) ⟨⟨⟩, rfl, trivial⟩ fun _ _ _ => ?_
    split
    · exact ⟨⟨⟩, rfl, trivial⟩
    · exact ⟨⟨⟩, rfl, trivial⟩
  exact (hdone.and ⟨overlooks_calm.changeBox n f e, box?_changeBox hb f⟩).imp fun _ h => h.2

theorem attains_onDisk {m : DiskM α} {e : Editor} {a : α} {d : Disk}
    (h : m.run.run e.disk = (.ok a, d)) : Attains (fun _ => True) (onDisk m) e := by
  refine .get ?_
  rw [h]
  exact ⟨a, rfl, trivial⟩

theorem attains_unmark {e : Editor} (hopen : e.isOpen = true) (tab : Text) :
    Attains (fun s => Calm e s ∧
      ∀ p, e.page? tab = some p → ∃ b, s.box? (.page p.number) = some b)
      (unmark (e.page? tab)) e := by
  cases hp : e.page? tab with
  | none => exact .pure _ ⟨refl_of Calm e, by simp⟩
  | some p =>
    obtain ⟨b, hb⟩ := exists_box?_of_page? hp hopen
    refine (attains_changeBox hb (TextBox.setMark none)).imp fun s hs => ⟨hs.1, ?_⟩
    intro q hq
    cases hq
    exact ⟨_, hs.2⟩

theorem attains_markLine {e : Editor} {p : Page} {b : TextBox}
    (hb : e.box? (.page p.number) = some b) (line : Option Nat) :
    Attains (Calm e) (markLine p (.ofNat? line)) e := by
  have hdone : Attains (fun _ => True) (markLine p (.ofNat? line)) e := by
    obtain ⟨n, hn⟩ := Overlay.exists_markedLine line b.content.lines.length
    refine .useBox hb (.ofExcept hn ?_)
    cases n with
    | none => exact .pure _ trivial
    | some n =>
      exact (attains_changeBox hb (TextBox.setMark (some n))).bind fun _ _ _ => ⟨⟨⟩, rfl, trivial⟩
  exact (hdone.and (overlooks_calm.markLine p _ e)).imp fun _ h => h.2

theorem attains_setLabel {e : Editor} (hopen : e.isOpen = true) (l : Label)
    (f : StatusArea → StatusArea) :
    Attains (fun s => SameTexts e s ∧ s.status = f e.status) (setLabel l f) e := by
  refine .get ?_
  rw [if_pos hopen]
  exact ⟨⟨⟩, rfl, ⟨rfl, rfl, rfl⟩, rfl⟩

theorem attains_labels {Q : Editor → Prop} {e : Editor} (hopen : e.isOpen = true) (badge : Badge)
    (location message : Text) (suggestion : Json) {k : EditorM Unit}
    (hk : ∀ s, SameTexts e s → s.status = ⟨some badge, location, message, suggestion,
      e.status.stats⟩ → Attains Q k s) :
    Attains Q (do
      setLabel .validity fun s => { s with validity := some badge }
      setLabel .location fun s => { s with location := location }
      setLabel .message fun s => { s with message := message }
      setLabel .suggestion fun s => { s with suggestion := suggestion }
      k) e := by
  refine (attains_setLabel hopen _ _).bind fun _ s₁ h₁ => ?_
  refine (attains_setLabel (h₁.1.isOpen.trans hopen) _ _).bind fun _ s₂ h₂ => ?_
  have hs₂ := trans_of SameTexts h₁.1 h₂.1
  refine (attains_setLabel (hs₂.isOpen.trans hopen) _ _).bind fun _ s₃ h₃ => ?_
  have hs₃ := trans_of SameTexts hs₂ h₃.1
  refine (attains_setLabel (hs₃.isOpen.trans hopen) _ _).bind fun _ s₄ h₄ => ?_
  exact hk s₄ (trans_of SameTexts hs₃ h₄.1) (by rw [h₄.2, h₃.2, h₂.2, h₁.2])

theorem attains_showReport {e : Editor} (hopen : e.isOpen = true) (tab t : Text) :
    Attains (fun s => s.ShowsReport t e.settings.theme e.status.stats)
      (showReport tab (Report.ofText t)) e := by
  refine .get ((attains_unmark hopen tab).bind fun _ s hs => ?_)
  obtain ⟨hcalm, hbox⟩ := hs
  have hstill : s.isOpen = true := (congrArg Core.isOpen hcalm.core).trans hopen
  have hstats := congrArg StatusArea.stats hcalm.status
  cases hv : validate t with
  | valid v =>
    have hreport : Report.ofText t = ⟨true, none, v⟩ := by
      rw [Report.ofText, hv]
      rfl
    have hlabels : Attains (fun s => s.ShowsReport t e.settings.theme e.status.stats) (do
          setLabel .validity fun s => { s with validity := some ⟨true, e.settings.theme⟩ }
          setLabel .location fun s => { s with location := [] }
          setLabel .message fun s => { s with message := [] }
          setLabel .suggestion fun s => { s with suggestion := .str [] }
          pure ()) s := by
      refine attains_labels hstill _ _ _ _ fun s' _ hs' => .pure () ⟨⟨?_, ?_, ?_⟩, fun _ => ?_, ?_⟩
      all_goals rw [hs']
      · rw [hreport]
      · rw [hreport]
        rfl
      · rw [hreport]
        rfl
      · exact hstats
    rw [hreport]
    simp only [bind_pure_unit] at hlabels
    exact hlabels
  | invalid message d =>
    have hreport : Report.ofText t = ⟨false, some ⟨message, .ofDiagnosis d⟩, .null⟩ := by
      rw [Report.ofText, hv]
      rfl
    have hshows (s' : Editor) (suggestion : Json) (hs' : s'.status =
        ⟨some ⟨false, e.settings.theme⟩, (Remark.ofDiagnosis d).locationText, message, suggestion,
          s.status.stats⟩) : s'.ShowsReport t e.settings.theme e.status.stats := by
      have hinvalid : (Report.ofText t).valid ≠ true := by simp [hreport]
      refine ⟨⟨?_, ?_, ?_⟩, fun hvalid => absurd hvalid hinvalid, ?_⟩
      all_goals rw [hs']
      · rw [hreport]
      · rw [hreport]
        rfl
      · rw [hreport]
        rfl
      · exact hstats
    rw [hreport]
    -- the labels are all set before the line is marked, which leaves them alone
    refine attains_labels hstill ⟨false, e.settings.theme⟩ _ _ _ fun s' hsame hs' => ?_
    cases hp : e.page? tab with
    | none => exact .pure () (hshows s' _ hs')
    | some p =>
      obtain ⟨b, hb⟩ := hbox p hp
      refine (attains_markLine (hsame.box? _ ▸ hb) d.place.line?).imp fun s'' hcalm' => ?_
      exact hshows s'' _ (hcalm'.status.trans hs')

theorem attains_logReport (e : Editor) (content t : Text) :
    Attains (Calm e) (logReport content (Report.ofText t)) e := by
  have hdone : Attains (fun _ => True) (logReport content (Report.ofText t)) e := by
    refine .get ?_
    split
    · refine .set ?_
      obtain ⟨b, d, hrun⟩ := Disk.run_logInvalid e.setup.now (e.filePath Editor.logFile)
        Log.liveAction content t Disk.logLimits.1 Disk.logLimits.2 e.disk
      have hdisk := attains_onDisk (e := { e with lastLogged := some content }) hrun
      exact hdisk.bind fun _ _ _ => .pure () trivial
    · exact .pure () trivial
  exact (hdone.and (overlooks_calm.logReport content _ e)).imp fun _ h => h.2

theorem attains_applyVerdict {e : Editor} (hopen : e.isOpen = true) (tab content t : Text) :
    Attains (fun s => s.ShowsReport t e.settings.theme e.status.stats)
      (applyVerdict e.run tab content (.obj (Report.ofText t).toMembers)) e := by
  refine .get ?_
  rw [if_pos rfl]
  refine .ofExcept (Report.ofJson_ofText t) ((attains_showReport hopen tab t).bind fun _ s hs => ?_)
  exact (attains_logReport s content t).imp fun s' hcalm => hs.of_status hcalm.status

theorem attains_applyStats {e : Editor} (hopen : e.isOpen = true) (t : Text) :
    Attains (fun s => s.status = { e.status with stats := (Stats.ofText t).text })
      (applyStats e.run (.obj (Stats.ofText t).toMembers)) e := by
  refine .get ?_
  rw [if_pos rfl]
  refine .ofExcept (Stats.ofJson_ofText t) ?_
  exact (attains_setLabel hopen _ _).imp fun s hs => hs.2

end EditorM

end JsonDesk
