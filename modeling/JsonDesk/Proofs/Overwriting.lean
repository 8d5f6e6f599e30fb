import JsonDesk.Proofs.Boxes
import JsonDesk.Proofs.Requests

/-!
What becomes of a text on the screen when it comes back in another form.  In a tab it is replaced
whatever it has become in the meantime, so that newer edits are lost; in a compare window it is
replaced only if it is still the text that was sent away.
-/

set_option autoImplicit false

namespace JsonDesk

open EditorM Editor

namespace EditorM

theorem sameTexts_call {α : Type} (m : EditorM α) (e : Editor) :
    SameTexts (after m e) (call m e).2 := by
  rw [call_snd]
  split
  · exact refl_of SameTexts _
  · exact ⟨rfl, rfl, rfl⟩

/-! ### Requests change no text -/

theorem sameTexts_ignoresRequests : IgnoresRequests SameTexts :=
  fun _ _ _ _ _ _ _ => ⟨rfl, rfl, rfl⟩

theorem still_warnIfInvalid (payload : Json) : Leads SameTexts (warnIfInvalid payload) :=
  .bind (.ofExcept _) fun _ => .ite (fun _ => .setLabel fun _ => ⟨rfl, rfl, rfl⟩) fun _ => .pure _

theorem tabText_replaceText {e : Editor} {tab : Text} {p : Page} (h : e.page? tab = some p)
    (t : Text) : (after (replaceText (.page p.number) t) e).tabText tab =
      if e.isOpen then t else e.tabText tab := by
  unfold replaceText
  split
  · next hopen =>
    obtain ⟨b, hb⟩ := exists_box?_of_page? h hopen
    have hpage := page?_changeBox h hb TextBox.clear
    have happend := page?_changeBox hpage (box?_changeBox hb TextBox.clear) (TextBox.append t)
    rw [after_changeBox_bind hb, tabText, happend]
    simp [TextBox.content_append, TextBox.content_clear]
  · next hclosed => rw [after_changeBox_bind_none (box?_of_closed hclosed _)]

theorem tabText_applyReshape (e : Editor) (tab content : Text) (payload : Json) :
    (after (applyReshape tab content payload) e).tabText tab =
      match payload, e.page? tab with
      | .str t, some _ => if e.isOpen ∧ t ≠ content then t else e.tabText tab
      | _, _ => e.tabText tab := by
  unfold applyReshape
  rw [after_get_bind]
  cases payload with
  | str t =>
    cases hp : e.page? tab with
    | none => rfl
    | some p =>
      dsimp only
      split
      · next heq =>
        have hstill : Leads SameTexts (if !content.isBlank then
            ask .validate (.str content) .warning warnIfInvalid else pure ()) :=
          .ite (fun _ _ => sameTexts_ignoresRequests.ask _ _ _ fun _ => still_warnIfInvalid)
            fun _ => .pure _
        rw [(hstill e).tabText]
        simp [heq]
      · next hne => simp [tabText_replaceText hp, hne]
  | _ => rfl

theorem sideText?_applySide {e : Editor} {w : Nat} {s : Side} {content : Text} {payload : Json}
    (h : (after (applySide w s content payload) e).sideText? w s ≠ e.sideText? w s) :
    e.sideText? w s = some content := by
  unfold applySide at h
  split at h
  · split at h
    · rw [after_useBox_bind] at h
      split at h
      · next b hb =>
        split at h
        · next hcontent =>
          have hopen := isOpen_of_box? hb
          simp only [box?, hopen, if_true, Option.map_eq_some_iff,
            Option.filter_eq_some_iff] at hb
          obtain ⟨window, ⟨hwindow, -⟩, rfl⟩ := hb
          rw [sideText?, hwindow, ← hcontent]
          rfl
        · exact absurd rfl h
      · exact absurd rfl h
    · exact absurd rfl h
  · exact absurd rfl h

end EditorM

namespace Editor

theorem Delivers.expected {e : Editor} {r : Reply} {payload : Json} {event : Event}
    (h : Delivers e r payload event) {P : Reply → Prop} (he : Expects P e) : P r := by
  cases h with
  | response hreceive =>
    obtain ⟨-, hresult⟩ := Client.receive_ok hreceive
    obtain ⟨w, hw, rfl⟩ := hresult r payload rfl
    exact he.waiting w hw
  | timer _ hdue hjob => exact he.postponed _ (mem_of_dueTimer? hdue) r payload hjob

theorem Delivers.handled {e e' : Editor} {r : Reply} {payload : Json} {event : Event}
    (h : Delivers e r payload event) (hnext : e.next? event = some e') :
    ∃ e₁, SameTexts e e₁ ∧ SameTexts (after (r.handle payload) e₁) e' := by
  obtain ⟨c, timers, now, -, -, heq⟩ := h.next?_eq hnext
  rw [heq]
  exact ⟨{ e with client := c, timers := timers, now := now }, ⟨rfl, rfl, rfl⟩, sameTexts_call _ _⟩

/-- In every run of an editor, a reply that reshapes a text was asked for by the press of a button
when the text was what the reply says.  A tab takes the reshaped text over, unless it is the same,
whatever the text of the tab is by then; a side of a compare window takes it over only if its text
is still the one that was sent away. -/
theorem reshaped_text_delivered {setup : Setup} {disk : Disk} {refused : List Command}
    {path : Text} {e₀ e e' : Editor} {past : List (Editor × Event)} {event : Event} {payload : Json}
    (hstart : start setup disk refused path = .ok e₀) (hrun : Run e₀ past e)
    (hnext : e.next? event = some e') :
    (∀ tab content, Delivers e (.reshape tab content) payload event →
      (∃ e₁ a, (e₁, Event.act a) ∈ past ∧ Asks e₁ a (.reshape tab content)) ∧
      e'.tabText tab = match payload, e.page? tab with
        | .str t, some _ => if e.isOpen ∧ t ≠ content then t else e.tabText tab
        | _, _ => e.tabText tab) ∧
    ∀ w s content, Delivers e (.reshapeSide w s content) payload event →
      (∃ e₁ a, (e₁, Event.act a) ∈ past ∧ Asks e₁ a (.reshapeSide w s content)) ∧
      (e'.sideText? w s ≠ e.sideText? w s → e.sideText? w s = some content) := by
  have hasked : Expects (Asked past) e := hrun.expects (expects_start hstart)
  constructor
  · intro tab content hd
    refine ⟨hd.expected hasked rfl, ?_⟩
    obtain ⟨e₁, hbefore, hafter⟩ := hd.handled hnext
    rw [hafter.tabText, Reply.handle, tabText_applyReshape, hbefore.page?, hbefore.isOpen,
      hbefore.tabText]
  · intro w s content hd
    refine ⟨hd.expected hasked rfl, fun hne => ?_⟩
    obtain ⟨e₁, hbefore, hafter⟩ := hd.handled hnext
    rw [hafter.sideText?, ← hbefore.sideText?] at hne
    rw [← hbefore.sideText?]
    exact sideText?_applySide hne

/-- The text of a tab is sent away to be formatted, and replaced by another text before it comes
back formatted: then the other text is lost. -/
theorem reshaped_text_delivered_late :
    ∃ setup e₀ past e event e', start setup .empty [] [] = .ok e₀ ∧ Run e₀ past e ∧
      e.next? event = some e' ∧ Delivers e (.reshape "t0" "[1]") (.str "[\n  1\n]") event ∧
      e.tabText "t0" = "[2]" ∧ e'.tabText "t0" = "[\n  1\n]" := by
  have hscene : (match start ⟨.remote, [], ⟨2000, 1, 1, 0, 0, 0⟩, fun n => "t" ++ Text.ofNat n⟩
      .empty [] [] with
    | .ok e₀ => (e₀.follow [.act (.edit 0 (.replace "[1]")), .act (.press (.reshape .format)),
        .act (.edit 0 (.replace "[2]"))]).map fun e =>
          (e.isOpen, (e.page? "t0").isSome, e.tabText "t0",
            (e.client.find? "t2").map (·.onResult))
    | .error _ => none) =
      some (true, true, Text.ofString "[2]", some (Reply.reshape "t0" "[1]")) := by decide +kernel
  split at hscene
  · next e₀ hstart =>
    obtain ⟨e, hfollow, hscene⟩ := Option.map_eq_some_iff.mp hscene
    simp only [Prod.mk.injEq] at hscene
    obtain ⟨hopen, hpage, htext, hwaiting⟩ := hscene
    obtain ⟨past, hrun, -⟩ := run_of_follow hfollow
    obtain ⟨p, hp⟩ := Option.isSome_iff_exists.mp hpage
    obtain ⟨w, hw, hreply⟩ := Option.map_eq_some_iff.mp hwaiting
    have hreceive : e.client.receive (fun message => (respond message).toJson)
        (.obj [("id", .str "t2"), ("type", .str "FORMAT_RESULT"), ("payload", .str "[\n  1\n]")]) =
          .ok (e.client.forget "t2",
            some (.result (.reshape "t0" "[1]") (.str "[\n  1\n]"))) := by
      have hid : Json.field [("id", .str "t2"), ("type", .str "FORMAT_RESULT"),
          ("payload", .str "[\n  1\n]")] "id" = .str "t2" := rfl
      rw [← hreply]
      simp only [Client.receive, hid, hw]
      rfl
    have hd := Delivers.response hreceive
    refine ⟨_, e₀, past, e, _, _, hstart, hrun, rfl, hd, htext, ?_⟩
    rw [((reshaped_text_delivered hstart hrun rfl).1 _ _ hd).2, hp, hopen]
    exact if_pos ⟨rfl, by decide⟩
  · cases hscene

end Editor

end JsonDesk
