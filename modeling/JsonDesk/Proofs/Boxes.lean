import JsonDesk.Proofs.Steps

set_option autoImplicit false

namespace JsonDesk

open EditorM Editor

namespace Editor

structure SameTexts (e e' : Editor) : Prop where
  isOpen : e'.isOpen = e.isOpen
  pages : e'.pages = e.pages
  windows : e'.windows = e.windows

instance : IsPreorder Editor SameTexts where
  refl _ := ⟨rfl, rfl, rfl⟩
  trans _ _ _ h h' :=
    ⟨h'.isOpen.trans h.isOpen, h'.pages.trans h.pages, h'.windows.trans h.windows⟩

theorem SameTexts.page? {e e' : Editor} (h : SameTexts e e') (tab : Text) :
    e'.page? tab = e.page? tab := by
  rw [Editor.page?, h.pages, Editor.page?]

theorem SameTexts.tabText {e e' : Editor} (h : SameTexts e e') (tab : Text) :
    e'.tabText tab = e.tabText tab := by
  rw [Editor.tabText, h.page?, Editor.tabText]

theorem SameTexts.box? {e e' : Editor} (h : SameTexts e e') (n : BoxName) :
    e'.box? n = e.box? n := by
  unfold Editor.box?
  rw [h.isOpen, h.pages, h.windows]

def sideText? (e : Editor) (w : Nat) (s : Side) : Option Text :=
  e.windows[w]?.map fun window => (window.view s).box.content

theorem SameTexts.sideText? {e e' : Editor} (h : SameTexts e e') (w : Nat) (s : Side) :
    e'.sideText? w s = e.sideText? w s := by
  rw [Editor.sideText?, h.windows, Editor.sideText?]

theorem sideText?_of_box? {e : Editor} {w : Nat} {s : Side} {b : TextBox}
    (h : e.box? (.side w s) = some b) : e.sideText? w s = some b.content := by
  unfold box? at h
  split at h
  · simp only [Option.map_eq_some_iff, Option.filter_eq_some_iff] at h
    obtain ⟨window, ⟨hwindow, -⟩, rfl⟩ := h
    rw [Editor.sideText?, hwindow]
    rfl
  · cases h

end Editor

namespace EditorM

theorem view_setView (window : CompareWindow) (s : Side) (v : SideView) :
    (window.setView s v).view s = v := by
  cases s <;> rfl

theorem alive_setView (window : CompareWindow) (s : Side) (v : SideView) :
    (window.setView s v).alive = window.alive := by
  cases s <;> rfl

theorem isOpen_of_box? {e : Editor} {n : BoxName} {b : TextBox} (h : e.box? n = some b) :
    e.isOpen = true := by
  unfold box? at h
  split at h
  · assumption
  · cases h

theorem find?_setBox (e : Editor) (n : Nat) (b : TextBox) {key : Page → Bool}
    (hkey : ∀ p : Page, key { p with box := b } = key p) :
    (e.setBox (.page n) b).pages.find? key =
      (e.pages.find? key).map fun p => if p.number = n then { p with box := b } else p := by
  have hfound : (key ∘ fun p => if p.number = n then { p with box := b } else p) = key := by
    funext p
    rw [Function.comp_apply]
    split
    · exact hkey p
    · rfl
  rw [setBox, modifyPage, List.find?_map, hfound]

theorem box?_setBox {e : Editor} {n : BoxName} {b : TextBox} (h : e.box? n = some b)
    (b' : TextBox) : (e.setBox n b').box? n = some b' := by
  have hopen := isOpen_of_box? h
  cases n with
  | page k =>
    simp only [box?, hopen, if_true, Option.map_eq_some_iff] at h
    obtain ⟨p, hp, -⟩ := h
    have hnumber : p.number = k := by simpa using List.find?_some hp
    have hfind : (e.setBox (.page k) b').pages.find? (fun p => p.number = k) = _ :=
      find?_setBox e k b' fun _ => rfl
    rw [hp, Option.map_some, if_pos hnumber] at hfind
    have hstill : (e.setBox (.page k) b').isOpen = true := hopen
    rw [box?, if_pos hstill, hfind]
    rfl
  | side w s =>
    simp only [box?, hopen, if_true, Option.map_eq_some_iff, Option.filter_eq_some_iff] at h
    obtain ⟨window, ⟨hwindow, halive⟩, -⟩ := h
    simp only [box?, setBox, modifyWindow, hopen, if_true, List.getElem?_modify_eq, hwindow,
      Option.map_eq_map, Option.map_some, Option.filter_some, alive_setView, halive, view_setView]

theorem page?_setBox {e : Editor} {tab : Text} {p : Page} (h : e.page? tab = some p)
    (b : TextBox) : (e.setBox (.page p.number) b).page? tab = some { p with box := b } := by
  have hfind : (e.setBox (.page p.number) b).pages.find? (fun q => q.tab = tab) = _ :=
    find?_setBox e p.number b fun _ => rfl
  unfold page? at h ⊢
  rw [hfind, h, Option.map_some, if_pos rfl]

theorem after_changeBox {e : Editor} {n : BoxName} {b : TextBox} (h : e.box? n = some b)
    (f : TextBox → TextBox) : SameTexts (e.setBox n (f b)) (after (changeBox n f) e) := by
  unfold changeBox
  rw [after_useBox_bind, h]
  dsimp only
  rw [after_modify_bind]
  split
  · exact ⟨rfl, rfl, rfl⟩
  · exact refl_of SameTexts _

theorem after_changeBox_bind {α : Type} {e : Editor} {n : BoxName} {b : TextBox}
    (h : e.box? n = some b) (f : TextBox → TextBox) (g : Unit → EditorM α) :
    after (changeBox n f >>= g) e = after (g ()) (after (changeBox n f) e) := by
  unfold changeBox
  rw [bind_assoc, after_useBox_bind, after_useBox_bind, h]
  dsimp only
  rw [bind_assoc, after_modify_bind, after_modify_bind]
  split
  · rfl
  · rfl

theorem after_changeBox_bind_none {α : Type} {e : Editor} {n : BoxName} (h : e.box? n = none)
    (f : TextBox → TextBox) (g : Unit → EditorM α) : after (changeBox n f >>= g) e = e := by
  unfold changeBox
  rw [bind_assoc, after_useBox_bind, h]

theorem box?_changeBox {e : Editor} {n : BoxName} {b : TextBox} (h : e.box? n = some b)
    (f : TextBox → TextBox) : (after (changeBox n f) e).box? n = some (f b) := by
  rw [(after_changeBox h f).box?, box?_setBox h]

theorem page?_changeBox {e : Editor} {tab : Text} {p : Page} {b : TextBox}
    (h : e.page? tab = some p) (hb : e.box? (.page p.number) = some b) (f : TextBox → TextBox) :
    (after (changeBox (.page p.number) f) e).page? tab = some { p with box := f b } := by
  rw [(after_changeBox hb f).page?, page?_setBox h]

theorem exists_box?_of_page? {e : Editor} {tab : Text} {p : Page} (h : e.page? tab = some p)
    (hopen : e.isOpen = true) : ∃ b, e.box? (.page p.number) = some b := by
  have hmem : p ∈ e.pages := List.mem_of_find?_eq_some h
  simp only [box?, hopen, if_true, Option.map_eq_some_iff]
  cases hfind : e.pages.find? fun q => q.number = p.number with
  | none => simpa using List.find?_eq_none.mp hfind p hmem
  | some q => exact ⟨q.box, q, rfl, rfl⟩

theorem box?_of_closed {e : Editor} (h : ¬ e.isOpen = true) (n : BoxName) : e.box? n = none := by
  simp [box?, h]

end EditorM

end JsonDesk
