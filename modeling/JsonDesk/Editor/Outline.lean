import JsonDesk.Editor

/-!
The widgets of the editor and how they are configured, from the top of a window downwards.  The
outline follows from the state: no widget has a memory of its own.
-/

set_option autoImplicit false

namespace JsonDesk

/-- A widget: where it is, its options, and how it is packed if it is. -/
structure Widget where
  path : Text
  options : Members
  packing : Option Members

namespace Widget

def text (t : String) : Json := .str (Text.ofString t)

def entry (name : String) (v : Json) : Text × Json := (Text.ofString name, v)

def pair (a b : Nat) : Json := .arr [.int a, .int b]

def callable : Json := .str "<fn>"

def aside (side : String) (more : Members) : Option Members :=
  some (entry "side" (text side) :: more)

def padX (v : Json) : Members := [entry "padx" v]

def padY (v : Json) : Members := [entry "pady" v]

def filling (axis : String) : Members := [entry "fill" (text axis)]

def expanding : Members := filling "both" ++ [entry "expand" (.bool true)]

def label (path : Text) (t : Json) (packing : Option Members) : Widget :=
  ⟨path, [entry "text" t], packing⟩

def button (path t : Text) (packing : Option Members) : Widget :=
  ⟨path, [entry "text" (.str t), entry "command" callable], packing⟩

def separator (path : Text) : Widget :=
  ⟨path, [entry "orient" (text "vertical")], aside "left" (filling "y" ++ padX (.int 8))⟩

def pane (weight : Nat) : Members := [entry "pane" (.obj [entry "weight" (.int weight)])]

def ground (colour : Text) : Members := [entry "background" (.str colour)]

def ink (colour : Text) : Members := [entry "foreground" (.str colour)]

def tag (name : String) (colours : Members) : Members := [entry ("tag:" ++ name) (.obj colours)]

def area (p : Palette) : Members :=
  ground p.textBackground ++ ink p.foreground ++ [entry "insertbackground" (.str p.caret)]

def unwrapped : Members := [entry "wrap" (text "none")]

def editable (size : Int) : Members :=
  unwrapped ++
    [entry "undo" (.bool true),
      entry "font" (.arr [text "TkFixedFont", .obj [entry "size" (.int size)]])]

def badge (path : Text) (b : Option Badge) (words : Bool → Text) (packing : Option Members) :
    Widget :=
  match b with
  | none => label path (.str []) packing
  | some b => ⟨path, entry "text" (.str (words b.valid)) :: ink b.colour, packing⟩

end Widget

namespace Editor

open Widget

def toolBar (e : Editor) : List Widget :=
  let spaced := aside "left" (padX (pair 6 0))
  [⟨".!frame", [], some (filling "x" ++ padX (.int 8) ++ padY (pair 8 4))⟩,
    button ".!frame.!button" "Open" (aside "left" []),
    button ".!frame.!button2" "Save" spaced,
    button ".!frame.!button3" "Copy" spaced,
    separator ".!frame.!separator",
    button ".!frame.!button4" "Format" (aside "left" []),
    button ".!frame.!button5" "Minify" spaced,
    button ".!frame.!button6" "Sort Keys" spaced,
    button ".!frame.!button7" "Compare" spaced,
    separator ".!frame.!separator2",
    button ".!frame.!button8" "New Tab" (aside "left" []),
    button ".!frame.!button9" "Close Tab" spaced,
    ⟨".!frame.!frame", [], aside "right" []⟩,
    label ".!frame.!frame.!label" (text "Indent:") (aside "left" (padX (pair 0 4))),
    ⟨".!frame.!frame.!combobox",
      [entry "textvariable" (.arr [text "var", .str e.indentChoice]),
        entry "values" (.arr [text "2", text "4"]), entry "width" (.int 3),
        entry "state" (text "readonly")],
      aside "left" []⟩,
    button ".!frame.!frame.!button" (e.settings.theme.other.title ++ " Theme")
      (aside "left" (padX (pair 8 0)))]

def pageWidgets (e : Editor) (p : Page) : List Widget :=
  let path := pagePath p.number
  let colours := p.theme.palette
  [⟨path, [entry "text" (.str p.title)], none⟩,
    ⟨path ++ ".!text",
      editable e.settings.fontSize ++ area colours
        ++ [entry "yscrollcommand" callable, entry "selectbackground" (.str colours.selection),
          entry "selectforeground" (.str colours.selected)]
        ++ tag "error_line" (ground colours.errorBackground ++ ink colours.errorForeground),
      aside "left" expanding⟩,
    ⟨path ++ ".!scrollbar", [entry "orient" (text "vertical"), entry "command" callable],
      aside "right" (filling "y")⟩]

/-- All pages that are there, in the order in which they were made. -/
def allPages (e : Editor) : List Page :=
  (e.pages ++ e.strayPages).mergeSort fun p q => decide (p.number ≤ q.number)

def statusWidgets (e : Editor) : List Widget :=
  let s := e.status
  let spaced := aside "left" (padX (pair 10 0))
  let across : Option Members := some (filling "x" ++ padX (.int 8) ++ padY (pair 0 8))
  [⟨".!frame2", [], across⟩,
    badge Label.validity.path s.validity (fun v => if v then "Valid JSON" else "Invalid JSON")
      (aside "left" []),
    label Label.location.path (.str s.location) spaced,
    label Label.message.path (.str s.message) spaced,
    label Label.stats.path (.str s.stats) (aside "right" []),
    ⟨Label.suggestion.path, [entry "text" s.suggestion, entry "anchor" (text "w")], across⟩]

def title : Text := "JsonSmith v1.0.0"

def mainOutline (e : Editor) : List Widget :=
  [⟨".", entry "title" (.str title) :: ground e.palette.background, none⟩]
    ++ e.toolBar
    ++ [⟨".!notebook", [], some (expanding ++ padX (.int 8) ++ padY (pair 0 4))⟩]
    ++ e.allPages.flatMap e.pageWidgets
    ++ e.statusWidgets

def sideWidgets (e : Editor) (i : Nat) (w : CompareWindow) (s : Side) : List Widget :=
  let path := sidePath i s
  let title := match s with
    | .left => "Original"
    | .right => "Modified"
  [⟨path, pane 1, none⟩,
    ⟨path ++ ".!frame", [], some (filling "x" ++ padY (pair 0 4))⟩,
    label (path ++ ".!frame.!label") (text title) (aside "left" []),
    button (path ++ ".!frame.!button") "Format" (aside "right" []),
    badge (path ++ ".!frame.!label2") (w.view s).badge (fun v => if v then "Valid" else "Invalid")
      (aside "right" (padX (pair 0 8))),
    ⟨path ++ ".!text", editable e.settings.fontSize ++ area w.theme.palette, some expanding⟩]

/-- A compare window; nothing is inside one that has been destroyed. -/
def compareOutline (e : Editor) (i : Nat) (w : CompareWindow) : List Widget :=
  let path := windowPath i
  let colours := w.theme.palette
  let body := path ++ ".!panedwindow"
  let results := body ++ ".!frame"
  let inside : List Widget :=
    [⟨path ++ ".!frame", [], some (filling "x" ++ padX (.int 8) ++ padY (pair 8 4))⟩,
      label (path ++ ".!frame.!label") (text "Compare JSON") (aside "left" []),
      button (path ++ ".!frame.!button") "Close" (aside "right" []),
      button (path ++ ".!frame.!button2") "Swap" (aside "right" (padX (pair 0 6))),
      ⟨body, [entry "orient" (text "vertical")],
        some (expanding ++ padX (.int 8) ++ padY (pair 0 8))⟩,
      ⟨body ++ ".!panedwindow", entry "orient" (text "horizontal") :: pane 4, none⟩]
    ++ e.sideWidgets i w .left ++ e.sideWidgets i w .right
    ++ [⟨results, pane 1, none⟩,
      label (results ++ ".!label") (.str w.summary)
        (some (entry "anchor" (text "w") :: padY (pair 4 2))),
      ⟨results ++ ".!text",
        unwrapped ++ area colours
          ++ [entry "height" (.int 8), entry "state" (text "disabled")]
          ++ tag "added" (ink colours.added) ++ tag "removed" (ink colours.removed)
          ++ tag "changed" (ink colours.changed),
        some expanding⟩]
  ⟨path, [entry "title" (text "Compare JSON"), entry "geometry" (text "1100x700")], none⟩
    :: if w.alive then inside else []

/-- The styles of the widgets that have no colours of their own, and the theme of the window
system if it was accepted. -/
def styles (e : Editor) : Members :=
  let p := e.palette
  let plain : Json := .obj (ground p.background ++ ink p.foreground)
  [entry "." plain, entry "TLabel" plain, entry "TFrame" (.obj (ground p.background)),
    entry "TNotebook" (.obj (ground p.background)),
    entry "TNotebook.Tab" (.obj (ground p.panel ++ ink p.foreground))]
    ++ if e.styled then [entry "theme" (text "clam")] else []

end Editor

end JsonDesk
