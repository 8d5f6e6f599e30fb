import JsonDesk.Editor.Outline
import JsonDesk.Report

set_option autoImplicit false

namespace JsonDesk

def Badge.toJson (words : Bool → Text) (b : Option Badge) : Json :=
  match b with
  | none => .arr [.str [], .null]
  | some b => .arr [.str (words b.valid), .str b.colour]

def Row.toJson (r : Row) : Json := .arr [.str r.text, .arr [.str r.type]]

namespace Notice

def fileTypes : Json :=
  .arr [.arr [.str "JSON files", .str "*.json"], .arr [.str "All files", .str "*.*"]]

def dialog (name : String) (texts : List Text) (options : Members) : Json :=
  .arr [Widget.text name, .arr (texts.map .str), .obj options]

/-- The failures are worded by the caller; that rows were listed shows in the window itself. -/
def toJson (failure : Failure → List Text) : Notice → Option Json
  | askedOpenPath =>
    some (dialog "askopenfilename" []
      [Widget.entry "filetypes" fileTypes, Widget.entry "title" (.str "Open JSON")])
  | askedSavePath suggested =>
    some (dialog "asksaveasfilename" []
      [Widget.entry "defaultextension" (.str ".json"), Widget.entry "filetypes" fileTypes,
        Widget.entry "initialfile" (.str suggested), Widget.entry "title" (.str "Save JSON")])
  | askedTabName current =>
    some (dialog "askstring" ["Rename Tab", "Tab name:"]
      [Widget.entry "initialvalue" (.str current)])
  | showedError title message => some (dialog "showerror" [title, message] [])
  | scrolled box line =>
    some (.arr [.str "see", .str box.path, .str (Overlay.lineSpan line).1])
  | lifted w => some (.arr [.str "lift", .str (windowPath w)])
  | failed f => some (.arr (.str "callback_error" :: (failure f).map .str))
  | listed .. => none

end Notice

def Widget.toJson (w : Widget) : Json :=
  .arr [.str w.path, .obj w.options, (w.packing.map Json.obj).getD .null]

def CompareWindow.toJson (w : CompareWindow) (rows : List Row) : Json :=
  let words (valid : Bool) : Text := if valid then "Valid" else "Invalid"
  .obj [Widget.entry "alive" (.bool w.alive), Widget.entry "left" (.str w.left.box.content),
    Widget.entry "right" (.str w.right.box.content),
    Widget.entry "left_status" (Badge.toJson words w.left.badge),
    Widget.entry "right_status" (Badge.toJson words w.right.badge),
    Widget.entry "summary" (.str w.summary), Widget.entry "rows" (.arr (rows.map Row.toJson))]

def StatusArea.toJson (s : StatusArea) : Json :=
  .arr [Badge.toJson (fun v => if v then "Valid JSON" else "Invalid JSON") s.validity,
    .str s.location, .str s.message, s.suggestion, .str s.stats]

def Settings.toJson (s : Settings) : Json := .arr (s.toMembers.map (·.2))

namespace Editor

def shownPosition? (e : Editor) : Option Nat :=
  e.shown.bind fun n => e.pages.findIdx? fun p => p.number = n

def clockMembers (e : Editor) : Members :=
  let delays := (e.timers.map fun t => t.due - e.now).mergeSort fun a b => decide (a ≤ b)
  let posted : Json := .arr (e.posted.map fun m =>
    match m with
    | .obj ms => Json.field ms "type"
    | _ => .null)
  [Widget.entry "now" (.int e.now), Widget.entry "timers" (.arr (delays.map .int)),
    Widget.entry "clipboard" ((e.clipboard.map Json.str).getD .null)]
    ++ if e.setup.engine = .remote then [Widget.entry "posted" posted] else []

def shownMembers (e : Editor) (mark : Page → Option Int)
    (rows : Nat → CompareWindow → List Row) : Members :=
  let page (p : Page) : Json :=
    let ranges := (mark p).toList.map fun n =>
      let span := Overlay.lineSpan n
      Json.arr [.str span.1, .str span.2]
    .arr [.str p.title, .str p.box.content, .arr ranges]
  let compare := e.comparing.bind fun i => e.windows[i]?.map fun w => w.toJson (rows i w)
  [Widget.entry "pages" (.arr (e.pages.map page)),
    Widget.entry "selected" (.ofNat? e.shownPosition?),
    Widget.entry "session" (.arr (e.session.tabs.map fun t =>
      .arr [.str t.id, .str t.name, .str t.content])),
    Widget.entry "active" (.str e.session.activeId),
    Widget.entry "status" e.status.toJson,
    Widget.entry "settings" e.settings.toJson,
    Widget.entry "theme"
      (.arr [.str (e.settings.theme.other.title ++ " Theme"), .str e.palette.background]),
    Widget.entry "pending" (.ofNat e.client.pendingCount),
    Widget.entry "compare" (compare.getD .null)]

end Editor

end JsonDesk
