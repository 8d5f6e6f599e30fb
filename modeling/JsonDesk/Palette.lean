import JsonDesk.Json.Convert

set_option autoImplicit false

namespace JsonDesk

inductive Theme
  | dark | light
deriving DecidableEq

namespace Theme

def name : Theme → Text
  | dark => "dark"
  | light => "light"

def title : Theme → Text
  | dark => "Dark"
  | light => "Light"

def other : Theme → Theme
  | dark => light
  | light => dark

/-- The theme of a name, whatever its case and the white space around it. -/
def ofName? (t : Text) : Option Theme :=
  let word := t.strip.lower
  [dark, light].find? fun theme => theme.name = word

end Theme

structure Palette where
  background : Text
  panel : Text
  foreground : Text
  muted : Text
  textBackground : Text
  caret : Text
  selection : Text
  selected : Text
  errorBackground : Text
  errorForeground : Text
  valid : Text
  invalid : Text
  added : Text
  removed : Text
  changed : Text

def Theme.palette : Theme → Palette
  | .dark =>
    ⟨"#0f141c", "#151c27", "#e6edf5", "#7d8ba0", "#0b1017", "#e6edf5", "#2e4e67", "#ffffff",
      "#5a0f16", "#ffdce1", "#6fd19a", "#ff7b86", "#6fd19a", "#ff7b86", "#f2c46d"⟩
  | .light =>
    ⟨"#f4f6f9", "#ffffff", "#1c2430", "#5f6b7a", "#ffffff", "#1c2430", "#b9d4ea", "#1c2430",
      "#ffdce1", "#5a0f16", "#1f7a48", "#b3202f", "#1f7a48", "#b3202f", "#8a5a00"⟩

namespace Palette

/-- The palette of a loosely typed theme name; unknown names have the dark one. -/
def ofName (theme : Json) : Palette := ((Theme.ofName? theme.orEmpty).getD .dark).palette

def toMembers (p : Palette) : Members :=
  [("bg", .str p.background), ("panel_bg", .str p.panel), ("fg", .str p.foreground),
    ("muted_fg", .str p.muted), ("text_bg", .str p.textBackground), ("insert_bg", .str p.caret),
    ("select_bg", .str p.selection), ("select_fg", .str p.selected),
    ("error_line_bg", .str p.errorBackground), ("error_line_fg", .str p.errorForeground),
    ("valid_fg", .str p.valid), ("invalid_fg", .str p.invalid), ("added_fg", .str p.added),
    ("removed_fg", .str p.removed), ("changed_fg", .str p.changed)]

def row (p : Palette) (type : Json) : Text :=
  match type with
  | .str t =>
    if t = Text.ofString "added" then p.added
    else if t = Text.ofString "removed" then p.removed
    else if t = Text.ofString "changed" then p.changed
    else p.foreground
  | _ => p.foreground

end Palette

end JsonDesk
