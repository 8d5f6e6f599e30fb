import JsonDesk.Report
import JsonDesk.Stamp

set_option autoImplicit false

namespace JsonDesk

namespace Log

def marker : Text := "\n---\n"

def span : Nat := 2

def liveAction : Text := "live_validate"

/-- The bounds of the lines around a loosely typed line number in a text of so many lines: the
first line and the one after the last. -/
def window (target : Json) (count : Nat) : Except Failure (Int × Int) :=
  match target.numeric? with
  | none => .error (.badOperands "-" target.typeName "int")
  | some (.int n) => .ok (max (n - span) 1, min (n + span) count + 1)
  | some (.float d) =>
    let tops (x : Double) (i : Int) : Bool := x.lt ((Double.ofInt? i).getD .zero)
    let passes (x : Double) (i : Int) : Bool := ((Double.ofInt? i).getD .zero).lt x
    if tops (d.addInt (-span)) 1 ∧ passes (d.addInt span) count then .ok (1, (count : Int) + 1)
    else .error (.notAnIndex "float")

def context (lines : List Text) (first stop : Int) : List Text :=
  let n := first.toNat
  ((lines.drop (n - 1)).take (stop - first).toNat).mapIdx fun i line =>
    Text.ofNat (n + i) ++ ": " ++ line

def entry (now : Stamp) (action text : Text) (report : Report) : Except Failure Text := do
  let lines := text.lines
  let remark := (report.error.map (·.remark)).getD ⟨.null, .null, .null⟩
  let target := if remark.line.truthy then remark.line else .int 1
  let (first, stop) ← window target lines.length
  let shown := (Text.join "\n" (context lines first stop)).stripRight
  return marker ++ "time=" ++ now.text ++ " action=" ++ action ++ "\nmsg="
    ++ (report.error.map (·.message)).getD [] ++ " line=" ++ remark.line.display
    ++ " col=" ++ remark.column.display ++ "\nsuggestion=" ++ remark.suggestion.orText "-"
    ++ "\n" ++ shown ++ "\n"

/-- The last so many code points, and all of them if there are no more or no limit. -/
def lastPart (limit : Nat) (t : Text) : Text :=
  if limit = 0 then t else t.drop (t.length - limit)

/-- The newest block of a log: what follows the last marker, without white space around it. -/
def latestBlock (text marker : Text) (limit : Json) : Except Failure Text :=
  if text.isSpace then .ok []
  else
    let block := ((text.afterLast? marker).getD text).strip
    if block = [] then .ok []
    else do return lastPart (← limit.toInt).toNat block

end Log

end JsonDesk
