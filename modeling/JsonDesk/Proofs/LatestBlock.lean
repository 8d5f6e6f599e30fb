import JsonDesk.Proofs.LineEnds
import JsonDesk.Proofs.LogBounds
import JsonDesk.Proofs.Occurrences

/-!
The newest block of a log.  An entry is read back whole, with one kind of line end, unless it has a
carriage return in it with three dashes behind that fill the line: they are taken for a marker.
Nothing else in an entry can be, and nothing before it.
-/

set_option autoImplicit false

namespace JsonDesk

namespace Text

variable {t : Text} {e : CodePoint}

theorem IsEnd.val_lt (he : IsEnd e) : e.val < 0x20 := by
  rcases he with rfl | rfl <;> decide

theorem IsEnd.not_mem (he : IsEnd e) (ht : Inline t) : e ∉ t :=
  fun h => absurd (ht e h).1 (Nat.not_le.mpr he.val_lt)

end Text

namespace Log
open Text

variable {now : Stamp} {t u b : Text} {e : CodePoint}

/-! ### Markers -/

def dashes : Text := "---"

/-- What is read as a marker in an entry, though there is none: a carriage return, dashes and another
line end. -/
def Forged (t : Text) : Prop := ∃ e, IsEnd e ∧ CodePoint.ofChar '\r' :: dashes ++ [e] <:+: t

/-- Behind a marker the last one is found in what follows, if there is one, and else it is this. -/
theorem afterLast?_marker (s : Text) (hu : u.head? ≠ some (CodePoint.ofChar '-')) :
    afterLast? (s ++ (marker ++ u)) marker = some ((u.afterLast? marker).getD u) := by
  have hwhole : after? marker (marker ++ u) = some u := after?_eq_some_iff.mpr rfl
  have hdash (r : Text) : after? marker (CodePoint.ofChar '-' :: r) = none := if_neg (by decide)
  have hlast : after? marker (CodePoint.ofChar '\n' :: u) = none := by
    refine after?_eq_none_iff.mpr fun hmarker => ?_
    obtain ⟨r, hr⟩ := hmarker
    exact hu ((List.cons.inj hr).2 ▸ rfl)
  refine afterLast?_append s ?_
  have hspelled : marker ++ u = CodePoint.ofChar '\n' :: CodePoint.ofChar '-' ::
      CodePoint.ofChar '-' :: CodePoint.ofChar '-' :: CodePoint.ofChar '\n' :: u := rfl
  rw [hspelled] at hwhole ⊢
  simp only [afterLast?_cons, hwhole, hdash, hlast, Option.or_none]
  cases u.afterLast? marker <;> rfl

theorem strip_afterLast?_iff :
    ((u.afterLast? marker).getD u).strip = u.strip ↔ ¬ marker <:+: u := by
  rw [← afterLast?_eq_none_iff]
  cases hlast : u.afterLast? marker with
  | none => simp
  | some r =>
    refine iff_of_false (fun h => ?_) (by simp)
    obtain ⟨s, rfl⟩ := exists_of_afterLast? hlast
    have hvisible := congrArg visible h
    have hmarker : marker.visible = 3 := by decide
    simp only [Option.getD_some, visible_strip, visible_append, hmarker] at hvisible
    omega

theorem latestBlock_eq (hspace : t.isSpace = false) :
    latestBlock t marker (.ofNat 0) = .ok ((t.afterLast? marker).getD t).strip := by
  unfold latestBlock
  rw [hspace]
  dsimp only
  split
  · next h => cases h
  · split
    · next hnil => rw [hnil]
    · rfl

/-! ### Dashes in an entry -/

def timeLine (now : Stamp) : Text := "time=" ++ now.text ++ " action=" ++ liveAction ++ "\n"

theorem Body.exists_eq (h : Body now liveAction t b) :
    ∃ r, b = timeLine now ++ CodePoint.ofChar 'm' :: r := by
  obtain @⟨message, remark, first, stop, -⟩ := h
  refine ⟨"sg=" ++ message ++ " line=" ++ remark.line.display ++ " col=" ++ remark.column.display
    ++ "\nsuggestion=" ++ remark.suggestion.orText "-" ++ "\n"
    ++ (join "\n" (context t.lines first stop)).stripRight ++ "\n", ?_⟩
  simp [body, timeLine, ofString]

theorem return_not_mem_timeLine (now : Stamp) : CodePoint.ofChar '\r' ∉ timeLine now := by
  have hinline : Inline ("time=" ++ now.text ++ " action=" ++ liveAction) :=
    (Inline.append (.append (by decide) (inline_stamp now)) (by decide)).append (by decide)
  refine fun h => (List.mem_append.mp h).elim (IsEnd.not_mem (.inr rfl) hinline) ?_
  decide

theorem not_mem_dashes {c : CodePoint} (he : IsEnd e) (hval : 0x20 ≤ c.val)
    (hc : c ≠ CodePoint.ofChar '-') : c ∉ e :: dashes := by
  refine fun h => (List.mem_cons.mp h).elim (fun heq => ?_) fun h => hc ?_
  · exact absurd he.val_lt (Nat.not_lt.mpr (heq ▸ hval))
  · simpa [dashes, ofString] using h

theorem getLast_dashes (e : CodePoint) :
    ∃ d, (e :: dashes).getLast? = some d ∧ d ≠ CodePoint.ofChar '\n' :=
  ⟨CodePoint.ofChar '-', rfl, by decide⟩

/-- A line of an entry that the entry does not take from the document is passed over. -/
theorem infix_behind_line {s r : Text} {c : CodePoint} (he : IsEnd e) (hs : s.Inline)
    (hc : c ∉ e :: dashes) (h : e :: dashes <:+: s ++ CodePoint.ofChar '\n' :: c :: r) :
    e :: dashes <:+: r := by
  rw [List.append_cons] at h
  rcases infix_of_append_cons hc h with h | h
  · have hline := infix_of_append_singleton (getLast_dashes e) h
    exact absurd (hline.subset (.head _)) (he.not_mem hs)
  · exact h

theorem onLine_of_quoting {s : Text} (he : IsEnd e) (hs : s.Inline) (hu : u.Quoting t.OnLine)
    (h : e :: dashes <:+: s ++ u) : t.OnLine (e :: dashes) := by
  have hbehind := infix_of_append (he.not_mem hs) h
  obtain hinline | ⟨front, name, back, ⟨l, hl, hname⟩, rfl, hfront, hback⟩ := hu
  · exact absurd (hbehind.subset (.head _)) (he.not_mem hinline)
  · rcases infix_of_append_cons (not_mem_dashes he (by decide) (by decide))
      (infix_of_append (he.not_mem hfront) hbehind) with h | h
    · exact ⟨l, hl, h.trans hname⟩
    · exact absurd (h.subset (.head _)) (he.not_mem hback)

/-- The number in front of a line keeps it from being taken for a marker. -/
theorem exists_digit_of_context {first stop : Int} {l : Text} (he : IsEnd e)
    (hl : l ∈ context t.lines first stop) : ∃ d r, l = d :: r ∧ d ∉ e :: dashes := by
  obtain ⟨n, line, -, rfl⟩ := exists_of_mem_context hl
  obtain ⟨d, r, hn⟩ := List.exists_cons_of_ne_nil (ofNat_ne_nil n)
  have hdigit := CodePoint.isDigit_iff.mp (isDigit_of_mem_ofNat n d (by rw [hn]; exact .head _))
  refine ⟨d, r ++ ": " ++ line, by rw [hn]; rfl, not_mem_dashes he (by omega) ?_⟩
  rintro rfl
  exact absurd hdigit (by decide)

theorem exists_digit_of_join {first stop : Int} {d : CodePoint} {r : Text} (he : IsEnd e)
    (h : d :: r <+: join "\n" (context t.lines first stop)) : d ∉ e :: dashes := by
  have hlines : ∀ l ∈ context t.lines first stop, _ := fun l hl => exists_digit_of_context he hl
  revert h hlines
  cases context t.lines first stop with
  | nil =>
    intro h _
    cases List.prefix_nil.mp h
  | cons l ls =>
    intro h hlines
    obtain ⟨d', r', rfl, hd'⟩ := hlines l (.head _)
    exact (List.cons_prefix_cons.mp h).1 ▸ hd'

theorem onLine_of_context {first stop : Int} (he : IsEnd e)
    (h : e :: dashes <:+: join "\n" (context t.lines first stop)) : t.OnLine (e :: dashes) := by
  obtain ⟨l, hl, hinside⟩ :=
    infix_of_join (getLast_dashes e) (fun l hl => exists_digit_of_context he hl) h
  obtain ⟨n, line, hline, rfl⟩ := exists_of_mem_context hl
  have hnumber : Inline (Text.ofNat n ++ ": ") := (inline_ofNat n).append (by decide)
  exact ⟨line, hline, infix_of_append (he.not_mem hnumber) hinside⟩

theorem onLine_of_body (he : IsEnd e) (hb : Body now liveAction t b) (h : e :: dashes <:+: b) :
    t.OnLine (e :: dashes) := by
  obtain @⟨message, remark, first, stop, hnote⟩ := hb
  have hletter {c : CodePoint} (hc : 0x2D < c.val) : c ∉ e :: dashes :=
    not_mem_dashes he (by omega) (by rintro rfl; exact absurd hc (by decide))
  generalize hshown : (join "\n" (context t.lines first stop)).stripRight = shown at h
  have hfront : shown <+: join "\n" (context t.lines first stop) :=
    hshown ▸ isPrefix_dropRightWhile _ _
  let time : Text := "time=" ++ now.text ++ " action=" ++ liveAction
  let place : Text := "sg=" ++ message ++ " line=" ++ remark.line.display ++ " col="
    ++ remark.column.display
  have htime : time.Inline := (Inline.append (.append (by decide) (inline_stamp now))
    (by decide)).append (by decide)
  have hplace : place.Inline := ((((Inline.append (by decide) hnote.message).append
    (by decide)).append hnote.line).append (by decide)).append hnote.column
  have hspelled : body now liveAction message remark shown =
      time ++ CodePoint.ofChar '\n' :: CodePoint.ofChar 'm' ::
        (place ++ CodePoint.ofChar '\n' :: CodePoint.ofChar 's' ::
          ("uggestion=" ++ remark.suggestion.orText "-" ++ CodePoint.ofChar '\n' :: shown ++
            [CodePoint.ofChar '\n'])) := by
    simp [body, time, place, ofString]
  rw [hspelled] at h
  have hbehind := infix_of_append_singleton (getLast_dashes e)
    (infix_behind_line he hplace (hletter (by decide))
      (infix_behind_line he htime (hletter (by decide)) h))
  rw [List.append_cons] at hbehind
  have hhint (h : e :: dashes <:+:
      ("uggestion=" ++ remark.suggestion.orText "-") ++ [CodePoint.ofChar '\n']) :
      t.OnLine (e :: dashes) :=
    onLine_of_quoting he (by decide) hnote.suggestion
      (infix_of_append_singleton (getLast_dashes e) h)
  cases shown with
  | nil => exact hhint (by simpa using hbehind)
  | cons d r =>
    rcases infix_of_append_cons (exists_digit_of_join he hfront) hbehind with h | h
    · exact hhint h
    · exact onLine_of_context he
        ((h.trans (List.suffix_cons d r).isInfix).trans hfront.isInfix)

/-- An entry read with one kind of line end has a marker in it just if it has a forged one. -/
theorem marker_infix_iff (hb : Body now liveAction t b) :
    marker <:+: b.unifyLineEnds ↔ Forged b := by
  have hlevel : Level dashes := by simp [Level, IsEnd, dashes, ofString]
  have hmarker : marker = CodePoint.ofChar '\n' :: dashes ++ [CodePoint.ofChar '\n'] := rfl
  rw [unifyLineEnds_eq, hmarker, line_infix_unified_iff hlevel (by decide)]
  constructor
  · rintro ⟨e, e', he, he', h⟩
    rcases he with rfl | rfl
    · obtain ⟨l, hl, hinside⟩ := onLine_of_body (.inl rfl) hb
        ((List.prefix_append _ [e']).isInfix.trans h)
      exact absurd (hinside.subset (.head _)) (unbroken_lines t l hl)
    · exact ⟨e', he', h⟩
  · rintro ⟨e, he, h⟩
    exact ⟨_, e, .inr rfl, he, h⟩

end Log

namespace Disk
open Text

variable {d d' : Disk} {now : Stamp} {path action text : Text} {report : Report} {most keep : Json}
  {bytes : List UInt8}

/-! ### Reading the log -/

theorem exists_of_makeParent {α : Type} {m : DiskM α} {a : α} (h : (do
      let directory := Path.directory path
      if directory ≠ [] then change fun d => d.makeDirectories directory
      m : DiskM α).run.run d = (.ok a, d')) : ∃ s, m.run.run s = (.ok a, d') := by
  dsimp only at h
  split at h
  · obtain ⟨-, s, -, h⟩ := exists_of_bind h
    exact ⟨s, h⟩
  · exact ⟨d, h⟩

theorem eq_ok_of_lift {α : Type} {x : Except Failure α} {a : α}
    (h : (liftM x : DiskM α).run.run d = (.ok a, d')) : x = .ok a := by
  cases x with
  | ok b =>
    cases h
    rfl
  | error x => cases h

theorem exists_of_logInvalid
    (h : (logInvalid now path action text report most keep).run.run d = (.ok true, d')) :
    ∃ (s : Disk) (entry : Text) (bytes : List UInt8), Log.entry now action text report = .ok entry ∧
      entry.utf8? = some bytes ∧ s.append path bytes = .ok d' := by
  unfold logInvalid at h
  split at h
  · cases h
  · rcases exists_of_tryCatch h with h | ⟨x, s, -, h⟩
    · obtain ⟨s, h⟩ := exists_of_makeParent h
      obtain ⟨-, s, -, h⟩ := exists_of_bind h
      obtain ⟨entry, s, hentry, h⟩ := exists_of_bind h
      split at h
      · next bytes hutf8 =>
        obtain ⟨s', happend, h⟩ := exists_of_act_bind h
        cases h
        exact ⟨s, entry, bytes, eq_ok_of_lift hentry, hutf8, happend⟩
      · obtain ⟨s', -, h⟩ := exists_of_act_bind h
        cases h
    · split at h
      · cases h
      · cases h

theorem stat?_of_append (h : d.append path bytes = .ok d') :
    ∃ old, d'.stat? path = some (.file (old ++ bytes)) := by
  cases hwritable : d.writable path with
  | error x => simp [append, hwritable, Except.map] at h
  | ok l =>
    have hkeeps : ∃ old, Keeps d path l old := by
      obtain ⟨-, -, ⟨old, hfile⟩ | ⟨hfree, -⟩⟩ := writable_iff.mp hwritable
      · exact ⟨old, hwritable, .inl hfile⟩
      · exact ⟨[], hwritable, .inr ⟨hfree, rfl⟩⟩
    obtain ⟨old, hkeeps⟩ := hkeeps
    rw [hkeeps.append] at h
    cases h
    obtain ⟨l', hlocate, hnode⟩ := read_ok.mp (hkeeps.read_put (old ++ bytes))
    exact ⟨old, by rw [stat?, hlocate]; exact hnode⟩

/-- A log is read up to the newest entry, and then that entry with one kind of line end. -/
theorem tail_of_entry {body : Text} {old : List UInt8} (hbody : Json.Clean (Log.marker ++ body))
    (h : d.stat? path = some (.file (old ++ (Log.marker ++ body).flatMap CodePoint.utf8))) :
    ∃ front, d.tail path (.ofNat 0) = .ok (front ++ (Log.marker ++ body.unifyLineEnds)) := by
  have hspelled : Log.marker ++ body =
      CodePoint.ofChar '\n' :: (Log.dashes ++ [CodePoint.ofChar '\n'] ++ body) := rfl
  have hread := ofUtf8Lossy_flatMap hbody
  rw [hspelled] at h hread
  rw [List.flatMap_cons] at h hread
  have hoctet : CodePoint.utf8 (CodePoint.ofChar '\n') = [10] := by decide
  rw [hoctet, List.singleton_append] at h hread
  obtain ⟨front, hfront⟩ := unified_append_feed (ofUtf8Lossy old)
    (Log.dashes ++ [CodePoint.ofChar '\n'] ++ body)
  refine ⟨front, ?_⟩
  unfold tail
  rw [h]
  dsimp only
  rw [ofUtf8Lossy_append (by decide), hread, unifyLineEnds_eq, hfront,
    unified_append_of_not_mem (by decide), unifyLineEnds_eq]
  rfl

/-- After an entry was written, the newest block of the log is the whole entry without its marker,
with one kind of line end and no white space around it, unless the entry has a forged marker in it.
Then it begins with the line that tells the time.  There is no forged marker unless the document has
three dashes behind a carriage return. -/
theorem latest_block_whole (htext : Json.Clean text)
    (h : (logInvalid now path Log.liveAction text (Report.ofText text) most keep).run.run d =
      (.ok true, d')) :
    ∃ body log block, Log.entry now Log.liveAction text (Report.ofText text) =
        .ok (Log.marker ++ body) ∧
      d'.tail path (.ofNat 0) = .ok log ∧
      Log.latestBlock log Log.marker (.ofNat 0) = .ok block ∧
      (block = body.unifyLineEnds.strip ↔ ¬ Log.Forged body) ∧
      (¬ Log.Forged body → Log.timeLine now <+: block) ∧
      (Log.Forged body → CodePoint.ofChar '\r' :: Log.dashes <:+: text) := by
  obtain ⟨s, entry, bytes, hentry, hutf8, happend⟩ := exists_of_logInvalid h
  have hclean := clean_entry (Json.clean_ofString _) htext hentry
  rw [utf8?_of_clean hclean] at hutf8
  cases hutf8
  obtain ⟨body, hbody, rfl⟩ := Log.exists_body hentry
  obtain ⟨old, hstat⟩ := stat?_of_append happend
  obtain ⟨front, htail⟩ := tail_of_entry hclean hstat
  obtain ⟨r, hr⟩ := hbody.exists_eq
  have hunified :
      body.unifyLineEnds = Log.timeLine now ++ CodePoint.ofChar 'm' :: unified false r := by
    rw [hr, unifyLineEnds_eq, unified_append_of_not_mem (Log.return_not_mem_timeLine now),
      unified_cons (by decide) (by simp)]
  have hhead : body.unifyLineEnds.head? = some (CodePoint.ofChar 't') := by
    rw [hunified]
    rfl
  have hlast := Log.afterLast?_marker front (u := body.unifyLineEnds) (by rw [hhead]; decide)
  have hspace : isSpace (front ++ (Log.marker ++ body.unifyLineEnds)) = false := by
    rw [isSpace, List.all_eq_false]
    exact ⟨CodePoint.ofChar '-', by simp [Log.marker, ofString], by decide⟩
  have hblock := Log.latestBlock_eq hspace
  rw [hlast, Option.getD_some] at hblock
  have hwhole := Log.strip_afterLast?_iff.trans (not_congr (Log.marker_infix_iff hbody))
  refine ⟨body, _, _, hentry, htail, hblock, hwhole, fun hforged => ?_, fun hforged => ?_⟩
  · rw [hwhole.mpr hforged, hunified]
    exact prefix_strip (by decide) (by decide)
  · obtain ⟨e, -, hinside⟩ := hforged
    obtain ⟨l, hl, hinside⟩ := Log.onLine_of_body (.inr rfl) hbody
      ((List.prefix_append _ [e]).isInfix.trans hinside)
    exact hinside.trans (infix_of_mem_lines hl)

/-- The log ends with a carriage return and with octets that are no text, and the document has a
carriage return of its own. -/
theorem latest_block_whole_bracket :
    Json.Clean "[\r" ∧
    ∃ d', (logInvalid ⟨2024, 2, 29, 12, 0, 0⟩ "/log" Log.liveAction "[\r" (Report.ofText "[\r")
        (.ofNat 20) (.ofNat 12)).run.run (Disk.empty.put ["log"] (.file [0xC3, 13])) =
        (.ok true, d') ∧
      ∃ log block, d'.tail "/log" (.ofNat 0) = .ok log ∧
        Log.latestBlock log Log.marker (.ofNat 0) = .ok block ∧
        Log.timeLine ⟨2024, 2, 29, 12, 0, 0⟩ <+: block := by
  have hclean : Json.Clean "[\r" := Json.clean_ofString _
  have hlogs : Logs (Disk.empty.put ["log"] (.file [0xC3, 13])) "/log" ["log"] [0xC3, 13] :=
    Keeps.logs ⟨rfl, .inl rfl⟩
  have hproper : (⟨⟨2024, 2, 29, 12, 0, 0⟩, Log.liveAction, "[\r", 20, 12⟩ : LogCall).Proper :=
    ⟨Verdict.not_isValid_of_decode (by decide) (by cbv), hclean, Json.clean_ofString _, by decide⟩
  obtain ⟨d', hrun, -, -⟩ := run_logCall hlogs hproper
  obtain ⟨body, log, block, -, htail, hblock, -, hstarts, hforged⟩ := latest_block_whole hclean hrun
  refine ⟨hclean, d', hrun, log, block, htail, hblock, hstarts fun h => ?_⟩
  exact absurd (hforged h).length_le (by decide)

end Disk

end JsonDesk
