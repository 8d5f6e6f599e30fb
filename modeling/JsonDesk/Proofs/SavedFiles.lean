import JsonDesk.Proofs.Locations
import JsonDesk.Proofs.Octets

set_option autoImplicit false

namespace JsonDesk.Disk

open Json (Clean)
open JsonDesk.Path (Plain)

variable {α β : Type} {d d' : Disk} {q n : Text}

theorem plain_tempName (k : Nat) : Plain (tempName k) := by
  have hlong : 2 < (tempName k).length := by
    simp only [tempName, List.length_append]
    have hfront : (Text.ofString ".jsonsmith-").length = 11 := rfl
    omega
  refine ⟨fun hnil => ?_, ?_, fun heq => ?_, fun heq => ?_⟩
  · simp [hnil] at hlong
  · have hdigits : CodePoint.ofChar '/' ∉ Text.ofNat k := fun hmem =>
      absurd (Text.isDigit_of_mem_ofNat k _ hmem) (by decide)
    simp only [tempName, List.mem_append, not_or]
    exact ⟨⟨by decide, hdigits⟩, by decide⟩
  · rw [heq] at hlong
    exact absurd hlong (by decide)
  · rw [heq] at hlong
    exact absurd hlong (by decide)

theorem exists_tempPath (d : Disk) (directory : Text) :
    ∃ k, tempPath d directory = Path.join directory (tempName k) := by
  unfold tempPath
  dsimp only
  cases hfind : ((List.range (d.entries.length + 1)).map fun k =>
      Path.join directory (tempName k)).find? fun p => (d.stat? p).isNone with
  | none => exact ⟨_, rfl⟩
  | some p =>
    obtain ⟨k, -, rfl⟩ := List.mem_map.mp (List.mem_of_find?_eq_some hfind)
    exact ⟨k, rfl⟩

theorem tempPath_eq {directory : Text}
    (h : d.stat? (Path.join directory (tempName 0)) = none) :
    tempPath d directory = Path.join directory (tempName 0) := by
  unfold tempPath
  dsimp only
  rw [List.range_succ_eq_map, List.map_cons, List.find?_cons_of_pos (by rw [h]; rfl)]
  rfl

/-- The names under which something is done when a file is saved. -/
def Touches (n m : Text) : Prop := m = n ∨ ∃ k, m = tempName k

theorem spares_write (hn : Plain n) {N : Text → Prop} (hN : N n) {bytes : List UInt8}
    (h : d.write (Path.join q n) bytes = .ok d') : Spares N d d' := by
  obtain ⟨l, hlocate, hnode, rfl⟩ := exists_of_write h
  refine spares_put hnode (fun m hm => ?_) _
  cases (last_of_locate hn hlocate).symm.trans hm
  exact hN

theorem spares_remove (hn : Plain n) {N : Text → Prop} (hN : N n)
    (h : d.remove (Path.join q n) = .ok d') : Spares N d d' := by
  obtain ⟨l, bytes, hlocate, hnode, rfl⟩ := exists_of_remove h
  refine spares_erase (by simp [hnode]) fun m hm => ?_
  cases (last_of_locate hn hlocate).symm.trans hm
  exact hN

theorem spares_rename {source target : Text} {N : Text → Prop}
    (h : d.rename source target = .ok d')
    (hsource : ∀ l, d.locate source = .ok l → ∀ m, l.getLast? = some m → N m)
    (htarget : ∀ l, d.locate target = .ok l → ∀ m, l.getLast? = some m → N m) :
    Spares N d d' := by
  obtain ⟨bytes, l, m, -, hlocate, hnode, hlocate', hm, rfl⟩ := exists_of_rename h
  have hne : l ≠ [] := by
    rintro rfl
    simp [node?] at hnode
  have hm' : (d.erase l).node? m ≠ some .directory := by
    rw [node?_erase d hne]
    split
    · simp
    · exact hm
  exact trans_of (Spares N) (spares_erase (by simp [hnode]) (hsource l hlocate))
    (spares_put hm' (htarget m hlocate') bytes)

theorem read_of_rename {source target : Text} (h : d.rename source target = .ok d') :
    d'.read target = d.read source := by
  have hspares : Spares (fun _ => True) d d' :=
    spares_rename h (fun _ _ _ _ => trivial) fun _ _ _ _ => trivial
  obtain ⟨bytes, l, m, hread, -, -, htarget, hm, rfl⟩ := exists_of_rename h
  have hne : m ≠ [] := by
    rintro rfl
    exact hm rfl
  rw [hread]
  exact read_ok.mpr ⟨m, hspares.locate htarget, by rw [node?_put _ hne, if_pos rfl]⟩

theorem read_of_write {p : Text} {bytes : List UInt8} (h : d.write p bytes = .ok d') :
    d'.read p = .ok bytes := by
  obtain ⟨l, hlocate, hnode, rfl⟩ := exists_of_write h
  have hspares : Spares (fun _ => True) d (d.put l (.file bytes)) :=
    spares_put hnode (fun _ _ => trivial) _
  have hne : l ≠ [] := by
    rintro rfl
    exact hnode rfl
  exact read_ok.mpr ⟨l, hspares.locate hlocate, by rw [node?_put d hne, if_pos rfl]⟩

/-! ### Steps on a disk -/

theorem run_act (f : Disk → Except Failure Disk) (d : Disk) : (act f).run.run d =
    match f d with
    | .ok s => (.ok (), s)
    | .error x => (.error x, d) := by
  have hact : (act f).run.run d = (match f d with
      | .ok s => set s
      | .error x => throw x : DiskM Unit).run.run d := rfl
  rw [hact]
  cases f d <;> rfl

/-- Whatever comes of the step, only what has one of the names is changed. -/
def Sparing (N : Text → Prop) (m : DiskM α) : Prop := ∀ d, Spares N d (m.run.run d).2

namespace Sparing

variable {N : Text → Prop}

theorem pure (a : α) : Sparing N (pure a) := fun d => refl_of (Spares N) d

theorem throw (x : Failure) : Sparing N (throw x : DiskM α) := fun d => refl_of (Spares N) d

theorem get {f : Disk → DiskM α} (hf : ∀ d, Spares N d ((f d).run.run d).2) :
    Sparing N (get >>= f) := hf

theorem bind {m : DiskM α} {f : α → DiskM β} (hm : Sparing N m) (hf : ∀ a, Sparing N (f a)) :
    Sparing N (m >>= f) := by
  intro d
  have hd := hm d
  simp only [ExceptT.run_bind, StateT.run_bind]
  generalize m.run.run d = r at hd ⊢
  obtain ⟨x, d'⟩ := r
  cases x with
  | ok a => exact trans_of (Spares N) hd (hf a d')
  | error e => exact hd

theorem tryCatch {m : DiskM α} {h : Failure → DiskM α} (hm : Sparing N m)
    (hh : ∀ x, Sparing N (h x)) : Sparing N (tryCatch m h) := by
  intro d
  have hd := hm d
  simp only [ExceptT.run_tryCatch, StateT.run_bind]
  generalize m.run.run d = r at hd ⊢
  obtain ⟨x, d'⟩ := r
  cases x with
  | ok a => exact hd
  | error e => exact trans_of (Spares N) hd (hh e d')

theorem act {f : Disk → Except Failure Disk} (hf : ∀ d d', f d = .ok d' → Spares N d d') :
    Sparing N (act f) := by
  intro d
  rw [run_act]
  split
  · next s hs => exact hf d s hs
  · exact refl_of (Spares N) d

end Sparing

theorem run_get_bind (f : Disk → DiskM α) (d : Disk) :
    (get >>= f).run.run d = (f d).run.run d := rfl

theorem run_bind_ok {m : DiskM α} {f : α → DiskM β} {a : α} (h : m.run.run d = (.ok a, d')) :
    (m >>= f).run.run d = (f a).run.run d' := by
  simp only [ExceptT.run_bind, StateT.run_bind, h]
  rfl

theorem run_tryCatch_ok {m : DiskM α} {handle : Failure → DiskM α} {a : α}
    (h : m.run.run d = (.ok a, d')) : (tryCatch m handle).run.run d = (.ok a, d') := by
  simp only [ExceptT.run_tryCatch, StateT.run_bind, h]
  rfl

theorem run_act_bind {f : Disk → Except Failure Disk} {g : Unit → DiskM α} (h : f d = .ok d') :
    (act f >>= g).run.run d = (g ()).run.run d' :=
  run_bind_ok (by rw [run_act, h])

theorem exists_of_bind {m : DiskM α} {f : α → DiskM β} {b : β}
    (h : (m >>= f).run.run d = (.ok b, d')) :
    ∃ a s, m.run.run d = (.ok a, s) ∧ (f a).run.run s = (.ok b, d') := by
  simp only [ExceptT.run_bind, StateT.run_bind] at h
  generalize hm : m.run.run d = r at h
  obtain ⟨x, s⟩ := r
  cases x with
  | ok a => exact ⟨a, s, rfl, h⟩
  | error x => cases h

theorem exists_of_tryCatch {m : DiskM α} {handle : Failure → DiskM α} {a : α}
    (h : (tryCatch m handle).run.run d = (.ok a, d')) :
    m.run.run d = (.ok a, d') ∨
      ∃ x s, m.run.run d = (.error x, s) ∧ (handle x).run.run s = (.ok a, d') := by
  simp only [ExceptT.run_tryCatch, StateT.run_bind] at h
  generalize m.run.run d = r at h
  obtain ⟨x, s⟩ := r
  cases x with
  | ok b => exact .inl h
  | error x => exact .inr ⟨x, s, rfl, h⟩

theorem exists_of_act_bind {f : Disk → Except Failure Disk} {g : Unit → DiskM α} {a : α}
    (h : (act f >>= g).run.run d = (.ok a, d')) :
    ∃ s, f d = .ok s ∧ (g ()).run.run s = (.ok a, d') := by
  obtain ⟨u, s, hact, hg⟩ := exists_of_bind h
  rw [run_act] at hact
  split at hact
  · next s' hf =>
    cases hact
    exact ⟨s, hf, hg⟩
  · cases hact

/-! ### Saving -/

theorem eq_ok_of_mapError {ε ε' : Type} {x : Except ε α} {f : ε → ε'} {a : α}
    (h : x.mapError f = .ok a) : x = .ok a := by
  cases x with
  | ok b => exact congrArg Except.ok (Except.ok.inj h)
  | error e => cases h

theorem sparing_write (hn : Plain n) {N : Text → Prop} (hN : N n) (bytes : List UInt8)
    (f : Failure → Failure) :
    Sparing N (act fun d => (d.write (Path.join q n) bytes).mapError f) :=
  .act fun _ _ h => spares_write hn hN (eq_ok_of_mapError h)

theorem sparing_giveUp (hn : Plain n) {N : Text → Prop} (hN : N n) (x : Failure) :
    Sparing N (do
      act fun d => .ok ((d.remove (Path.join q n)).toOption.getD d)
      throw x : DiskM Unit) := by
  refine .bind (.act fun d d' h => ?_) fun _ => .throw x
  cases hremove : d.remove (Path.join q n) with
  | ok s =>
    rw [hremove] at h
    cases h
    exact spares_remove hn hN hremove
  | error e =>
    rw [hremove] at h
    cases h
    exact refl_of (Spares N) d

theorem sparing_saveText (hn : Plain n) (payload : Text) (encoding : Json) :
    Sparing (Touches n) (saveText none (Path.join q n) payload encoding) := by
  unfold saveText
  simp only [if_neg (hn.join_ne_nil q), reduceCtorEq, if_false]
  refine .get fun d => ?_
  obtain ⟨k, htemp⟩ := exists_tempPath d
    (Path.directory (Path.absolute workingDirectory (Path.join q n)))
  have hk : Touches n (tempName k) := .inr ⟨k, rfl⟩
  have hgiveUp := fun x => sparing_giveUp
    (q := Path.directory (Path.absolute workingDirectory (Path.join q n))) (plain_tempName k) hk x
  rw [htemp]
  refine Sparing.bind (sparing_write (plain_tempName k) hk _ _) (fun _ => ?_) d
  split
  · exact hgiveUp _
  · refine .bind (sparing_write (plain_tempName k) hk _ _) fun _ => .get fun s => ?_
    split
    · next s' hrename =>
      refine spares_rename hrename (fun l hl m hm => ?_) fun l hl m hm => ?_
      · cases (last_of_locate (plain_tempName k) hl).symm.trans hm
        exact hk
      · cases (last_of_locate hn hl).symm.trans hm
        exact .inl rfl
    · exact hgiveUp _ s
    · exact hgiveUp _ s

theorem giveUp_ne_ok {temp : Text} {x : Failure} {a : Unit} : (do
      act fun d => .ok ((d.remove temp).toOption.getD d)
      throw x : DiskM Unit).run.run d ≠ (.ok a, d') := by
  intro h
  obtain ⟨s, -, h⟩ := exists_of_act_bind h
  cases h

theorem find?_utf8 : Encoding.find? (Text.ofString "utf-8") = some (.encoding .utf8) := by
  have hname : Encoding.simplify (Text.ofString "utf-8") = Text.ofString "utf_8" := by cbv
  unfold Encoding.find?
  rw [if_neg (by decide), hname]
  decide +kernel

theorem encoded_document (path payload : Text) : encoded path payload documentEncoding =
    match payload.utf8? with
    | none => .error (unencodable path documentEncoding)
    | some bytes => .ok bytes := by
  have hname : encodingName documentEncoding = .ok (Text.ofString "utf-8") := rfl
  have hplain : (Text.ofString "utf-8").any CodePoint.isSurrogate = false := by decide
  have hzero : (Text.ofString "utf-8").any (·.val = 0) = false := by decide
  unfold encoded
  rw [hname]
  dsimp only [bind, Except.bind]
  rw [hplain, hzero, find?_utf8]
  rfl

theorem utf8?_of_clean {t : Text} (h : Clean t) : t.utf8? = some (t.flatMap CodePoint.utf8) := by
  unfold Text.utf8?
  rw [if_neg]
  simpa [Clean] using h

theorem encoded_utf8 {payload : Text} (path : Text) (h : Clean payload) :
    encoded path payload documentEncoding = .ok (payload.flatMap CodePoint.utf8) := by
  rw [encoded_document, utf8?_of_clean h]

theorem read_of_saveText {path payload : Text} (hpayload : Clean payload)
    (h : (saveText none path payload documentEncoding).run.run d = (.ok (), d')) :
    d'.read path = .ok (payload.flatMap CodePoint.utf8) := by
  unfold saveText at h
  by_cases hpath : path = []
  · rw [if_pos hpath] at h
    cases h
  · simp only [if_neg hpath, reduceCtorEq, if_false, encoded_utf8 _ hpayload] at h
    rw [run_get_bind] at h
    obtain ⟨s, -, h⟩ := exists_of_act_bind h
    obtain ⟨s', hwrite, h⟩ := exists_of_act_bind h
    have hread := read_of_write (eq_ok_of_mapError hwrite)
    rw [run_get_bind] at h
    split at h
    · next s'' hrename =>
      cases h
      rw [read_of_rename hrename, hread]
    · exact absurd h giveUp_ne_ok
    · exact absurd h giveUp_ne_ok

theorem sparing_trySave (hn : Plain n) (payload : Text) :
    Sparing (Touches n) (trySave (Path.join q n) payload) := by
  refine .tryCatch (.bind (sparing_saveText hn _ _) fun _ => .pure _) fun _ => ?_
  split
  · exact .pure _
  · exact .throw _

theorem run_trySave (path payload : Text) (fault : Option SaveStep) (d : Disk) :
    (trySave path payload fault).run.run d =
    match (saveText fault path payload documentEncoding).run.run d with
    | (.ok _, s) => (.ok true, s)
    | (.error x, s) =>
      (if x.kind.tolerable then return false else throw x : DiskM Bool).run.run s := by
  simp only [trySave, ExceptT.run_tryCatch, ExceptT.run_bind, StateT.run_bind]
  generalize (saveText fault path payload documentEncoding).run.run d = r
  obtain ⟨x, s⟩ := r
  cases x <;> rfl

theorem saveText_of_trySave {path payload : Text}
    (h : (trySave path payload).run.run d = (.ok true, d')) :
    (saveText none path payload documentEncoding).run.run d = (.ok (), d') := by
  rw [run_trySave] at h
  split at h
  · next s hsave =>
    cases h
    exact hsave
  · split at h <;> cases h

theorem trySave_ok {path payload temp : Text} {d₁ d₂ d₃ : Disk} (hpayload : Clean payload)
    (hpath : path ≠ [])
    (htemp : tempPath d (Path.directory (Path.absolute workingDirectory path)) = temp)
    (hcreate : d.write temp [] = .ok d₁)
    (hwrite : d₁.write temp (payload.flatMap CodePoint.utf8) = .ok d₂)
    (hrename : d₂.rename temp path = .ok d₃) :
    (trySave path payload).run.run d = (.ok true, d₃) := by
  have hmap {x : Except Failure Disk} {s : Disk} (f : Failure → Failure) (h : x = .ok s) :
      x.mapError f = .ok s := by rw [h]; rfl
  have hsave : (saveText none path payload documentEncoding).run.run d = (.ok (), d₃) := by
    unfold saveText
    simp only [if_neg hpath, reduceCtorEq, if_false, encoded_utf8 path hpayload]
    rw [run_get_bind, htemp, run_act_bind (hmap _ hcreate), run_act_bind (hmap _ hwrite), run_get_bind,
      hrename]
    rfl
  rw [run_trySave, hsave]

theorem trySave_root {path payload : Text} {d₁ d₂ d₃ : Disk} (hpayload : Clean payload)
    (hpath : path ≠ [])
    (hroot : Path.directory (Path.absolute workingDirectory path) = Text.ofString "/")
    (hfree : d.stat? "/.jsonsmith-0.tmp" = none) (hcreate : d.write "/.jsonsmith-0.tmp" [] = .ok d₁)
    (hwrite : d₁.write "/.jsonsmith-0.tmp" (payload.flatMap CodePoint.utf8) = .ok d₂)
    (hrename : d₂.rename "/.jsonsmith-0.tmp" path = .ok d₃) :
    (trySave path payload).run.run d = (.ok true, d₃) := by
  have htemp : Path.join "/" (tempName 0) = "/.jsonsmith-0.tmp" := by decide +kernel
  refine trySave_ok hpayload hpath ?_ hcreate hwrite hrename
  rw [hroot, tempPath_eq (by rwa [htemp]), htemp]

theorem loadValue_of_read {p : Text} {payload : Text} (hpayload : Clean payload)
    {rest : Text} (hfirst : payload = CodePoint.ofChar '\x7b' :: rest)
    (h : d.read p = .ok (payload.flatMap CodePoint.utf8)) :
    d.loadValue p = Json.ofFileText payload := by
  have hmark : Text.dropMark (payload.flatMap CodePoint.utf8) = payload.flatMap CodePoint.utf8 := by
    rw [hfirst]
    rfl
  unfold loadValue
  rw [if_pos (isFile_of_read h), h]
  simp only [hmark, Text.ofUtf8?_flatMap hpayload]

end JsonDesk.Disk
