import JsonDesk.Proofs.BestEffort
import JsonDesk.Proofs.SavedFiles
import Mathlib.Data.List.Perm.Subperm

/-!
Saving in one step.  Wherever a save fails, the disk is what it was; a save that succeeds changes
the one file, and nothing is left of the temporary file in either case.
-/

set_option autoImplicit false

namespace JsonDesk.Disk

open Json (Clean)

variable {d d' : Disk} {l m : Location} {p path payload : Text} {bytes front : List UInt8}

/-! ### A file that comes and goes -/

theorem ne_nil_of_free (h : d.node? l = none) : l ≠ [] := by
  rintro rfl
  cases h

theorem filter_putEntry {es : List (Location × Node)} (h : entryAt? l es = none) (n : Node) :
    ((putEntry l n es).filter fun e => e.1 != l) = es := by
  induction es with
  | nil => simp [putEntry]
  | cons e es ih =>
    rw [entryAt?] at h
    split at h
    · cases h
    · next hl => simp [putEntry, hl, ih h]

theorem erase_put (h : d.node? l = none) (n : Node) : (d.put l n).erase l = d := by
  have hl := ne_nil_of_free h
  rw [node?, if_neg hl] at h
  exact congrArg Disk.mk (filter_putEntry h n)

theorem mem_of_entryAt? {es : List (Location × Node)} {n : Node} (h : entryAt? l es = some n) :
    l ∈ es.map Prod.fst := by
  induction es with
  | nil => cases h
  | cons e es ih =>
    rw [entryAt?] at h
    split at h
    · next hl => exact hl ▸ .head _
    · exact .tail _ (ih h)

/-! ### The temporary file -/

theorem tempName_injective : Function.Injective tempName := by
  intro j k h
  have hdigits : Text.ofNat j = Text.ofNat k :=
    List.append_cancel_left (List.append_cancel_right h)
  rw [← Numeral.magnitude_ofNat j, hdigits, Numeral.magnitude_ofNat]

theorem exists_free (d : Disk) (directory : Text) :
    ∃ k < d.entries.length + 1, d.stat? (Path.join directory (tempName k)) = none := by
  by_contra! hall
  have hplace (k : Nat) (hk : k < d.entries.length + 1) :
      ∃ l ∈ d.entries.map Prod.fst, l.getLast? = some (tempName k) := by
    obtain ⟨n, hstat⟩ := Option.ne_none_iff_exists'.mp (hall k hk)
    rw [stat?] at hstat
    split at hstat
    · next l hlocate =>
      have hlast := last_of_locate (plain_tempName k) hlocate
      have hl : l ≠ [] := by
        rintro rfl
        cases hlast
      rw [node?, if_neg hl] at hstat
      exact ⟨l, mem_of_entryAt? hstat, hlast⟩
    · cases hstat
  have hsubset : (List.range (d.entries.length + 1)).map (some ∘ tempName) ⊆
      (d.entries.map Prod.fst).map List.getLast? := by
    intro n hn
    obtain ⟨k, hk, rfl⟩ := List.mem_map.mp hn
    obtain ⟨l, hl, hlast⟩ := hplace k (List.mem_range.mp hk)
    exact List.mem_map.mpr ⟨l, hl, hlast⟩
  have hnodup : ((List.range (d.entries.length + 1)).map (some ∘ tempName)).Nodup :=
    List.nodup_range.map ((Option.some_injective _).comp tempName_injective)
  have hlength := (hnodup.subperm hsubset).length_le
  simp at hlength

theorem free_tempPath (d : Disk) (directory : Text) : d.stat? (tempPath d directory) = none := by
  unfold tempPath
  dsimp only
  cases hfind : ((List.range (d.entries.length + 1)).map fun k =>
      Path.join directory (tempName k)).find? fun p => (d.stat? p).isNone with
  | none =>
    obtain ⟨k, hk, hfree⟩ := exists_free d directory
    have htaken := List.find?_eq_none.mp hfind _ (List.mem_map.mpr ⟨k, List.mem_range.mpr hk, rfl⟩)
    simp [hfree] at htaken
  | some p => simpa using List.find?_some hfind

structure Makes (d : Disk) (p : Text) (l : Location) : Prop where
  writable : d.writable p = .ok l
  free : d.node? l = none

theorem makes_of_writable (hfree : d.stat? p = none) (h : d.writable p = .ok l) : Makes d p l := by
  refine ⟨h, ?_⟩
  rw [stat?, (writable_iff.mp h).1] at hfree
  exact hfree

namespace Makes

theorem takes (h : Makes d p l) : d.Takes l := (writable_iff.mp h.writable).2.2

theorem locate_put (h : Makes d p l) (bytes : List UInt8) :
    (d.put l (.file bytes)).locate p = .ok l :=
  (h.takes.locate_put bytes).mpr (writable_iff.mp h.writable).1

theorem node?_put (h : Makes d p l) (bytes : List UInt8) :
    (d.put l (.file bytes)).node? l = some (.file bytes) := by
  rw [h.takes.node?_put, if_pos rfl]

theorem write_put (h : Makes d p l) (front bytes : List UInt8) :
    (d.put l (.file front)).write p bytes = .ok (d.put l (.file bytes)) := by
  rw [write_of_writable ((h.takes.writable_put front).mpr h.writable), put_put]

theorem remove_put (h : Makes d p l) (bytes : List UInt8) :
    (d.put l (.file bytes)).remove p = .ok d := by
  have hremove : (d.put l (.file bytes)).remove p = .ok ((d.put l (.file bytes)).erase l) := by
    simp [remove, h.locate_put, h.node?_put, bind, Except.bind, pure, Except.pure]
  rw [hremove, erase_put h.free]

theorem rename_put (h : Makes d p l) (hpath : d.writable path = .ok m) (bytes : List UInt8) :
    (d.put l (.file bytes)).rename p path = .ok (d.put m (.file bytes)) := by
  have hread : (d.put l (.file bytes)).read p = .ok bytes :=
    read_ok.mpr ⟨l, h.locate_put bytes, h.node?_put bytes⟩
  have hwritable := (h.takes.writable_put bytes).mpr hpath
  simp [rename, hread, h.locate_put, hwritable, erase_put h.free, bind, Except.bind, pure,
    Except.pure]

theorem writable_of_rename (h : Makes d p l)
    (hrename : (d.put l (.file bytes)).rename p path = .ok d') : ∃ m, d.writable path = .ok m := by
  cases hwritable : (d.put l (.file bytes)).writable path with
  | ok m => exact ⟨m, (h.takes.writable_put bytes).mp hwritable⟩
  | error e =>
    have hread : (d.put l (.file bytes)).read p = .ok bytes :=
      read_ok.mpr ⟨l, h.locate_put bytes, h.node?_put bytes⟩
    simp [rename, hread, h.locate_put, hwritable, bind, Except.bind] at hrename

theorem run_giveUp (h : Makes d p l) (bytes : List UInt8) (x : Failure) : (do
      act fun d => .ok ((d.remove p).toOption.getD d)
      throw x : DiskM Unit).run.run (d.put l (.file bytes)) = (.error x, d) := by
  have hremove : (fun s : Disk => (.ok ((s.remove p).toOption.getD s) : Except Failure Disk))
      (d.put l (.file bytes)) = .ok d := by
    dsimp only
    rw [h.remove_put]
    rfl
  exact run_act_bind hremove

end Makes

/-! ### Saving -/

/-- Nothing stands in the way of a save. -/
structure Savable (d : Disk) (path payload : Text) (encoding : Json) (bytes : List UInt8)
    (l : Location) : Prop where
  named : path ≠ []
  temp : ∃ m, d.writable (tempPath d (Path.directory (Path.absolute workingDirectory path))) = .ok m
  encoded : encoded path payload encoding = .ok bytes
  place : d.writable path = .ok l

theorem run_act_bind_error {α : Type} {f : Disk → Except Failure Disk} {g : Unit → DiskM α}
    {x : Failure} (h : f d = .error x) : (act f >>= g).run.run d = (.error x, d) := by
  simp only [ExceptT.run_bind, StateT.run_bind, run_act]
  rw [h]
  rfl

variable {encoding : Json}

theorem Savable.run_saveText (h : Savable d path payload encoding bytes l) :
    (saveText none path payload encoding).run.run d = (.ok (), d.put l (.file bytes)) := by
  obtain ⟨m, htemp⟩ := h.temp
  have hmakes := makes_of_writable (free_tempPath d _) htemp
  unfold saveText
  simp only [if_neg h.named, reduceCtorEq, if_false]
  rw [run_get_bind, run_act_bind (by rw [write_of_writable htemp]; rfl), h.encoded]
  dsimp only
  rw [run_act_bind (by rw [hmakes.write_put]; rfl), run_get_bind, hmakes.rename_put h.place]
  rfl

theorem savable_or_fails (fault : Option SaveStep) (path payload : Text) (encoding : Json)
    (d : Disk) : (fault = none ∧ ∃ bytes l, Savable d path payload encoding bytes l) ∨
      ∃ x, (saveText fault path payload encoding).run.run d = (.error x, d) := by
  unfold saveText
  by_cases hnamed : path = []
  · exact .inr ⟨_, by rw [if_pos hnamed]; rfl⟩
  simp only [if_neg hnamed]
  rw [run_get_bind]
  by_cases hcreate : fault = some .create
  · exact .inr ⟨_, by rw [if_pos hcreate]; rfl⟩
  simp only [if_neg hcreate]
  cases htemp : d.writable (tempPath d (Path.directory (Path.absolute workingDirectory path))) with
  | error e => exact .inr ⟨_, run_act_bind_error (by rw [write, htemp]; rfl)⟩
  | ok m =>
    have hmakes := makes_of_writable (free_tempPath d _) htemp
    rw [run_act_bind (by rw [write_of_writable htemp]; rfl)]
    cases hencoded : encoded path payload encoding with
    | error e => exact .inr ⟨_, hmakes.run_giveUp [] e⟩
    | ok bytes =>
      dsimp only
      by_cases hwrite : fault = some .write
      · exact .inr ⟨_, by rw [if_pos hwrite]; exact hmakes.run_giveUp [] _⟩
      rw [if_neg hwrite, run_act_bind (by rw [hmakes.write_put]; rfl)]
      by_cases hreplace : fault = some .replace
      · exact .inr ⟨_, by rw [if_pos hreplace]; exact hmakes.run_giveUp bytes _⟩
      rw [if_neg hreplace, run_get_bind]
      split
      · next s hrename =>
        obtain ⟨l, hplace⟩ := hmakes.writable_of_rename hrename
        have hfault : fault = none := by
          cases fault with
          | none => rfl
          | some step => cases step <;> contradiction
        exact .inl ⟨hfault, bytes, l, hnamed, ⟨m, htemp⟩, hencoded, hplace⟩
      · exact .inr ⟨_, hmakes.run_giveUp bytes _⟩
      · exact .inr ⟨_, hmakes.run_giveUp bytes _⟩

/-- The file at a path has these octets, and nothing else on the disk has changed. -/
structure Replaces (path : Text) (bytes : List UInt8) (d d' : Disk) : Prop where
  read : d'.read path = .ok bytes
  other : ∀ l, d.locate path ≠ .ok l → d'.node? l = d.node? l

theorem replaces_put (h : d.writable path = .ok l) (bytes : List UInt8) :
    Replaces path bytes d (d.put l (.file bytes)) := by
  obtain ⟨hlocate, -, htakes⟩ := writable_iff.mp h
  refine ⟨read_ok.mpr ⟨l, (htakes.locate_put bytes).mpr hlocate, ?_⟩, fun m hm => ?_⟩
  · rw [htakes.node?_put, if_pos rfl]
  · rw [htakes.node?_put, if_neg]
    rintro rfl
    exact hm hlocate

/-! ### Best-effort saving -/

theorem tolerable_read (d : Disk) (p : Text) : Tolerable (d.read p) := by
  refine (tolerable_locate d p).bind fun l => ?_
  split
  · exact .error rfl
  · exact .error rfl
  · exact .ok _

theorem tolerable_rename (d : Disk) (p path : Text) : Tolerable (d.rename p path) :=
  (tolerable_read d p).bind fun _ => (tolerable_locate d p).bind fun _ =>
    (tolerable_writable d path).bind fun _ => .ok _

theorem tolerable_asUnwritable {x : Failure} (path : Text) (hx : x.kind.tolerable = true) :
    (asUnwritable path x).kind.tolerable = true := by
  unfold asUnwritable
  split
  · rfl
  · exact hx

theorem tolerable_encoded (path payload : Text) :
    Tolerable (encoded path payload documentEncoding) := by
  rw [encoded_document]
  split
  · exact .error rfl
  · exact .ok _

theorem tolerant_throw {α : Type} {x : Failure} (hx : x.kind.tolerable = true) :
    Tolerant (throw x : DiskM α) := fun _ => .error hx

theorem tolerant_giveUp {x : Failure} (p : Text) (hx : x.kind.tolerable = true) :
    Tolerant (do
      act fun d => .ok ((d.remove p).toOption.getD d)
      throw x : DiskM Unit) :=
  .bind (.act fun _ => .ok _) fun _ => tolerant_throw hx

theorem tolerant_write (p path : Text) (bytes : List UInt8) :
    Tolerant (act fun d => (d.write p bytes).mapError (asUnwritable path)) := by
  refine .act fun d => ?_
  have hwrite : Tolerable (d.write p bytes) := (tolerable_writable d p).map
  cases h : d.write p bytes with
  | ok s => exact .ok s
  | error x => exact .error (tolerable_asUnwritable path (hwrite x h))

theorem tolerant_saveText (fault : Option SaveStep) (path payload : Text) :
    Tolerant (saveText fault path payload documentEncoding) := by
  unfold saveText
  dsimp only
  split
  · exact tolerant_throw rfl
  refine .get fun d => ?_
  split
  · exact tolerant_throw rfl
  refine .bind (tolerant_write _ path []) fun _ => ?_
  cases hencoded : encoded path payload documentEncoding with
  | error x => exact tolerant_giveUp _ (tolerable_encoded path payload x hencoded)
  | ok bytes =>
    dsimp only
    split
    · exact tolerant_giveUp _ rfl
    refine .bind (tolerant_write _ path bytes) fun _ => ?_
    split
    · exact tolerant_giveUp _ rfl
    refine .get fun s => ?_
    split
    · exact fun _ => .ok ()
    · exact tolerant_giveUp _ rfl
    · next x _ hrename =>
      exact tolerant_giveUp _ (tolerable_asUnwritable path (tolerable_rename _ _ _ x hrename))

theorem run_trySave_cases (fault : Option SaveStep) (path : Text) (hpayload : Clean payload)
    (d : Disk) :
    (∃ d', (trySave path payload fault).run.run d = (.ok true, d') ∧
      Replaces path (payload.flatMap CodePoint.utf8) d d') ∨
    (trySave path payload fault).run.run d = (.ok false, d) := by
  rw [run_trySave]
  obtain ⟨rfl, bytes, l, hsavable⟩ | ⟨x, hrun⟩ :=
    savable_or_fails fault path payload documentEncoding d
  · obtain rfl : payload.flatMap CodePoint.utf8 = bytes :=
      Except.ok.inj ((encoded_utf8 path hpayload).symm.trans hsavable.encoded)
    rw [hsavable.run_saveText]
    exact .inl ⟨_, rfl, replaces_put hsavable.place _⟩
  · have hx : x.kind.tolerable = true := tolerant_saveText fault path payload d x (by rw [hrun])
    rw [hrun]
    simp only [hx, if_true]
    exact .inr rfl

/-- A save that succeeds leaves the payload at the path and changes nothing else; one that fails,
at whichever step, changes nothing at all.  It succeeds when the disk has no fault of its own and
nothing stands in the way.  A session or settings that could not be saved are told as such, and
what was saved before is still there. -/
theorem saving_atomic (fault : Option SaveStep) (path : Text) (d : Disk) :
    (∀ payload encoding,
      (∃ bytes d', (saveText fault path payload encoding).run.run d = (.ok (), d') ∧
        encoded path payload encoding = .ok bytes ∧ Replaces path bytes d d') ∨
      ∃ x, (saveText fault path payload encoding).run.run d = (.error x, d)) ∧
    (∀ payload encoding, ((saveText fault path payload encoding).run.run d).1 = .ok () ↔
      fault = none ∧ ∃ bytes l, Savable d path payload encoding bytes l) ∧
    (∀ s : Session,
      (∃ d', (saveSession path s fault).run.run d = (.ok true, d') ∧
        Replaces path (s.fileText.flatMap CodePoint.utf8) d d') ∨
      (saveSession path s fault).run.run d = (.ok false, d)) ∧
    ∀ s : Settings,
      (∃ d', (saveSettings path s fault).run.run d = (.ok true, d') ∧
        Replaces path ((Settings.fileText s.toMembers).flatMap CodePoint.utf8) d d') ∨
      (saveSettings path s fault).run.run d = (.ok false, d) := by
  refine ⟨fun payload encoding => ?_, fun payload encoding => ?_, fun s => ?_, fun s => ?_⟩
  · obtain ⟨rfl, bytes, l, hsavable⟩ | ⟨x, hrun⟩ := savable_or_fails fault path payload encoding d
    · exact .inl ⟨bytes, _, hsavable.run_saveText, hsavable.encoded,
        replaces_put hsavable.place bytes⟩
    · exact .inr ⟨x, hrun⟩
  · constructor
    · intro hok
      obtain hsavable | ⟨x, hrun⟩ := savable_or_fails fault path payload encoding d
      · exact hsavable
      · rw [hrun] at hok
        cases hok
    · rintro ⟨rfl, bytes, l, hsavable⟩
      rw [hsavable.run_saveText]
  · exact run_trySave_cases fault path (Json.clean_write _ _) d
  · exact run_trySave_cases fault path (Json.clean_write _ _) d

end JsonDesk.Disk
