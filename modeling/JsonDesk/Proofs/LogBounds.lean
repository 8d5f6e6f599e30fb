import JsonDesk.Proofs.BestEffort
import JsonDesk.Proofs.Directories
import JsonDesk.Proofs.LogEntries
import JsonDesk.Proofs.SavedFiles

/-!
The diagnostics log over time.  However often it is cut down, it ends with the newest entry, is the
end of all that was ever written to it, and has no more than its limit besides that entry.
-/

set_option autoImplicit false

namespace JsonDesk.Disk

open Json (Clean)

variable {d d' : Disk} {l : Location} {path : Text} {old bytes : List UInt8}

/-! ### Cutting down -/

theorem afterFirstLine_suffix (bytes : List UInt8) : afterFirstLine bytes <:+ bytes := by
  unfold afterFirstLine
  split
  · exact List.suffix_rfl
  · next b rest hdrop =>
    have hrest : rest <:+ bytes.dropWhile (· != 10) := hdrop ▸ List.suffix_cons b rest
    exact hrest.trans (List.dropWhile_suffix _)

theorem keptTail_suffix (keep : Nat) (bytes : List UInt8) : keptTail keep bytes <:+ bytes :=
  (afterFirstLine_suffix _).trans (List.drop_suffix _ _)

theorem length_keptTail_le (keep : Nat) (bytes : List UInt8) :
    (keptTail keep bytes).length ≤ keep := by
  have hle := (afterFirstLine_suffix (bytes.drop (bytes.length - keep))).length_le
  rw [List.length_drop] at hle
  unfold keptTail
  omega

def trimmed (most keep : Nat) (bytes : List UInt8) : List UInt8 :=
  if most < bytes.length then keptTail keep bytes else bytes

theorem trimmed_suffix (most keep : Nat) (bytes : List UInt8) :
    trimmed most keep bytes <:+ bytes := by
  unfold trimmed
  split
  · exact keptTail_suffix keep bytes
  · exact List.suffix_rfl

theorem length_trimmed_le {most keep : Nat} (h : keep ≤ most) (bytes : List UInt8) :
    (trimmed most keep bytes).length ≤ most := by
  unfold trimmed
  split
  · exact (length_keptTail_le keep bytes).trans h
  · omega

/-! ### A log that can be written -/

def makeParent (d : Disk) (path : Text) : Except Failure Unit × Disk :=
  if Path.directory path = [] then (.ok (), d) else d.makeDirectories (Path.directory path)

/-- A file can be written at a path, and these octets are in it; there are none if it is not
there. -/
structure Keeps (d : Disk) (path : Text) (l : Location) (old : List UInt8) : Prop where
  writable : d.writable path = .ok l
  content : d.node? l = some (.file old) ∨ d.node? l = none ∧ old = []

/-- Nothing on the disk stands in the way of a log, once its directory has been made. -/
def Logs (d : Disk) (path : Text) (l : Location) (old : List UInt8) : Prop :=
  ∃ d', d.makeParent path = (.ok (), d') ∧ Keeps d' path l old

theorem makeParent_of_writable (h : d.writable path = .ok l) :
    d.makeParent path = (.ok (), d) := by
  unfold makeParent
  split
  · rfl
  · next hdirectory => exact makeDirectories_of_writable h hdirectory

theorem Keeps.logs (h : Keeps d path l old) : Logs d path l old :=
  ⟨d, makeParent_of_writable h.writable, h⟩

theorem Keeps.put (h : Keeps d path l old) (bytes : List UInt8) :
    Keeps (d.put l (.file bytes)) path l bytes := by
  obtain ⟨-, -, htakes⟩ := writable_iff.mp h.writable
  refine ⟨(htakes.writable_put bytes).mpr h.writable, .inl ?_⟩
  rw [htakes.node?_put, if_pos rfl]

theorem Keeps.append (h : Keeps d path l old) (bytes : List UInt8) :
    d.append path bytes = .ok (d.put l (.file (old ++ bytes))) := by
  rw [Disk.append, h.writable]
  obtain hfile | ⟨hfree, rfl⟩ := h.content
  · simp [hfile, Except.map]
  · simp [hfree, Except.map]

theorem Keeps.read_put (h : Keeps d path l old) (bytes : List UInt8) :
    (d.put l (.file bytes)).read path = .ok bytes :=
  read_of_write (write_of_writable h.writable bytes)

/-! ### One entry -/

structure LogCall where
  now : Stamp
  action : Text
  text : Text
  most : Nat
  keep : Nat

namespace LogCall

def run (path : Text) (c : LogCall) : DiskM Bool :=
  logInvalid c.now path c.action c.text (Report.ofText c.text) (.ofNat c.most) (.ofNat c.keep)

def entry (c : LogCall) : Except Failure Text :=
  Log.entry c.now c.action c.text (Report.ofText c.text)

def octets (c : LogCall) : List UInt8 := (c.entry.toOption.bind Text.utf8?).getD []

/-- An invalid document without surrogates. -/
structure Proper (c : LogCall) : Prop where
  invalid : (validate c.text).isValid = false
  text : Clean c.text
  action : Clean c.action
  limits : c.keep ≤ c.most

def extend (old : List UInt8) (c : LogCall) : List UInt8 :=
  trimmed c.most c.keep old ++ c.octets

variable {c : LogCall}

theorem Proper.exists_entry (h : c.Proper) :
    ∃ entry, c.entry = .ok entry ∧ entry.utf8? = some c.octets := by
  obtain ⟨entry, hentry⟩ := Log.exists_entry c.now c.action c.text c.text
  have hutf8 := utf8?_of_clean (clean_entry h.action h.text hentry)
  have hentry : c.entry = .ok entry := hentry
  refine ⟨entry, hentry, ?_⟩
  rw [octets, hentry]
  simp [Except.toOption, hutf8]

end LogCall

theorem run_trimFile_of_file (hwritable : d.writable path = .ok l)
    (hfile : d.node? l = some (.file old)) (most keep : Nat) :
    (trimFile path (.ofNat most) (.ofNat keep)).run.run d =
      (.ok (), if most < old.length then d.put l (.file (keptTail keep old)) else d) := by
  have hstat : d.stat? path = some (.file old) := by
    rw [stat?, (writable_iff.mp hwritable).1]
    exact hfile
  have hlimit : (liftM (Json.ofNat most).toInt : DiskM Int).run.run d = (.ok (most : Int), d) := rfl
  have hkeep : (liftM (Json.ofNat keep).toInt : DiskM Int).run.run d = (.ok (keep : Int), d) := rfl
  unfold trimFile
  rw [run_get_bind, hstat]
  simp only [run_bind_ok hlimit]
  by_cases hlong : most < old.length
  · rw [if_pos (by omega), if_pos hlong, run_bind_ok hkeep, run_act, write_of_writable hwritable]
    rfl
  · rw [if_neg (by omega), if_neg hlong]
    rfl

theorem run_trimFile (h : Keeps d path l old) (most keep : Nat) :
    ∃ d', (trimFile path (.ofNat most) (.ofNat keep)).run.run d = (.ok (), d') ∧
      Keeps d' path l (trimmed most keep old) := by
  obtain hfile | ⟨hfree, rfl⟩ := h.content
  · rw [run_trimFile_of_file h.writable hfile]
    unfold trimmed
    split
    · exact ⟨_, rfl, h.put _⟩
    · exact ⟨d, rfl, h⟩
  · have hstat : d.stat? path = none := by
      rw [stat?, (writable_iff.mp h.writable).1]
      exact hfree
    unfold trimFile
    rw [run_get_bind, hstat]
    exact ⟨d, rfl, by simpa [trimmed] using h⟩

theorem run_makeParent {α : Type} {m : DiskM α} (h : d.makeParent path = (.ok (), d')) : (do
      let directory := Path.directory path
      if directory ≠ [] then change fun d => d.makeDirectories directory
      m : DiskM α).run.run d = m.run.run d' := by
  unfold makeParent at h
  dsimp only
  split
  · next hdirectory =>
    rw [if_neg hdirectory] at h
    exact run_bind_ok (m := change fun d => d.makeDirectories _) h
  · next hdirectory =>
    rw [if_pos (not_not.mp hdirectory)] at h
    cases h
    rfl

theorem run_logCall {c : LogCall} (h : Logs d path l old) (hc : c.Proper) :
    ∃ d', (c.run path).run.run d = (.ok true, d') ∧ Keeps d' path l (c.extend old) ∧
      d'.read path = .ok (c.extend old) := by
  obtain ⟨d₁, hparent, h₁⟩ := h
  obtain ⟨d₂, htrim, h₂⟩ := run_trimFile h₁ c.most c.keep
  obtain ⟨entry, hentry, hutf8⟩ := hc.exists_entry
  have htolerate : (tolerate (trimFile path (.ofNat c.most) (.ofNat c.keep))).run.run d₁ =
      (.ok (), d₂) := run_tryCatch_ok htrim
  have hlift : (liftM c.entry : DiskM Text).run.run d₂ = (.ok entry, d₂) := by
    rw [hentry]
    rfl
  refine ⟨d₂.put l (.file (c.extend old)), ?_, h₂.put _, h₂.read_put _⟩
  unfold LogCall.run logInvalid
  rw [if_neg (by simp [Report.valid_ofText, hc.invalid])]
  refine run_tryCatch_ok ((run_makeParent hparent).trans ?_)
  refine (run_bind_ok htolerate).trans ((run_bind_ok hlift).trans ?_)
  rw [hutf8]
  exact run_act_bind (h₂.append c.octets)

/-! ### Runs -/

variable {calls : List LogCall}

theorem run_logCalls (h : Logs d path l old) (hcalls : ∀ c ∈ calls, c.Proper) :
    ∃ d', (calls.mapM (LogCall.run path)).run.run d = (.ok (calls.map fun _ => true), d') ∧
      Logs d' path l (calls.foldl (fun old c => c.extend old) old) := by
  induction calls generalizing d old with
  | nil => exact ⟨d, rfl, h⟩
  | cons c calls ih =>
    obtain ⟨hc, hcalls⟩ := List.forall_mem_cons.mp hcalls
    obtain ⟨d₁, hrun, h₁, -⟩ := run_logCall h hc
    obtain ⟨d', hrest, h'⟩ := ih h₁.logs hcalls
    refine ⟨d', ?_, h'⟩
    rw [List.mapM_cons, run_bind_ok hrun, run_bind_ok hrest]
    rfl

theorem extend_suffix (old : List UInt8) (c : LogCall) : c.extend old <:+ old ++ c.octets := by
  obtain ⟨front, hfront⟩ := trimmed_suffix c.most c.keep old
  exact ⟨front, by rw [LogCall.extend, ← List.append_assoc, hfront]⟩

theorem foldl_extend_suffix (old : List UInt8) (calls : List LogCall) :
    calls.foldl (fun old c => c.extend old) old <:+ old ++ calls.flatMap LogCall.octets := by
  induction calls generalizing old with
  | nil => simp
  | cons c calls ih =>
    obtain ⟨front, hfront⟩ := extend_suffix old c
    refine (ih (c.extend old)).trans ⟨front, ?_⟩
    rw [← List.append_assoc, hfront, List.flatMap_cons, List.append_assoc]

/-- After every call the log ends with the whole newest entry, is the end of what was there at first
and all entries since, and has no more octets than the limit and that entry.  Each call tells that
its entry was written. -/
theorem log_stays_bounded {initial : List UInt8} (h : Logs d path l initial)
    (front : List LogCall) (c : LogCall) (hcalls : ∀ c' ∈ front ++ [c], c'.Proper) :
    ∃ d' bytes, ((front ++ [c]).mapM (LogCall.run path)).run.run d =
        (.ok ((front ++ [c]).map fun _ => true), d') ∧
      d'.read path = .ok bytes ∧
      (∀ c' ∈ front ++ [c], ∃ entry, c'.entry = .ok entry ∧ entry.utf8? = some c'.octets) ∧
      c.octets <:+ bytes ∧ bytes <:+ initial ++ (front ++ [c]).flatMap LogCall.octets ∧
      bytes.length ≤ c.most + c.octets.length := by
  obtain ⟨hfront, hc⟩ := List.forall_mem_append.mp hcalls
  have hc := hc c (.head _)
  obtain ⟨d₁, hrun, h₁⟩ := run_logCalls h hfront
  obtain ⟨d', hlast, -, hread⟩ := run_logCall h₁ hc
  refine ⟨d', _, ?_, hread, fun c' hc' => (hcalls c' hc').exists_entry, List.suffix_append _ _, ?_, ?_⟩
  · have hone : ([c].mapM (LogCall.run path)).run.run d₁ = (.ok [true], d') := by
      rw [List.mapM_cons, run_bind_ok hlast]
      rfl
    rw [List.mapM_append, run_bind_ok hrun, run_bind_ok hone, List.map_append]
    rfl
  · have hsuffix := foldl_extend_suffix initial (front ++ [c])
    rwa [List.foldl_concat] at hsuffix
  · rw [LogCall.extend, List.length_append]
    exact Nat.add_le_add_right (length_trimmed_le hc.limits _) _

def twice : LogCall := ⟨⟨2024, 2, 29, 12, 0, 0⟩, Log.liveAction, "[", 20, 12⟩

theorem log_stays_bounded_twice :
    Logs (Disk.empty.put ["log"] (.file [111, 108, 100, 10])) "/log" ["log"] [111, 108, 100, 10] ∧
    (∀ c ∈ [twice] ++ [twice], c.Proper) ∧
    ∃ d' bytes, (([twice] ++ [twice]).mapM (LogCall.run "/log")).run.run
        (Disk.empty.put ["log"] (.file [111, 108, 100, 10])) = (.ok [true, true], d') ∧
      d'.read "/log" = .ok bytes ∧ bytes.length ≤ 20 + twice.octets.length := by
  have hlogs : Logs (Disk.empty.put ["log"] (.file [111, 108, 100, 10])) "/log" ["log"]
      [111, 108, 100, 10] := Keeps.logs ⟨rfl, .inl rfl⟩
  have hproper : twice.Proper :=
    ⟨Verdict.not_isValid_of_decode (by decide) (by cbv), Json.clean_ofString _,
      Json.clean_ofString _, by decide⟩
  have hcalls : ∀ c ∈ [twice] ++ [twice], c.Proper := by
    simp [hproper]
  obtain ⟨d', bytes, hrun, hread, -, -, -, hlength⟩ := log_stays_bounded hlogs [twice] twice hcalls
  exact ⟨hlogs, hcalls, d', bytes, hrun, hread, hlength⟩

end JsonDesk.Disk
