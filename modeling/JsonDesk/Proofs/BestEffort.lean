import JsonDesk.Disk.LogFile

set_option autoImplicit false

namespace JsonDesk

/-- All ways in which it fails are put up with by best-effort work. -/
def Tolerable {α : Type} (x : Except Failure α) : Prop :=
  ∀ f, x = .error f → f.kind.tolerable = true

namespace Tolerable

variable {α β : Type}

theorem ok (a : α) : Tolerable (.ok a) := fun _ h => by cases h

theorem error {f : Failure} (hf : f.kind.tolerable = true) : Tolerable (.error f : Except Failure α)
  | _, rfl => hf

theorem bind {x : Except Failure α} {f : α → Except Failure β} (hx : Tolerable x)
    (hf : ∀ a, Tolerable (f a)) : Tolerable (x >>= f) := by
  cases x with
  | ok a => exact hf a
  | error e => exact error (hx e rfl)

theorem map {x : Except Failure α} {f : α → β} (hx : Tolerable x) : Tolerable (x.map f) := by
  cases x with
  | ok a => exact ok _
  | error e => exact error (hx e rfl)

theorem system (x : Except SystemProblem α) (path : Option Text) :
    Tolerable (x.mapError fun e => .system e path) := by
  cases x with
  | ok a => exact ok a
  | error e => exact error rfl

end Tolerable

namespace Disk

theorem tolerable_checkPath (p : Text) : Tolerable (checkPath p) := by
  unfold checkPath
  dsimp only
  repeat' split
  all_goals first | exact .ok _ | exact .error rfl

theorem tolerable_locate (d : Disk) (p : Text) : Tolerable (d.locate p) :=
  (tolerable_checkPath p).bind fun _ => .system _ _

theorem tolerable_checkDirectory (d : Disk) (p : Text) (l : Location) :
    Tolerable (d.checkDirectory p l) := by
  unfold checkDirectory
  split
  · exact .ok _
  · exact .error rfl
  · exact .error rfl

theorem tolerable_writable (d : Disk) (p : Text) : Tolerable (d.writable p) := by
  refine (tolerable_checkPath p).bind fun _ => ?_
  split
  · exact Tolerable.bind (.system _ _) fun l =>
      (tolerable_checkDirectory _ _ _).bind fun _ => .error rfl
  · refine (tolerable_locate d p).bind fun l => ?_
    split
    · exact .error rfl
    · exact .ok _
    · exact (tolerable_checkDirectory _ _ _).bind fun _ => .ok _

theorem tolerable_makeDirectory (d : Disk) (p : Text) : Tolerable (d.makeDirectory p) := by
  refine (tolerable_checkPath p).bind fun _ => Tolerable.bind (.system _ _) fun l => ?_
  split
  · exact .error rfl
  · exact (tolerable_checkDirectory _ _ _).bind fun _ => .ok _

theorem tolerable_ensureDirectory (d : Disk) (p : Text) : Tolerable (d.ensureDirectory p).1 := by
  have hmake := tolerable_makeDirectory d p
  unfold ensureDirectory
  split
  · exact .ok _
  · split
    · exact .ok _
    · exact .error rfl
  · next h => exact .error (hmake _ h)

theorem tolerable_last {c : Prop} [Decidable c] (d : Disk) (p : Text) : Tolerable
    (if _ : c then (.ok (), d) else d.ensureDirectory p : Except Failure Unit × Disk).1 := by
  split
  · exact .ok _
  · exact tolerable_ensureDirectory d p

theorem tolerable_makeDirectories (d : Disk) (p : Text) :
    Tolerable (d.makeDirectories p).1 := by
  fun_induction makeDirectories d p with
  | case1 p whole name parent h this last path d' heq ih => exact tolerable_last d' p
  | case2 p whole name parent h this e d' hother heq ih => exact .error (ih e (by rw [heq]))
  | case3 p whole name parent h this last d' heq ih => exact tolerable_last d' p
  | case4 p whole name parent h => exact tolerable_ensureDirectory d p

/-! ### Steps on a disk -/

variable {α β : Type}

/-- Wherever the step fails, best-effort work goes on. -/
def Tolerant (m : DiskM α) : Prop := ∀ d, Tolerable (m.run.run d).1

namespace Tolerant

theorem pure (a : α) : Tolerant (pure a) := fun _ => .ok a

theorem bind {m : DiskM α} {f : α → DiskM β} (hm : Tolerant m) (hf : ∀ a, Tolerant (f a)) :
    Tolerant (m >>= f) := by
  intro d
  have hd := hm d
  simp only [ExceptT.run_bind, StateT.run_bind]
  generalize m.run.run d = r at hd ⊢
  obtain ⟨x, d'⟩ := r
  cases x with
  | ok a => exact hf a d'
  | error e => exact .error (hd e rfl)

theorem get {f : Disk → DiskM α} (hf : ∀ d, Tolerant (f d)) : Tolerant (get >>= f) :=
  fun d => hf d d

theorem lift {x : Except Failure α} (hx : Tolerable x) :
    Tolerant (liftM x : DiskM α) := by
  intro d
  cases x with
  | ok a => exact .ok a
  | error e => exact .error (hx e rfl)

theorem act {f : Disk → Except Failure Disk} (hf : ∀ d, Tolerable (f d)) : Tolerant (act f) := by
  refine get fun d e => ?_
  have hd := hf d
  cases h : f d with
  | ok d' => exact .ok _
  | error e => exact .error (hd e h)

theorem change {f : Disk → Except Failure Unit × Disk} (hf : ∀ d, Tolerable (f d).1) :
    Tolerant (change f) := hf

theorem run_tryCatch {m : DiskM α} (hm : Tolerant m) (a : α) (d : Disk) :
    ∃ b d', (tryCatch m fun e => if e.kind.tolerable then Pure.pure a else throw e).run.run d =
      (.ok b, d') := by
  have hd := hm d
  simp only [ExceptT.run_tryCatch, StateT.run_bind]
  generalize m.run.run d = r at hd ⊢
  obtain ⟨x, d'⟩ := r
  cases x with
  | ok b => exact ⟨b, d', rfl⟩
  | error e =>
    have he : e.kind.tolerable = true := hd e rfl
    refine ⟨a, d', ?_⟩
    show (if e.kind.tolerable then Pure.pure a else throw e : DiskM α).run.run d' = _
    rw [if_pos he]
    rfl

end Tolerant

theorem tolerant_trimFile (path : Text) (most keep : Nat) :
    Tolerant (trimFile path (.ofNat most) (.ofNat keep)) := by
  refine .get fun d => ?_
  split
  · refine .bind (.lift (.ok _)) fun limit => ?_
    split
    · exact .bind (.lift (.ok _)) fun n => .act fun d => (tolerable_writable d path).map
    · exact .pure _
  · exact .pure _

theorem tolerant_tolerate {m : DiskM Unit} (hm : Tolerant m) : Tolerant (tolerate m) := by
  intro d
  obtain ⟨b, d', hrun⟩ := hm.run_tryCatch () d
  have htolerate : (tolerate m).run.run d = (.ok b, d') := hrun
  rw [htolerate]
  exact .ok b

end Disk

theorem Report.line_ofText {t : Text} {note : ErrorNote} (h : (ofText t).error = some note) :
    ∃ line, note.remark.line = .ofNat? line := by
  unfold ofText at h
  cases hv : validate t with
  | valid v => simp [hv, ofVerdict] at h
  | invalid message d =>
    simp only [hv, ofVerdict, Option.some.injEq] at h
    exact ⟨d.place.line?, by rw [← h]; rfl⟩

theorem Log.exists_entry (now : Stamp) (action text : Text) (t : Text) :
    ∃ entry, Log.entry now action text (Report.ofText t) = .ok entry := by
  unfold Log.entry
  cases herror : (Report.ofText t).error with
  | none => exact ⟨_, rfl⟩
  | some note =>
    obtain ⟨line, hline⟩ := Report.line_ofText herror
    simp only [Option.map_some, Option.getD_some, hline]
    cases line with
    | none => exact ⟨_, rfl⟩
    | some n =>
      split
      · exact ⟨_, rfl⟩
      · exact ⟨_, rfl⟩

theorem Disk.run_logInvalid (now : Stamp) (path action text t : Text) (most keep : Nat) (d : Disk) :
    ∃ b d', (logInvalid now path action text (Report.ofText t) (.ofNat most)
      (.ofNat keep)).run.run d = (.ok b, d') := by
  unfold logInvalid
  split
  · exact ⟨false, d, rfl⟩
  · refine Tolerant.run_tryCatch ?_ false d
    obtain ⟨entry, hentry⟩ := Log.exists_entry now action text t
    have hentry : Tolerable (Log.entry now action text (Report.ofText t)) := hentry ▸ .ok entry
    have happend (bytes : List UInt8) : Tolerant (act fun d => d.append path bytes) :=
      .act fun d => (tolerable_writable d path).map
    dsimp only
    split
    case' isTrue => refine .bind (.change fun d => tolerable_makeDirectories d _) fun _ => ?_
    -- with the directory there, the entry is appended in either case
    all_goals
      refine .bind (tolerant_tolerate (tolerant_trimFile path most keep)) fun _ => ?_
      refine .bind (.lift hentry) fun entry => ?_
      split
      · exact .bind (happend _) fun _ => .pure _
      · exact .bind (happend _) fun _ => .pure _

end JsonDesk
