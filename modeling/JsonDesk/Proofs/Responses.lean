import JsonDesk.Proofs.Serializing
import JsonDesk.Proofs.Transparency

/-!
What any message is answered with.  Which messages cannot be served, and what the others are served
with, is told from the message alone: from the shape of its payload, and from what the engine makes
of the texts and the indent in it.
-/

set_option autoImplicit false

namespace JsonDesk
open Json

/-! ### Payloads -/

/-- `Holds p t`: the document of the payload is the text. -/
inductive Holds : Json → Text → Prop
  | none : Holds .null []
  | text {t : Text} : Holds (.str t) t
  | record {ms : Members} {t : Text} : field ms "text" = .str t → Holds (.obj ms) t

/-- `Indents p n`: the indent of the payload is the number, which is two unless a record has one. -/
inductive Indents : Json → Int → Prop
  | other {p : Json} : (∀ ms, p ≠ .obj ms) → Indents p 2
  | missing {ms : Members} : field ms "indent" = .null → Indents (.obj ms) 2
  | given {ms : Members} {n : Int} :
    field ms "indent" ≠ .null → (field ms "indent").toInt = .ok n → Indents (.obj ms) n

/-- The payloads that an operation has no objection to. -/
def Admitted (p : Json) : Operation → Prop
  | .validate | .stats | .minify => ∃ t, Holds p t
  | .compare => ∃ ms l r, p = .obj ms ∧ Holds (field ms "left") l ∧ Holds (field ms "right") r
  | .format | .sortKeys => (∃ t, Holds p t) ∧ ∃ n, Indents p n

/-- What the engine gives for the documents and the indent of a payload. -/
inductive Gives [StackRoom] : Operation → Json → Json → Prop
  | validate {p : Json} {t : Text} : Holds p t → Gives .validate p (.obj (Report.ofText t).toMembers)
  | stats {p : Json} {t : Text} : Holds p t → Gives .stats p (.obj (Stats.ofText t).toMembers)
  | compare {ms : Members} {l r : Text} : Holds (field ms "left") l → Holds (field ms "right") r →
    Gives .compare (.obj ms) (.arr ((JsonDesk.compare l r).map fun d =>
      .obj (DifferenceNote.ofDifference [] d).toMembers))
  | format {p : Json} {t u : Text} {n : Int} :
    Holds p t → Indents p n → t.format n = .ok u → Gives .format p (.str u)
  | minify {p : Json} {t : Text} : Holds p t → Gives .minify p (.str t.minify)
  | sortKeys {p : Json} {t u : Text} {n : Int} :
    Holds p t → Indents p n → t.sortKeys n = .ok u → Gives .sortKeys p (.str u)

theorem Text.exists_reshape [StackRoom] (t : Text) (how : Reshape) {n : Int}
    (h : n < Layout.indexLimit) :
    ∃ u, t.reshape how (some n) = .ok u := by
  have hlayout := Layout.obstacle?_ofIndent_of_lt (n := some n) (by simpa using h)
  rw [reshape, Reshape.run]
  cases (validate t).value? with
  | none => exact ⟨t, rfl⟩
  | some v =>
    have hobstacle := obstacle?_of_layout hlayout (how.apply v)
    cases hfinite : (how.apply v).nonFinite? with
    | none =>
      rw [hfinite] at hobstacle
      simp only [serialize_of_none hobstacle]
      exact ⟨_, rfl⟩
    | some d =>
      rw [hfinite] at hobstacle
      simp only [serialize_of_some hobstacle]
      exact ⟨t, rfl⟩

namespace Operation

variable {op : Operation} {p r : Json} {t : Text} {n : Int}

theorem documentOf_eq_ok_iff : documentOf p = .ok t ↔ Holds p t := by
  constructor
  · intro h
    cases p with
    | null =>
      cases h
      exact .none
    | str s =>
      cases h
      exact .text
    | obj ms =>
      rw [documentOf] at h
      cases hfield : field ms "text" with
      | str s =>
        simp only [hfield] at h
        cases h
        exact .record hfield
      | _ =>
        simp only [hfield] at h
        cases h
    | _ => cases h
  · rintro (_ | _ | hfield)
    · rfl
    · rfl
    · simp only [documentOf, hfield]

theorem indentOf_eq_ok_iff : indentOf p = .ok n ↔ Indents p n := by
  constructor
  · intro h
    cases p with
    | obj ms =>
      rw [indentOf] at h
      by_cases hnull : field ms "indent" = .null
      · simp only [hnull] at h
        cases h
        exact .missing hnull
      · refine .given hnull ?_
        cases hfield : field ms "indent" with
        | null => exact absurd hfield hnull
        | _ => simpa only [hfield] using h
    | _ =>
      cases h
      exact .other (by simp)
  · rintro (hobj | hnull | ⟨hnull, hint⟩)
    · cases p with
      | obj ms => exact absurd rfl (hobj ms)
      | _ => rfl
    · simp only [indentOf, hnull]
      rfl
    · rw [indentOf]
      split
      · next hfield => exact absurd hfield hnull
      · exact hint

theorem bind_eq_ok_iff {α β : Type} {x : Except Failure α} {f : α → Except Failure β} {b : β} :
    (x >>= f) = .ok b ↔ ∃ a, x = .ok a ∧ f a = .ok b := by
  cases x <;> simp [bind, Except.bind]

theorem pure_eq_ok_iff {α : Type} {a b : α} : (pure a : Except Failure α) = .ok b ↔ a = b := by
  simp [pure, Except.pure]

theorem serve_eq_ok_iff [StackRoom] : op.serve p = .ok r ↔ Gives op p r := by
  constructor
  · intro h
    cases op with
    | validate =>
      obtain ⟨t, ht, hr⟩ := bind_eq_ok_iff.mp h
      exact pure_eq_ok_iff.mp hr ▸ .validate (documentOf_eq_ok_iff.mp ht)
    | stats =>
      obtain ⟨t, ht, hr⟩ := bind_eq_ok_iff.mp h
      exact pure_eq_ok_iff.mp hr ▸ .stats (documentOf_eq_ok_iff.mp ht)
    | compare =>
      cases p with
      | obj ms =>
        obtain ⟨l, hl, h⟩ := bind_eq_ok_iff.mp h
        obtain ⟨r, hr, h⟩ := bind_eq_ok_iff.mp h
        exact pure_eq_ok_iff.mp h ▸
          .compare (documentOf_eq_ok_iff.mp hl) (documentOf_eq_ok_iff.mp hr)
      | _ => cases h
    | format =>
      obtain ⟨t, ht, h⟩ := bind_eq_ok_iff.mp h
      obtain ⟨n, hn, h⟩ := bind_eq_ok_iff.mp h
      obtain ⟨u, hu, hr⟩ := bind_eq_ok_iff.mp h
      exact pure_eq_ok_iff.mp hr ▸
        .format (documentOf_eq_ok_iff.mp ht) (indentOf_eq_ok_iff.mp hn) hu
    | minify =>
      obtain ⟨t, ht, hr⟩ := bind_eq_ok_iff.mp h
      exact pure_eq_ok_iff.mp hr ▸ .minify (documentOf_eq_ok_iff.mp ht)
    | sortKeys =>
      obtain ⟨t, ht, h⟩ := bind_eq_ok_iff.mp h
      obtain ⟨n, hn, h⟩ := bind_eq_ok_iff.mp h
      obtain ⟨u, hu, hr⟩ := bind_eq_ok_iff.mp h
      exact pure_eq_ok_iff.mp hr ▸
        .sortKeys (documentOf_eq_ok_iff.mp ht) (indentOf_eq_ok_iff.mp hn) hu
  · rintro (ht | ht | ⟨hl, hr⟩ | ⟨ht, hn, hu⟩ | ht | ⟨ht, hn, hu⟩)
    · rw [serve, documentOf_eq_ok_iff.mpr ht]
      rfl
    · rw [serve, documentOf_eq_ok_iff.mpr ht]
      rfl
    · simp only [serve, documentOf_eq_ok_iff.mpr hl, documentOf_eq_ok_iff.mpr hr]
      rfl
    · simp only [serve, documentOf_eq_ok_iff.mpr ht, indentOf_eq_ok_iff.mpr hn, bind, Except.bind, hu]
      rfl
    · rw [serve, documentOf_eq_ok_iff.mpr ht]
      rfl
    · simp only [serve, documentOf_eq_ok_iff.mpr ht, indentOf_eq_ok_iff.mpr hn, bind, Except.bind, hu]
      rfl

theorem admitted_iff [StackRoom] (h : ∀ n, Indents p n → n < Layout.indexLimit) :
    Admitted p op ↔ ∃ r, Gives op p r := by
  constructor
  · intro hp
    cases op with
    | validate => exact hp.imp' _ fun t ht => .validate ht
    | stats => exact hp.imp' _ fun t ht => .stats ht
    | minify => exact hp.imp' _ fun t ht => .minify ht
    | compare =>
      obtain ⟨ms, l, r, rfl, hl, hr⟩ := hp
      exact ⟨_, .compare hl hr⟩
    | format =>
      obtain ⟨⟨t, ht⟩, n, hn⟩ := hp
      obtain ⟨u, hu⟩ := t.exists_reshape .keep (h n hn)
      exact ⟨_, .format ht hn hu⟩
    | sortKeys =>
      obtain ⟨⟨t, ht⟩, n, hn⟩ := hp
      obtain ⟨u, hu⟩ := t.exists_reshape .sortNames (h n hn)
      exact ⟨_, .sortKeys ht hn hu⟩
  · rintro ⟨r, ht | ht | ⟨hl, hr⟩ | ⟨ht, hn, -⟩ | ht | ⟨ht, hn, -⟩⟩
    · exact ⟨_, ht⟩
    · exact ⟨_, ht⟩
    · exact ⟨_, _, _, rfl, hl, hr⟩
    · exact ⟨⟨_, ht⟩, _, hn⟩
    · exact ⟨_, ht⟩
    · exact ⟨⟨_, ht⟩, _, hn⟩

theorem ofName?_eq_some_iff : ofName? t = some op ↔ t = op.name := by
  constructor
  · intro h
    have hname := List.find?_some h
    simpa [eq_comm] using hname
  · rintro rfl
    exact ofName?_name op

theorem name_injective : Function.Injective name := fun op op' h =>
  Option.some.inj ((ofName?_name op).symm.trans (h ▸ ofName?_name op'))

end Operation

/-! ### Messages -/

/-- The messages that cannot be served: those that are no record, name no operation, or have a
payload that the operation objects to. -/
inductive Unservable : Json → Prop
  | notRecord {m : Json} : (∀ ms, m ≠ .obj ms) → Unservable m
  | noType {ms : Members} : ms.get? "type" = none → Unservable (.obj ms)
  | unknownType {ms : Members} {v : Json} :
    ms.get? "type" = some v → (∀ op : Operation, v ≠ .str op.name) → Unservable (.obj ms)
  | notAdmitted {ms : Members} {op : Operation} : ms.get? "type" = some (.str op.name) →
    ¬ Admitted (field ms "payload") op → Unservable (.obj ms)

def messageId : Json → Json
  | .obj ms => field ms "id"
  | _ => .null

section

variable {m v : Json} {ms : Members} {op : Operation}

theorem respond_of_type [StackRoom] (h : ms.get? "type" = some (.str op.name)) : respond (.obj ms) =
    match op.serve (field ms "payload") with
    | .ok r => ⟨op.resultType, r, messageId (.obj ms)⟩
    | .error e => .error e.message (messageId (.obj ms)) := by
  simp only [respond, requestedType, h, hashable, bind, Except.bind, Operation.ofName?_name]
  cases op.serve (field ms "payload") <;> rfl

theorem respond_of_notRecord [StackRoom] (h : ∀ ms, m ≠ .obj ms) :
    ∃ detail, respond m = .error detail .null := by
  cases m with
  | obj ms => exact absurd rfl (h ms)
  | _ => exact ⟨_, rfl⟩

theorem respond_of_noType [StackRoom] (h : ms.get? "type" = none) :
    ∃ detail, respond (.obj ms) = .error detail (messageId (.obj ms)) :=
  ⟨(Failure.missingKey (.str "type")).message, by
    simp only [respond, requestedType, h, bind, Except.bind, messageId]⟩

theorem respond_of_unknownType [StackRoom] (h : ms.get? "type" = some v)
    (hv : ∀ op : Operation, v ≠ .str op.name) :
    ∃ detail, respond (.obj ms) = .error detail (messageId (.obj ms)) := by
  simp only [respond, requestedType, h, messageId, bind, Except.bind]
  cases v with
  | str t =>
    have hname : Operation.ofName? t = none := by
      cases hop : Operation.ofName? t with
      | none => rfl
      | some op => exact absurd (congrArg Json.str (Operation.ofName?_eq_some_iff.mp hop)) (hv op)
    simp only [hashable, hname]
    exact ⟨_, rfl⟩
  | _ => exact ⟨_, rfl⟩

theorem respond_of_unservable [StackRoom] (h : Unservable m)
    (hn : ∀ ms n, m = .obj ms → Indents (field ms "payload") n → n < Layout.indexLimit) :
    ∃ detail, respond m = .error detail (messageId m) := by
  cases h with
  | notRecord hm =>
    have hid : messageId m = .null := by
      cases m with
      | obj ms => exact absurd rfl (hm ms)
      | _ => rfl
    exact hid ▸ respond_of_notRecord hm
  | noType htype => exact respond_of_noType htype
  | unknownType htype hv => exact respond_of_unknownType htype hv
  | @notAdmitted ms op htype hp =>
    rw [respond_of_type htype]
    cases hserve : op.serve (field ms "payload") with
    | error e => exact ⟨e.message, rfl⟩
    | ok r =>
      have hgives := Operation.serve_eq_ok_iff.mp hserve
      exact absurd ((Operation.admitted_iff fun n => hn ms n rfl).mpr ⟨r, hgives⟩) hp

theorem not_unservable_iff : ¬ Unservable m ↔ ∃ (ms : Members) (op : Operation),
    m = .obj ms ∧ ms.get? "type" = some (.str op.name) ∧ Admitted (field ms "payload") op := by
  constructor
  · intro h
    by_contra hnone
    refine h ?_
    cases m with
    | obj ms =>
      cases htype : Members.get? ms "type" with
      | none => exact .noType htype
      | some v =>
        by_cases hv : ∃ op : Operation, v = .str op.name
        · obtain ⟨op, rfl⟩ := hv
          exact .notAdmitted htype fun hp => hnone ⟨ms, op, rfl, htype, hp⟩
        · exact .unknownType htype (not_exists.mp hv)
    | _ => exact .notRecord (by simp)
  · rintro ⟨ms, op, rfl, htype, hp⟩ h
    cases h with
    | notRecord hm => exact hm ms rfl
    | noType hnone =>
      rw [hnone] at htype
      cases htype
    | unknownType hsome hv =>
      rw [hsome] at htype
      exact hv op (Option.some.inj htype)
    | notAdmitted hsome hnot =>
      rw [hsome] at htype
      cases Operation.name_injective (Json.str.inj (Option.some.inj htype))
      exact hnot hp

end

/-- Every message is answered, under its own id.  The answer is an error, with some text as its
detail, just if the message cannot be served; otherwise it is the result of the operation that the
message names, and its payload is what the engine gives and nothing else. -/
theorem respond_well_formed [StackRoom] (m : Json)
    (h : ∀ ms n, m = .obj ms → Indents (field ms "payload") n → n ≤ 1000) :
    (respond m).id = messageId m ∧
      ((respond m).type = Response.errorType ↔ Unservable m) ∧
      (Unservable m → ∃ detail, (respond m).payload = .str detail) ∧
      (¬ Unservable m → ∃ (ms : Members) (op : Operation), m = .obj ms ∧
        ms.get? "type" = some (.str op.name) ∧ (respond m).type = op.name ++ "_RESULT" ∧
        ∀ r, Gives op (field ms "payload") r ↔ r = (respond m).payload) := by
  have hn : ∀ ms n, m = .obj ms → Indents (field ms "payload") n → n < Layout.indexLimit := by
    intro ms n hm hindent
    have hsmall : (1000 : Int) < Layout.indexLimit := by decide
    exact lt_of_le_of_lt (h ms n hm hindent) hsmall
  by_cases hm : Unservable m
  · obtain ⟨detail, hrespond⟩ := respond_of_unservable hm hn
    rw [hrespond]
    exact ⟨rfl, iff_of_true rfl hm, fun _ => ⟨detail, rfl⟩, absurd hm⟩
  · obtain ⟨ms, op, rfl, htype, hp⟩ := not_unservable_iff.mp hm
    obtain ⟨r, hr⟩ := (Operation.admitted_iff fun n => hn ms n rfl).mp hp
    have hserve := Operation.serve_eq_ok_iff.mpr hr
    rw [respond_of_type htype, hserve]
    refine ⟨rfl, iff_of_false op.resultType_ne_errorType hm, fun h => absurd h hm, fun _ => ?_⟩
    refine ⟨ms, op, rfl, htype, rfl, fun r' => ?_⟩
    rw [← Operation.serve_eq_ok_iff, hserve, Except.ok.injEq, eq_comm]

/-- The indent of this request is a text that spells a number. -/
theorem respond_well_formed_spelled :
    (respond (.obj [("type", .str "FORMAT"), ("payload", .obj [("text", .str "[1]"),
      ("indent", .str " 4 ")]), ("id", .int 7)])).id = .int 7 ∧
    (respond (.obj [("type", .str "FORMAT"), ("payload", .obj [("text", .str "[1]"),
      ("indent", .str " 4 ")]), ("id", .int 7)])).type = "FORMAT_RESULT" := by
  have hindent : Operation.indentOf (.obj [("text", .str "[1]"), ("indent", .str " 4 ")]) =
      .ok 4 := by cbv
  have htext : Holds (.obj [("text", .str "[1]"), ("indent", .str " 4 ")]) "[1]" := .record rfl
  obtain ⟨hid, -, -, hresult⟩ := respond_well_formed
    (.obj [("type", .str "FORMAT"), ("payload", .obj [("text", .str "[1]"),
      ("indent", .str " 4 ")]), ("id", .int 7)]) (by
    rintro ms n ⟨⟩ hn
    cases hindent.symm.trans (Operation.indentOf_eq_ok_iff.mpr hn)
    decide)
  have hadmitted : Admitted (.obj [("text", .str "[1]"), ("indent", .str " 4 ")]) .format :=
    ⟨⟨_, htext⟩, 4, Operation.indentOf_eq_ok_iff.mp hindent⟩
  obtain ⟨ms, op, ⟨⟩, htype, htyped, -⟩ :=
    hresult (not_unservable_iff.mpr ⟨_, .format, rfl, rfl, hadmitted⟩)
  obtain rfl : Operation.format = op :=
    Operation.name_injective (Json.str.inj (Option.some.inj htype))
  exact ⟨hid, htyped⟩

end JsonDesk
