import Mathlib.Data.List.ReduceOption
import UptimeSync.Proofs.Wire.Coercion

namespace UptimeSync

namespace Json

def isNull : Json → Bool
  | null => true
  | _ => false

/-- Holds of the values that hold no other values. -/
def isScalar : Json → Bool
  | array _ | object _ => false
  | _ => true

theorem exists_ofJson_iff {v : Json} : (∃ s, Scalar.ofJson v = .ok s) ↔ v.isScalar = true := by
  cases v <;> simp [Scalar.ofJson, isScalar]

/-- The laws of a list of scalars of which each is read by itself. -/
structure ReadsScalars {α : Type} (readOne : Json → Except Fault α) (readAll : Json → Except Fault (List α)) :
    Prop where
  /-- A scalar is read as the list of it alone, and refused just as that is. -/
  lone (v : Json) (hscalar : v.isScalar = true) : readAll v = readAll (.array [v])
  /-- Nulls are left out, and every other item contributes what it is read as, in order. -/
  items (items : List Json) (as : List α) :
    readAll (.array items) = .ok as ↔
      List.Forall₂ (fun v a => readOne v = .ok a) (items.filter fun v => !v.isNull) as
  append (first second : List Json) (as : List α) :
    readAll (.array (first ++ second)) = .ok as ↔
      ∃ before after, readAll (.array first) = .ok before ∧ readAll (.array second) = .ok after ∧
        as = before ++ after
  length (items : List Json) (as : List α) (hread : readAll (.array items) = .ok as) :
    as.length = items.countP fun v => !v.isNull
  object (members : Members) : readAll (.object members) = .error .notScalarList
  nested (items : List Json) (hnested : ∃ v ∈ items, v.isScalar = false) :
    readAll (.array items) = .error .notScalarList

theorem ReadsScalars.exists_ok {α : Type} {readOne : Json → Except Fault α} {readAll : Json → Except Fault (List α)}
    (hreads : ReadsScalars readOne readAll) {items : List Json} :
    (∃ as, readAll (.array items) = .ok as) ↔ ∀ v ∈ items, v.isNull = false → ∃ a, readOne v = .ok a := by
  simp only [hreads.items, ← Except.mapM_eq_ok, Except.exists_mapM_eq_ok, List.mem_filter, Bool.not_eq_true', and_imp]

end Json

namespace Scalar

variable {α : Type} {convert : Scalar → Except Fault (Option α)} {items : List Json} {as : List α} {v : Json}

/-- The scalar that a value holds, converted if it is present. -/
def readOne (convert : Scalar → Except Fault (Option α)) (v : Json) : Except Fault (Option α) :=
  ofJson v >>= convert

/-- The scalars that a value holds, converted as far as they are present. -/
def readAll (convert : Scalar → Except Fault (Option α)) (v : Json) : Except Fault (List α) := do
  let scalars ← listOfJson v
  (·.reduceOption) <$> scalars.mapM convert

theorem readAll_array_eq_ok :
    readAll convert (.array items) = .ok as ↔
      ∃ parts, items.mapM (readOne convert) = .ok parts ∧ parts.reduceOption = as := by
  have hread : readAll convert (.array items) = .ok as ↔
      ∃ scalars, items.mapM ofJson = .ok scalars ∧
        ∃ parts, scalars.mapM convert = .ok parts ∧ parts.reduceOption = as := by
    simp only [readAll, listOfJson, Except.bind_eq_ok, Except.mapError_eq_ok]
    refine exists_congr fun scalars => and_congr_right fun _ => ?_
    exact Except.map_eq_ok
  rw [hread]
  change _ ↔ ∃ parts, items.mapM (fun v => ofJson v >>= convert) = .ok parts ∧ _
  simp only [← Except.mapM_mapM_eq_ok]
  constructor
  · rintro ⟨scalars, hscalars, parts, hparts, has⟩
    exact ⟨parts, ⟨scalars, hscalars, hparts⟩, has⟩
  · rintro ⟨parts, ⟨scalars, hscalars, hparts⟩, has⟩
    exact ⟨scalars, hscalars, parts, hparts, has⟩

theorem readOne_eq_none_iff (habsent : ∀ s, convert s = .ok none ↔ s = absent) :
    readOne convert v = .ok none ↔ v.isNull = true := by
  rw [readOne, Except.bind_eq_ok]
  simp only [habsent, exists_eq_right]
  cases v with
  | integer n =>
    rw [ofJson]
    split <;> simp [Json.isNull]
  | _ => simp [ofJson, Json.isNull]

/-- A value other than null is present. -/
theorem readOne_getD_eq_ok (habsent : ∀ s, convert s = .ok none ↔ s = absent) (hv : v.isNull = false) (default a : α) :
    (readOne convert v).map (·.getD default) = .ok a ↔ readOne convert v = .ok (some a) := by
  rw [Except.map_eq_ok]
  constructor
  · rintro ⟨part, hpart, rfl⟩
    cases part with
    | none =>
      rw [(readOne_eq_none_iff habsent).mp hpart] at hv
      cases hv
    | some a => exact hpart
  · exact fun hread => ⟨some a, hread, rfl⟩

/-- Where just nulls convert to nothing, what is left is what the other items are read as. -/
theorem mapM_readOne_eq_ok (habsent : ∀ s, convert s = .ok none ↔ s = absent) (default : α) :
    (∃ parts, items.mapM (readOne convert) = .ok parts ∧ parts.reduceOption = as) ↔
      List.Forall₂ (fun v a => (readOne convert v).map (·.getD default) = .ok a)
        (items.filter fun v => !v.isNull) as := by
  simp only [Except.mapM_eq_ok]
  induction items generalizing as with
  | nil => simp [eq_comm]
  | cons v rest ih =>
    cases hv : v.isNull with
    | true =>
      have hnone : readOne convert v = .ok none := (readOne_eq_none_iff habsent).mpr hv
      rw [List.filter_cons, hv, if_neg (by decide), ← ih]
      constructor
      · rintro ⟨parts, hparts, rfl⟩
        cases hparts with
        | cons hpart hparts =>
          rw [hnone] at hpart
          cases hpart
          exact ⟨_, hparts, rfl⟩
      · rintro ⟨parts, hparts, rfl⟩
        exact ⟨none :: parts, .cons hnone hparts, rfl⟩
    | false =>
      have hpresent := readOne_getD_eq_ok habsent hv default
      rw [List.filter_cons, hv, if_pos (by decide), List.forall₂_cons_left_iff]
      simp only [hpresent]
      constructor
      · rintro ⟨parts, hparts, rfl⟩
        cases hparts with
        | @cons _ part _ _ hpart hparts =>
          cases part with
          | none => rw [(readOne_eq_none_iff habsent).mp hpart] at hv; cases hv
          | some a => exact ⟨a, _, hpart, ih.mp ⟨_, hparts, rfl⟩, List.reduceOption_cons_of_some _ _⟩
      · rintro ⟨a, others, ha, hothers, rfl⟩
        obtain ⟨parts, hparts, rfl⟩ := ih.mpr hothers
        exact ⟨some a :: parts, .cons ha hparts, List.reduceOption_cons_of_some _ _⟩

theorem readAll_lone (hscalar : v.isScalar = true) : readAll convert v = readAll convert (.array [v]) := by
  obtain ⟨s, hs⟩ := Json.exists_ofJson_iff.mpr hscalar
  have hlone : listOfJson v = .ok [s] := by
    cases v with
    | array | object => cases hscalar
    | _ => exact congrArg (fun x => (x.map ([·])).mapError fun _ => Fault.notScalarList) hs
  have hlisted : listOfJson (.array [v]) = .ok [s] := by
    rw [listOfJson, List.mapM_cons, hs]
    rfl
  rw [readAll, readAll, hlone, hlisted]

theorem readAll_nested (hnested : ∃ v ∈ items, v.isScalar = false) :
    readAll convert (.array items) = .error .notScalarList := by
  obtain ⟨v, hv, hcontainer⟩ := hnested
  have hrefused : ∀ scalars, items.mapM ofJson ≠ .ok scalars := by
    intro scalars hscalars
    have hscalar := Json.exists_ofJson_iff.mp (Except.exists_mapM_eq_ok.mp ⟨scalars, hscalars⟩ v hv)
    rw [hcontainer] at hscalar
    cases hscalar
  obtain ⟨fault, hfault⟩ := Except.exists_error_of_ne_ok hrefused
  rw [readAll, listOfJson, hfault]
  rfl

/-- The laws hold of every conversion that gives nothing for what is absent, and only for that. -/
theorem readsScalars (habsent : ∀ s, convert s = .ok none ↔ s = absent) (default : α) :
    Json.ReadsScalars (fun v => (readOne convert v).map (·.getD default)) (readAll convert) := by
  have hitems (items : List Json) (as : List α) :
      readAll convert (.array items) = .ok as ↔
        List.Forall₂ (fun v a => (readOne convert v).map (·.getD default) = .ok a)
          (items.filter fun v => !v.isNull) as :=
    readAll_array_eq_ok.trans (mapM_readOne_eq_ok habsent default)
  refine ⟨fun v => readAll_lone, hitems, fun first second as => ?_, fun items as hread => ?_, fun _ => rfl,
    fun items => readAll_nested⟩
  · simp only [hitems, ← Except.mapM_eq_ok, List.filter_append, List.mapM_append, Except.bind_eq_ok]
    constructor
    · rintro ⟨before, hbefore, after, hafter, ⟨⟩⟩
      exact ⟨before, after, hbefore, hafter, rfl⟩
    · rintro ⟨before, after, hbefore, hafter, rfl⟩
      exact ⟨before, hbefore, after, hafter, rfl⟩
  · rw [List.countP_eq_length_filter, ((hitems items as).mp hread).length_eq]

end Scalar

namespace Json

theorem looseInts_readsScalars : ReadsScalars looseInt looseInts := by
  have habsent (s : Scalar) : s.toInt? = .ok none ↔ s = .absent := by
    cases s with
    | text s => simp [Scalar.toInt?, Except.map_eq_ok]
    | _ => simp [Scalar.toInt?]
  exact Scalar.readsScalars habsent 0

theorem looseTexts_readsScalars : ReadsScalars looseText looseTexts := by
  have hread : looseTexts = Scalar.readAll fun s => .ok s.toText? := by
    funext v
    have hconverted (scalars : List Scalar) :
        scalars.mapM (fun s => .ok s.toText?) = (.ok (scalars.map Scalar.toText?) : Except Fault _) := by
      rw [Except.mapM_eq_ok, List.forall₂_map_right_iff, List.forall₂_same]
      exact fun _ _ => rfl
    rw [looseTexts, Scalar.readAll]
    simp only [hconverted]
    cases Scalar.listOfJson v with
    | error fault => rfl
    | ok scalars =>
      have hkept : (scalars.map Scalar.toText?).reduceOption = scalars.filterMap Scalar.toText? := by
        rw [List.reduceOption, List.filterMap_map, Function.id_comp]
      exact congrArg Except.ok hkept.symm
  have hone : looseText = fun v => (Scalar.readOne (fun s => .ok s.toText?) v).map (·.getD "") := by
    funext v
    rw [looseText, looseOptText, Scalar.readOne]
    cases Scalar.ofJson v <;> rfl
  rw [hread, hone]
  refine Scalar.readsScalars (fun s => ?_) ""
  cases s <;> simp [Scalar.toText?]

/-- Holds of the texts that are read as no number: not blank, and neither an integer of 64 bits nor a double. -/
def NoNumber (s : String) : Prop :=
  let trimmed := (Text.trim s).toList
  trimmed ≠ [] ∧ Decimal.readInt64? trimmed = none ∧ Decimal.readReal? trimmed = none

theorem exists_textToInt_iff {s : String} : (∃ n, Scalar.textToInt s = .ok n) ↔ ¬NoNumber s := by
  rw [Scalar.textToInt, NoNumber]
  split
  next hblank => simp [hblank]
  next hshown =>
    cases hinteger : Decimal.readInt64? (Text.trim s).toList with
    | some n => simp
    | none =>
      cases hreal : Decimal.readReal? (Text.trim s).toList with
      | some x => simp
      | none => simp [hshown]

/-- Every scalar is read as an integer but for texts that are no numbers. -/
theorem exists_looseInt_iff {v : Json} (hscalar : v.isScalar = true) :
    (∃ n, v.looseInt = .ok n) ↔ ∀ s, v = string s → ¬NoNumber s := by
  cases v with
  | array | object => cases hscalar
  | null | bool | real => exact ⟨fun _ _ => nofun, fun _ => ⟨_, rfl⟩⟩
  | integer n =>
    refine ⟨fun _ _ => nofun, fun _ => ?_⟩
    rw [looseInt, looseOptInt, Scalar.ofJson]
    split <;> exact ⟨_, rfl⟩
  | string s =>
    rw [looseInt, Except.exists_map_eq_ok, looseOptInt_string, Except.exists_map_eq_ok, exists_textToInt_iff]
    simp

theorem exists_looseText_iff {v : Json} : (∃ s, v.looseText = .ok s) ↔ v.isScalar = true := by
  rw [looseText, Except.exists_map_eq_ok, looseOptText, Except.exists_map_eq_ok, exists_ofJson_iff]

/-- Lists of loosely typed integers and texts are read item by item. Nulls are left out, and a value that is no
list is read as the list of it alone. Of a list of scalars the texts can always be read, and the integers unless one
of its items is a text that is no number. Nothing that holds other lists or objects is read. -/
theorem scalar_lists_read_itemwise :
    ReadsScalars looseInt looseInts ∧ ReadsScalars looseText looseTexts ∧
    ∀ items : List Json, (∀ v ∈ items, v.isScalar = true) →
      (∃ ss, (array items).looseTexts = .ok ss) ∧
      ((∃ fault, (array items).looseInts = .error fault) ↔ ∃ s, string s ∈ items ∧ NoNumber s) := by
  refine ⟨looseInts_readsScalars, looseTexts_readsScalars, fun items hscalars => ⟨?_, ?_⟩⟩
  · exact looseTexts_readsScalars.exists_ok.mpr fun v hv _ => exists_looseText_iff.mpr (hscalars v hv)
  · rw [← Except.not_exists_ok_iff, looseInts_readsScalars.exists_ok]
    constructor
    · intro hfails
      simp only [not_forall] at hfails
      obtain ⟨v, hv, -, hrefused⟩ := hfails
      rw [exists_looseInt_iff (hscalars v hv)] at hrefused
      simp only [not_forall, not_not] at hrefused
      obtain ⟨s, rfl, hs⟩ := hrefused
      exact ⟨s, hv, hs⟩
    · rintro ⟨s, hs, hnumber⟩ hall
      exact (exists_looseInt_iff rfl).mp (hall (string s) hs rfl) s rfl hnumber

/-- A list of a null, a text that is no number and a flag: of the texts just the null is left out, and there are no
integers. -/
theorem mixed_list_read_itemwise :
    let items := [null, string " x ", bool true]
    (array items).looseTexts = .ok [" x ", "1"] ∧ (∃ ss, (array items).looseTexts = .ok ss) ∧
      ∃ fault, (array items).looseInts = .error fault := by
  intro items
  have hscalars : ∀ v ∈ items, v.isScalar = true := by simp [items, isScalar]
  have hnumber : NoNumber " x " := ⟨by decide +kernel, by decide +kernel, by decide +kernel⟩
  obtain ⟨-, htexts, hlists⟩ := scalar_lists_read_itemwise
  obtain ⟨hread, hrefused⟩ := hlists items hscalars
  have hparts : List.Forall₂ (fun v s => v.looseText = .ok s) [string " x ", bool true] [" x ", "1"] :=
    .cons rfl (.cons rfl .nil)
  exact ⟨(htexts.items items _).mpr hparts, hread, hrefused.mpr ⟨" x ", by simp [items], hnumber⟩⟩

end Json
end UptimeSync
