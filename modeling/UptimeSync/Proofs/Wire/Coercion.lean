import UptimeSync.Proofs.Results
import UptimeSync.Wire.Schema

namespace UptimeSync

namespace Scalar

theorem ofJson_ofInt64 (n : Int64) : ofJson (.ofInt64 n) = .ok (integer n) := by
  have hsmall : n.toInt ≤ Int64.maxValue.toInt := Int64.toInt_le n
  simp only [Json.ofInt64, ofJson, if_pos hsmall, Int64.ofIntClamp_toInt]

/-- Scalars that are written without conversion are the scalars of a list. -/
theorem listOfJson_array {α : Type} {write : α → Json} {scalar : α → Scalar}
    (hwrite : ∀ a, ofJson (write a) = .ok (scalar a)) (items : List α) :
    listOfJson (.array (items.map write)) = .ok (items.map scalar) := by
  rw [listOfJson, Except.mapM_map_eq_ok hwrite]
  rfl

end Scalar

namespace Json

@[simp] theorem getD_map_null {α : Type} (write : α → Json) (value : Option α) :
    (value.map write).getD null = ofOption write value := by
  cases value <;> rfl

theorem looseOptInt_string (s : String) : (string s).looseOptInt = (Scalar.textToInt s).map some := by
  rw [looseOptInt, Scalar.ofJson, Except.ok_bind, Scalar.toInt?]

@[simp] theorem looseOptInt_ofInt64 (n : Int64) : (ofInt64 n).looseOptInt = .ok (some n) := by
  rw [looseOptInt, Scalar.ofJson_ofInt64]
  rfl

@[simp] theorem looseOptInt_ofOption (value : Option Int64) :
    (ofOption ofInt64 value).looseOptInt = .ok value := by
  cases value with
  | none => rfl
  | some n => exact looseOptInt_ofInt64 n

@[simp] theorem looseOptFlag_null : null.looseOptFlag = .ok none := rfl

@[simp] theorem looseOptFlag_bool (b : Bool) : (bool b).looseOptFlag = .ok (some b) := rfl

@[simp] theorem looseOptFlag_ofOption (value : Option Bool) :
    (ofOption bool value).looseOptFlag = .ok value := by
  cases value <;> rfl

@[simp] theorem looseOptText_null : null.looseOptText = .ok none := rfl

@[simp] theorem looseOptText_string (s : String) : (string s).looseOptText = .ok (some s) := rfl

@[simp] theorem looseOptText_ofOption (value : Option String) :
    (ofOption string value).looseOptText = .ok value := by
  cases value <;> rfl

@[simp] theorem looseInts_null : null.looseInts = .ok [] := rfl

@[simp] theorem looseInts_array (ns : List Int64) : (array (ns.map ofInt64)).looseInts = .ok ns := by
  have hscalar (n : Int64) : (Scalar.integer n).toInt? = .ok (some n) := rfl
  rw [looseInts, Scalar.listOfJson_array Scalar.ofJson_ofInt64]
  change (·.reduceOption) <$> (ns.map Scalar.integer).mapM Scalar.toInt? = _
  rw [Except.mapM_map_eq_ok hscalar]
  change Except.ok ((ns.map some).filterMap id) = _
  rw [List.filterMap_map]
  exact congrArg Except.ok List.filterMap_some

/-- A list that is left out where it is empty is read as the same list. -/
@[simp] theorem looseInts_unlessEmpty (ns : List Int64) :
    ((if ns = [] then none else some (array (ns.map ofInt64))).getD null).looseInts = .ok ns := by
  split
  · next hempty => rw [hempty, Option.getD_none, looseInts_null]
  · rw [Option.getD_some, looseInts_array]

@[simp] theorem looseTexts_array (ss : List String) : (array (ss.map string)).looseTexts = .ok ss := by
  have htext (s : String) : Scalar.ofJson (string s) = .ok (.text s) := rfl
  rw [looseTexts, Scalar.listOfJson_array htext]
  change Except.ok ((ss.map Scalar.text).filterMap Scalar.toText?) = _
  rw [List.filterMap_map]
  exact congrArg Except.ok List.filterMap_some

end Json

end UptimeSync
