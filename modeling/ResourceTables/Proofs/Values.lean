import ResourceTables.Eval.Operations

/-!
# Facts about values

What follows from whether a value is known or null, and how conversions tell the cases apart.
-/

namespace ResourceTables.Value

variable {v key : Value}

theorem exists_eq_unknown (h : v.isKnown = false) : ∃ k, v = unknown k := by
  cases v with
  | unknown k => exact ⟨k, rfl⟩
  | _ => cases h

theorem exists_eq_null (h : v.isNull) : ∃ k, v = null k := by
  cases v with
  | null k => exact ⟨k, rfl⟩
  | _ => cases h

theorem isKnown_of_whollyKnown (h : v.whollyKnown) : v.isKnown := by
  cases v with
  | unknown _ => cases h
  | null _ | string _ | number _ | bool _ | tuple _ | object _ => rfl

/-- The only known value of the dynamic kind is null. -/
theorem eq_null_of_kind_dynamic (hv : v.isKnown) (h : v.kind = .dynamic) : v = null .dynamic := by
  cases v with
  | unknown k => cases hv
  | null k =>
    cases h
    rfl
  | _ => cases h

/-- A number is undecided exactly if the value is unknown. -/
theorem toNumber_eq_none_iff (o : Origin) (role : Role) :
    v.toNumber o role = .ok none ↔ v.isKnown = false := by
  cases v with
  | string text =>
    simp only [toNumber, isKnown]
    split <;> try split
    all_goals simp
  | _ => simp [toNumber, isKnown]

/-! ## Elements -/

theorem index_of_null (hv : v.isNull) (key : Value) (o : Origin) :
    v.index key o = .error (.invalid o .indexOfNull) := by
  simp [index, hv]

/-- A null is no key, whatever it is a key of. -/
theorem index_of_null_key (v : Value) (hk : key.isNull) (o : Origin) :
    ∃ cause, v.index key o = .error (.invalid o cause) := by
  by_cases hv : v.isNull
  · exact ⟨_, index_of_null hv key o⟩
  · exact ⟨.nullIndex, by simp [index, hv, hk]⟩

/-- A known key of a tuple is read as a number. -/
theorem index_tuple (hk : key.isKnown) (hnull : key.isNull = false) (items : List Value)
    (o : Origin) :
    (tuple items).index key o =
      key.toNumber o .index >>= fun n =>
        n.elim (.ok (.unknown .dynamic)) fun n => elementAt items n o := by
  simp only [index, hk, hnull]
  refine bind_congr fun n => ?_
  cases n <;> rfl

/-- A known key of an object is read as a text. -/
theorem index_object (hk : key.isKnown) (hnull : key.isNull = false)
    (fields : List (String × Value)) (o : Origin) :
    (object fields).index key o =
      key.toText o .index >>= fun name => name.elim (.ok (.unknown .dynamic)) fun name =>
        (Fields.get? name fields).elim (.error (.invalid o (.noKey name))) .ok := by
  simp only [index, hk, hnull]
  refine bind_congr fun name => ?_
  cases name with
  | none => rfl
  | some name =>
    simp only [Option.elim_some]
    cases Fields.get? name fields <;> rfl

/-- Nothing but tuples and objects has elements. -/
theorem index_of_kind (hv : v.isKnown) (hnull : v.isNull = false) (hk : key.isKnown)
    (hknull : key.isNull = false) (htuple : v.kind ≠ .tuple) (hobject : v.kind ≠ .object)
    (o : Origin) : v.index key o = .error (.invalid o (.indexOf v.kind)) := by
  cases v with
  | unknown k => cases hv
  | null k => cases hnull
  | tuple items => cases htuple rfl
  | object fields => cases hobject rfl
  | _ =>
    simp only [index, hk, hknull]
    rfl

end ResourceTables.Value
