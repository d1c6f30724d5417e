import ResourceTables.Proofs.Decimal.Inverse
import ResourceTables.Proofs.Decimal.Magnitude
import ResourceTables.Proofs.Ensures
import ResourceTables.Proofs.Knownness.Operations

/-!
# Operations within the limits

Rounding fails only where the first digit of the result would stand too high. What a configuration
may write and what arithmetic gives can all be rounded, so rounding does not fail where nothing
would catch it. Numbers that can be rounded and lists that are not too long keep evaluation away
from what a number cannot be: an operation on them gives the like, or an error that has words. Only
a text that is converted to a number can bring in one that is too large.

* `Decimal.InRange`: what a number in a configuration may be;
* `Decimal.Rounds`: the number can be rounded;
* `Decimal.rounds_of_round`: what has been rounded can be rounded again;
* `Decimal.Rounds.exists_neg`: a number that can be rounded has an opposite;
* `Decimal.InRange.rounds`, `Decimal.rounds_ofNat`: what a configuration writes can be rounded, and
  so can small natural numbers;
* `Value.Bounded`: the numbers in a value can be rounded and its lists are not too long;
* `TextInRange`: if a text writes a number, the number is in range;
* `Value.delivers_index`, `BinaryOp.delivers_apply` and the like: one lemma for each operation;
* `following`, `Delivers.bind_following`: the texts that computations convert one after the other.
-/

namespace ResourceTables

namespace Decimal

variable {a b d r : Decimal} {n k j : Nat}

/-- The number can be rounded to the digits that a result keeps. -/
def Rounds (d : Decimal) : Prop := ∃ r, d.round = .ok r

/-- The number is one that a literal may write, and it is below `10 ^ 999999` in magnitude. -/
def InRange (d : Decimal) : Prop :=
  d.withinLimits = true ∧ d.compareAbs ⟨false, 1, 999999⟩ = .lt

instance (d : Decimal) : Decidable d.InRange :=
  inferInstanceAs (Decidable (_ ∧ _))

/-! ## Cutting digits off -/

theorem digitCount_le_of_le_pow (h : n ≤ 10 ^ k) : digitCount n ≤ k + 1 := by
  by_contra hlt
  have hpow : 10 ^ (k + 1) ≤ n := (lt_digitCount_iff k.succ_pos).1 (by omega)
  rw [pow_succ] at hpow
  have hpos : 0 < 10 ^ k := by positivity
  omega

/-- A number up to `10 ^ j` without its last `k` digits is rounded to one up to `10 ^ (j - k)`. -/
theorem roundHalfEven_le (h : n ≤ 10 ^ j) : roundHalfEven n k ≤ 10 ^ (j - k) := by
  have hunit : 0 < 10 ^ k := by positivity
  have hpow : 10 ^ j ≤ 10 ^ (j - k) * 10 ^ k := by
    rw [← pow_add]
    exact Nat.pow_le_pow_right (by decide) (by omega)
  have hdivision := Nat.div_add_mod n (10 ^ k)
  -- The quotient reaches the bound only if nothing is left over.
  have hquotient : n / 10 ^ k ≤ 10 ^ (j - k) :=
    Nat.div_le_of_le_mul (by rw [Nat.mul_comm]; exact h.trans hpow)
  have hrest : n / 10 ^ k = 10 ^ (j - k) → n % 10 ^ k = 0 := by
    intro heq
    rw [heq, Nat.mul_comm] at hdivision
    omega
  unfold roundHalfEven
  split
  · exact Nat.zero_le _
  · simp only [Nat.pow_eq]
    split
    · exact hquotient
    · split <;> omega

/-- The power of ten at which a result has its last digit, if the number has digits behind it. -/
def lastDigit (d : Decimal) : Int := max (d.adjusted - precision + 1) etiny

/-- The number without the digits behind its last one. -/
def cut (d : Decimal) : Decimal :=
  ⟨d.negative, roundHalfEven d.coefficient (d.lastDigit - d.exponent).toNat, d.lastDigit⟩

theorem round_eq (h : d.isZero = false) :
    d.round =
      let rounded := if d.lastDigit ≤ d.exponent then d else d.cut
      if !rounded.isZero && emax < rounded.adjusted then .error .outOfRange else .ok rounded := by
  rw [round, h]
  rfl

/-- Of a number that is cut, only as many digits are left as a result keeps, or one more zero. -/
theorem coefficient_cut_le : d.cut.coefficient ≤ 10 ^ (d.adjusted + 1 - d.lastDigit).toNat := by
  have hle := roundHalfEven_le (k := (d.lastDigit - d.exponent).toNat)
    (lt_ten_pow_digitCount d.coefficient).le
  refine hle.trans (Nat.pow_le_pow_right (by decide) ?_)
  unfold adjusted
  omega

/-- Rounding may carry into the digit before the first. -/
theorem adjusted_cut_le : d.cut.adjusted ≤ max (d.adjusted + 1) d.lastDigit := by
  have hcount := digitCount_le_of_le_pow d.coefficient_cut_le
  have hexponent : d.cut.exponent = d.lastDigit := rfl
  rw [adjusted, hexponent]
  omega

theorem rounds_of_le (hkept : d.adjusted ≤ emax)
    (hcut : d.exponent < d.lastDigit → d.cut.adjusted ≤ emax) : d.Rounds := by
  cases hzero : d.isZero with
  | true => exact exists_round_of_isZero hzero
  | false =>
    rw [Rounds, round_eq hzero]
    dsimp only
    split
    · exact ⟨d, by simp [hkept]⟩
    · next hlast => exact ⟨d.cut, by simp [hcut (by omega)]⟩

theorem rounds_of_adjusted_lt (h : d.adjusted < emax) : d.Rounds := by
  refine rounds_of_le h.le fun _ => d.adjusted_cut_le.trans ?_
  simp only [lastDigit, etiny, emin, emax, precision] at h ⊢
  omega

/-- A number with no more digits than a result keeps, or one more zero, is not carried over. -/
theorem rounds_of_coefficient_le (h : d.coefficient ≤ 10 ^ precision)
    (hadjusted : d.adjusted ≤ emax) : d.Rounds := by
  refine rounds_of_le hadjusted fun hlast => ?_
  have hcount := digitCount_le_of_le_pow h
  have hle := roundHalfEven_le (k := (d.lastDigit - d.exponent).toNat) h
  have hcut := digitCount_le_of_le_pow hle
  have hcarry := d.adjusted_cut_le
  have hdigits : d.cut.adjusted = d.lastDigit + digitCount d.cut.coefficient - 1 := rfl
  have hcoefficient : d.cut.coefficient =
    roundHalfEven d.coefficient (d.lastDigit - d.exponent).toNat := rfl
  rw [← hcoefficient] at hcut
  simp only [lastDigit, etiny, emin, emax, precision, adjusted] at *
  omega

/-- What has been rounded can be rounded again. -/
theorem rounds_of_round (h : d.round = .ok r) : r.Rounds := by
  cases hzero : d.isZero with
  | true =>
    rw [round, hzero] at h
    cases h
    exact exists_round_of_isZero rfl
  | false =>
    have hround := round_eq hzero
    dsimp only at hround
    -- What is kept rounds as before, and what is cut has few enough digits.
    split at hround
    · split at hround
      · cases hround.symm.trans h
      · obtain rfl : d = r := Except.ok.inj (hround.symm.trans h)
        exact ⟨d, h⟩
    · split at hround
      · cases hround.symm.trans h
      · next hfits =>
        obtain rfl : d.cut = r := Except.ok.inj (hround.symm.trans h)
        cases hcut : d.cut.isZero with
        | true => exact exists_round_of_isZero hcut
        | false =>
          refine rounds_of_coefficient_le (d.coefficient_cut_le.trans ?_)
            (by simpa [hcut] using hfits)
          refine Nat.pow_le_pow_right (by decide) ?_
          unfold lastDigit
          omega

theorem ensures_round (d : Decimal) : Ensures Rounds d.round :=
  fun _ => rounds_of_round

theorem Rounds.negate (h : d.Rounds) : d.negate.Rounds := by
  obtain ⟨r, hr⟩ := h
  cases hzero : d.isZero with
  | true => exact exists_round_of_isZero (by rwa [isZero_negate])
  | false =>
    rw [round_eq hzero] at hr
    rw [Rounds, round_eq (by rwa [isZero_negate])]
    dsimp only at hr ⊢
    -- Where digits are cut, and whether the rest fits, does not depend on the sign.
    have hlast : d.negate.lastDigit = d.lastDigit := rfl
    have hexponent : d.negate.exponent = d.exponent := rfl
    rw [hlast, hexponent]
    split at hr
    · next hkept =>
      rw [if_pos hkept]
      split at hr
      · cases hr
      · next hfits => exact ⟨d.negate, if_neg hfits⟩
    · next hkept =>
      rw [if_neg hkept]
      split at hr
      · cases hr
      · next hfits => exact ⟨d.negate.cut, if_neg hfits⟩

/-- A number that can be rounded has an opposite. -/
theorem Rounds.exists_neg (h : d.Rounds) : ∃ r, d.neg = .ok r := by
  unfold neg
  split
  · exact exists_round_of_isZero rfl
  · exact h.negate

/-- What rounding ensures, a negation ensures. -/
theorem ensures_neg {P : Decimal → Prop} (h : ∀ d, Ensures P (round d)) (d : Decimal) :
    Ensures P d.neg := by
  unfold neg
  split
  · exact h _
  · exact h _

/-! ## Numbers that can be rounded -/

/-- A number below `10 ^ 999999` has its first digit below that power of ten. -/
theorem adjusted_lt_of_compareAbs (hzero : d.isZero = false)
    (h : d.compareAbs ⟨false, 1, 999999⟩ = .lt) : d.adjusted < 999999 := by
  have hone : (⟨false, 1, 999999⟩ : Decimal).isZero = false := rfl
  have hbound : (⟨false, 1, 999999⟩ : Decimal).adjusted = 999999 := by decide
  rw [compareAbs, hzero, hone, hbound] at h
  simp only [Bool.or_self, Bool.false_eq_true, if_false] at h
  split at h
  · next heq =>
    -- With its first digit there, the number reaches that power of ten.
    have hadjusted : d.adjusted = 999999 := by simpa using heq
    have hcoefficient : d.coefficient ≠ 0 := (coefficient_pos hzero).ne'
    have hle := ten_pow_le_of_ne_zero hcoefficient
    have hexponent := exponent_le_adjusted d
    rw [min_eq_left (by omega), sub_self, compare_lt_iff_lt] at h
    have hcount : (999999 - d.exponent).toNat = digitCount d.coefficient - 1 := by
      unfold adjusted at hadjusted
      omega
    rw [hcount] at h
    simp only [Int.toNat_zero, Nat.pow_eq, pow_zero, mul_one, one_mul] at h
    omega
  · exact compare_lt_iff_lt.1 h

theorem InRange.rounds (h : d.InRange) : d.Rounds := by
  cases hzero : d.isZero with
  | true => exact exists_round_of_isZero hzero
  | false => exact rounds_of_adjusted_lt (adjusted_lt_of_compareAbs hzero h.2)

theorem rounds_ofNat (h : n < 10 ^ precision) : (ofNat n).Rounds := by
  refine rounds_of_coefficient_le h.le ?_
  have hcount := digitCount_le_of_le_pow h.le
  simp only [adjusted, ofNat, emax, precision] at *
  omega

end Decimal

/-! ## Operations -/

/-- An upper bound for the lengths of lists, whose indices can all be rounded. -/
def itemLimit : Nat := 10 ^ Decimal.precision

/-- The numbers in the value can be rounded, and its tuples and objects are not too long. -/
inductive Value.Bounded : Value → Prop
  | unknown {kind} : Bounded (.unknown kind)
  | null {kind} : Bounded (.null kind)
  | string {s} : Bounded (.string s)
  | number {d} (h : d.Rounds) : Bounded (.number d)
  | bool {b} : Bounded (.bool b)
  | tuple {items} (hlength : items.length ≤ itemLimit) (h : ∀ v ∈ items, Bounded v) :
      Bounded (.tuple items)
  | object {fields : List (String × Value)} (hlength : fields.length ≤ itemLimit)
      (h : ∀ f ∈ fields, Bounded f.2) : Bounded (.object fields)

/-- The names of the scope stand for bounded values. -/
def Scope.Bounded (s : Scope) : Prop :=
  ∀ name v, s name = some v → v.Bounded

/-- The error is one of an expression, and has words. -/
def EvalError.Worded (e : EvalError) : Prop :=
  e ≠ .beyondLimits

@[simp]
theorem EvalError.worded_invalid {o : Origin} {cause : EvalCause} :
    (EvalError.invalid o cause).Worded := by
  simp [Worded]

/-- If the text writes a number, the number is in range. -/
def TextInRange (s : String) : Prop :=
  ∀ d, Decimal.ofText? s = some d → d.InRange

instance (s : String) : Decidable (TextInRange s) :=
  inferInstanceAs (Decidable (∀ d ∈ Decimal.ofText? s, d.InRange))

/-! ## Texts that are converted one after the other -/

/-- What follows a computation that does not fail. -/
def following (x : Except ε α) (f : α → List β) : List β :=
  match x with
  | .ok a => f a
  | .error _ => []

/-- What is found for the elements of a list, up to the first for which the computation fails. -/
def inTurn (f : α → Except ε β) (found : α → List γ) : List α → List γ
  | [] => []
  | a :: rest => found a ++ following (f a) fun _ => inTurn f found rest

/-- Behind a computation the next may rely on the texts that it converts. -/
theorem Delivers.bind_more {P : α → Prop} {Q : β → Prop} {E : ε → Prop} {T : γ → Prop}
    {x : Except ε α} {f : α → Except ε β} {more : α → List γ} (h : ∀ s ∈ following x more, T s)
    (hx : Delivers P E x) (hf : ∀ a, P a → (∀ s ∈ more a, T s) → Delivers Q E (f a)) :
    Delivers Q E (x >>= f) := by
  cases x with
  | ok a => exact hf a hx h
  | error e => exact hx

/-- Of computations one after the other, each may rely on the texts that it converts. -/
theorem Delivers.bind_following {P : α → Prop} {Q : β → Prop} {E : ε → Prop} {T : γ → Prop}
    {x : Except ε α} {f : α → Except ε β} {found : List γ} {more : α → List γ}
    (h : ∀ s ∈ found ++ following x more, T s) (hx : (∀ s ∈ found, T s) → Delivers P E x)
    (hf : ∀ a, P a → (∀ s ∈ more a, T s) → Delivers Q E (f a)) : Delivers Q E (x >>= f) := by
  obtain ⟨hfound, hmore⟩ := List.forall_mem_append.1 h
  exact .bind_more hmore (hx hfound) hf

/-- What is computed for each element of a list relies on the texts that are converted for it. -/
theorem Delivers.mapM_inTurn {Q : β → Prop} {E : ε → Prop} {T : γ → Prop} {f : α → Except ε β}
    {found : α → List γ} {as : List α} (h : ∀ s ∈ inTurn f found as, T s)
    (hf : ∀ a ∈ as, (∀ s ∈ found a, T s) → Delivers Q E (f a)) :
    Delivers (fun bs => bs.length = as.length ∧ ∀ b ∈ bs, Q b) E (as.mapM f) := by
  induction as with
  | nil =>
    rw [List.mapM_nil]
    exact ⟨rfl, by simp⟩
  | cons a as ih =>
    rw [List.mapM_cons]
    refine .bind_following h (hf a (by simp)) fun b hb h => ?_
    refine .bind (ih h fun a' ha' => hf a' (by simp [ha'])) fun bs hbs => ⟨?_, ?_⟩
    · rw [List.length_cons, List.length_cons, hbs.1]
    · exact List.forall_mem_cons.2 ⟨hb, hbs.2⟩

namespace Value

variable {v w key : Value}

/-- The text that is read where the value is converted to a number. -/
def numeral : Value → List String
  | string s => [s]
  | _ => []

/-- The text that is read where the key looks up an element of the value. -/
def indexNumeral (v key : Value) : List String :=
  match v with
  | tuple _ => key.numeral
  | _ => []

/-! ## Conversions -/

theorem delivers_toText (v : Value) (o : Origin) (role : Role) :
    Delivers (fun _ => True) EvalError.Worded (v.toText o role) := by
  cases v <;> simp [toText, Delivers]

theorem delivers_toBool (v : Value) (o : Origin) (role : Role) :
    Delivers (fun _ => True) EvalError.Worded (v.toBool o role) := by
  unfold toBool
  split <;> simp [Delivers]

/-- Converting a value to a number gives one that can be rounded. -/
theorem delivers_toNumber (hv : v.Bounded) (h : ∀ s ∈ v.numeral, TextInRange s) (o : Origin)
    (role : Role) :
    Delivers (fun n => ∀ d, n = some d → d.Rounds) EvalError.Worded (v.toNumber o role) := by
  cases hv with
  | number hd => simpa [toNumber, Delivers] using hd
  | @string s =>
    have hs : TextInRange s := h s (by simp [numeral])
    simp only [toNumber]
    split
    · next d hd =>
      rw [if_pos (hs d hd).1]
      simpa [Delivers] using (hs d hd).rounds
    · simp [Delivers]
  | _ => simp [toNumber, Delivers]

/-! ## Traversals -/

theorem delivers_getAttr (hv : v.Bounded) (name : String) (o : Origin) :
    Delivers Bounded EvalError.Worded (v.getAttr name o) := by
  cases hv with
  | @object fields hlength h =>
    simp only [getAttr]
    cases hfield : Fields.get? name fields with
    | none => simp [Delivers]
    | some field => exact .ok (Fields.of_get? h hfield)
  | unknown => exact .ok .unknown
  | _ => simp [getAttr, Delivers]

theorem delivers_elementAt {items : List Value} (h : ∀ v ∈ items, v.Bounded) (n : Decimal)
    (o : Origin) : Delivers Bounded EvalError.Worded (elementAt items n o) := by
  unfold elementAt
  split
  · split
    · next item hitem => exact .ok (h item (List.mem_of_getElem? hitem))
    · simp [Delivers]
  · simp [Delivers]

theorem delivers_index (hv : v.Bounded) (hkey : key.Bounded)
    (h : ∀ s ∈ v.indexNumeral key, TextInRange s) (o : Origin) :
    Delivers Bounded EvalError.Worded (v.index key o) := by
  unfold index
  split
  · simp [Delivers]
  · split
    · simp [Delivers]
    · split
      · exact .ok .unknown
      · cases hv with
        | tuple hlength hitems =>
          refine .bind (delivers_toNumber hkey h o .index) fun n hn => ?_
          cases n with
          | none => exact .ok .unknown
          | some n => exact delivers_elementAt hitems n o
        | @object fields hlength hfields =>
          refine .bind (delivers_toText key o .index) fun name _ => ?_
          cases name with
          | none => exact .ok .unknown
          | some name =>
            dsimp only
            split
            · next field hfield => exact .ok (Fields.of_get? hfields hfield)
            · exact .error EvalError.worded_invalid
        | _ => simp [Delivers]

/-- The loop runs over bounded keys and elements, and not over too many. -/
def BoundedItems (items : List (Value × Value)) : Prop :=
  items.length ≤ itemLimit ∧ ∀ p ∈ items, p.1.Bounded ∧ p.2.Bounded

theorem delivers_elements (hv : v.Bounded) (o : Origin) :
    Delivers (fun items => ∀ ps, items = some ps → BoundedItems ps) EvalError.Worded
      (v.elements o) := by
  cases hv with
  | @tuple items hlength h =>
    rintro _ ⟨⟩
    refine ⟨by simpa using hlength, fun p hp => ?_⟩
    obtain ⟨⟨item, i⟩, hitem, rfl⟩ := List.mem_map.1 hp
    -- An index is below the length of the tuple.
    have hi : i < items.length := by
      simpa using List.snd_lt_of_mem_zipIdx hitem
    exact ⟨.number (Decimal.rounds_ofNat (hi.trans_le hlength)),
      h item (List.fst_mem_of_mem_zipIdx hitem)⟩
  | @object fields hlength h =>
    rintro _ ⟨⟩
    refine ⟨by simpa using hlength, fun p hp => ?_⟩
    obtain ⟨⟨k, w⟩, hfield, rfl⟩ := List.mem_map.1 hp
    exact ⟨.string, h (k, w) hfield⟩
  | _ => simp [elements, Delivers]

theorem bounded_splatElements (hv : v.Bounded) :
    v.splatElements.length ≤ itemLimit ∧ ∀ w ∈ v.splatElements, w.Bounded := by
  have hlimit : 1 ≤ itemLimit := Nat.one_le_pow _ _ (by decide)
  cases hv with
  | tuple hlength h => exact ⟨hlength, h⟩
  | null => exact ⟨Nat.zero_le _, by simp [splatElements]⟩
  | object hlength h => exact ⟨hlimit, by simpa [splatElements] using .object hlength h⟩
  | number h => exact ⟨hlimit, by simpa [splatElements] using .number h⟩
  | unknown => exact ⟨hlimit, by simpa [splatElements] using .unknown⟩
  | string => exact ⟨hlimit, by simpa [splatElements] using .string⟩
  | bool => exact ⟨hlimit, by simpa [splatElements] using .bool⟩

/-! ## Choices -/

theorem delivers_convertBranch (hv : v.Bounded) (kind : ValueKind) (o : Origin) :
    Delivers Bounded EvalError.Worded (convertBranch kind v o) := by
  unfold convertBranch
  split
  · refine .bind (delivers_toText v o .branch) fun text _ => ?_
    cases text with
    | none => exact .ok .unknown
    | some text => exact .ok .string
  · exact .ok hv

theorem delivers_choose (cond : Option Bool) (hv : v.Bounded) (hw : w.Bounded)
    (yesOrigin noOrigin o : Origin) :
    Delivers Bounded EvalError.Worded (choose cond v w yesOrigin noOrigin o) := by
  unfold choose
  split
  · exact .error EvalError.worded_invalid
  · split
    · exact .ok .unknown
    · exact delivers_convertBranch hv _ _
    · exact delivers_convertBranch hw _ _

end Value

/-! ## Operators -/

/-- The texts that an operator converts to numbers. -/
def BinaryOp.numerals (op : BinaryOp) (left right : Value) (leftOrigin : Origin) : List String :=
  match op with
  | .eq | .ne | .and | .or => []
  | op => left.numeral ++ following (left.toNumber leftOrigin (.left op)) fun _ => right.numeral

/-- The text that an operator converts to a number. -/
def UnaryOp.numerals (op : UnaryOp) (v : Value) : List String :=
  match op with
  | .not => []
  | .negate => v.numeral

section Operators

variable {v w : Value}

/-- What rounding ensures, arithmetic ensures: a result is exact and then rounded. -/
theorem BinaryOp.ensures_arithmetic {P : Decimal → Prop} (h : ∀ d, Ensures P (Decimal.round d))
    (op : BinaryOp) (a b : Decimal) : Ensures P (op.arithmetic a b) := by
  -- Subtracting is adding the negated number.
  have hadd : ∀ a b : Decimal, Ensures P (a.add b) := by
    intro a b
    unfold Decimal.add
    split
    · exact h _
    · split
      · exact h _
      · split
        · exact h _
        · exact h _
  cases op with
  | add => exact hadd a b
  | sub => exact hadd a b.negate
  | mul => exact h _
  | div =>
    simp only [arithmetic, Decimal.div]
    split
    · exact .error
    · split
      · exact h _
      · exact h _
  | rem =>
    simp only [arithmetic, Decimal.rem]
    split
    · exact .error
    · split
      · exact h _
      · split
        · exact h _
        · split
          · exact .error
          · split
            · exact .error
            · exact h _
  | _ => exact .error

theorem BinaryOp.delivers_applyLogic (op : BinaryOp) (v w : Value)
    (leftOrigin rightOrigin : Origin) :
    Delivers Value.Bounded EvalError.Worded (op.applyLogic v w leftOrigin rightOrigin) := by
  unfold applyLogic
  refine .bind (v.delivers_toBool _ _) fun a _ => .bind (w.delivers_toBool _ _) fun b _ => ?_
  split
  · exact .ok .bool
  · exact .ok .unknown

theorem BinaryOp.delivers_applyNumbers {op : BinaryOp} {leftOrigin : Origin} (hv : v.Bounded)
    (hw : w.Bounded)
    (h : ∀ s ∈ v.numeral ++ following (v.toNumber leftOrigin (.left op)) fun _ => w.numeral,
      TextInRange s) (rightOrigin o : Origin) :
    Delivers Value.Bounded EvalError.Worded (op.applyNumbers v w leftOrigin rightOrigin o) := by
  unfold applyNumbers
  refine .bind_following h (fun h => Value.delivers_toNumber hv h _ _) fun a ha h => ?_
  refine .bind (Value.delivers_toNumber hw h _ _) fun b hb => ?_
  split
  · exact .ok .bool
  · exact .ok .unknown
  · split
    · exact .error EvalError.worded_invalid
    · split
      · next d hd =>
        exact .ok (.number (BinaryOp.ensures_arithmetic Decimal.ensures_round op _ _ d hd))
      · exact .error EvalError.worded_invalid
      · exact .error EvalError.worded_invalid
  · exact .ok .unknown

theorem BinaryOp.delivers_apply {op : BinaryOp} {leftOrigin : Origin} (hv : v.Bounded)
    (hw : w.Bounded) (h : ∀ s ∈ op.numerals v w leftOrigin, TextInRange s)
    (rightOrigin o : Origin) :
    Delivers Value.Bounded EvalError.Worded (op.apply v w leftOrigin rightOrigin o) := by
  cases op with
  | eq | ne =>
    simp only [apply, applyEquality]
    split
    · exact .ok .bool
    · exact .ok .unknown
  | and | or => exact delivers_applyLogic _ v w _ _
  | _ => exact delivers_applyNumbers hv hw h _ _

theorem UnaryOp.delivers_apply {op : UnaryOp} (hv : v.Bounded)
    (h : ∀ s ∈ op.numerals v, TextInRange s) (o : Origin) :
    Delivers Value.Bounded EvalError.Worded (op.apply v o) := by
  cases op with
  | not =>
    refine .bind (v.delivers_toBool _ _) fun b _ => ?_
    cases b with
    | none => exact .ok .unknown
    | some b => exact .ok .bool
  | negate =>
    refine .bind (Value.delivers_toNumber hv h _ _) fun d hd => ?_
    cases d with
    | none => exact .ok .unknown
    | some d =>
      -- A number that can be rounded has an opposite, and that has been rounded.
      obtain ⟨r, hr⟩ := (hd d rfl).exists_neg
      simp only [hr]
      exact .ok (.number (Decimal.ensures_neg Decimal.ensures_round d r hr))

end Operators

end ResourceTables
