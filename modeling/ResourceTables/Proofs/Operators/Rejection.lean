import ResourceTables.Proofs.Decimal.Inverse
import ResourceTables.Proofs.Operators.Choices
import ResourceTables.Proofs.Operators.Elements

/-!
# Operators that are rejected whatever their operands are

An operator with an unknown operand is unknown in most cases, even in some where no choice of the
operand would be accepted. `Application.Doomed` lists these cases, operator by operator. An operand
of a readable kind of an operator on numbers is in none of them, since it may be a number that
arithmetic has a result for.

* `BinaryOp.exists_applyNumbers_left`, `BinaryOp.exists_applyNumbers_right`: every number has such a
  partner, except for a divisor that is zero;
* `BinaryOp.alwaysRejected_applyNumbers_iff`: what is left are the cases that
  `BinaryOp.NumbersDoomed` lists;
* `Application.alwaysRejected_iff_doomed`: an application that is not rejected is rejected for every
  choice of its unknown operands exactly if it is doomed;
* `Expr.rejected_of_alwaysRejected_iff`: an expression that applies an operator is rejected where
  every choice is, except where the application is doomed.
-/

namespace ResourceTables

/-- The operators that apply to numbers. -/
def BinaryOp.onNumbers : BinaryOp → Bool
  | or | and | eq | ne => false
  | lt | gt | le | ge | add | sub | mul | div | rem => true

namespace BinaryOp

variable {op : BinaryOp} {a b : Value} {d e : Decimal} (l r o : Origin)

/-- Numbers are applied to an operand that is no number for any choice, or to a known divisor that
is zero. A left operand that may exceed all limits stops the evaluation before its right operand is
looked at. -/
def NumbersDoomed (op : BinaryOp) (a b : Value) : Prop :=
  a.Unreadable ValueKind.readsAsNumber ∨
    ¬a.MayExceedLimits ∧
      (b.Unreadable ValueKind.readsAsNumber ∨
        (op = .div ∨ op = .rem) ∧ ∃ d, b.asNumber? = some d ∧ d.isZero)

/-- An operator on numbers looks at nothing of its operands but the numbers that they are read
as. -/
theorem applyNumbers_of_asNumber? (ha : a.asNumber? = some d) (hb : b.asNumber? = some e) :
    op.applyNumbers a b l r o = op.applyNumbers (.number d) (.number e) l r o := by
  unfold applyNumbers
  rw [(Value.toNumber_eq_some_iff l (.left op)).2 ha,
    (Value.toNumber_eq_some_iff r (.right op)).2 hb]
  rfl

/-- An operator that does not compare divides by zero or does arithmetic. -/
theorem applyNumbers_number (hcomparison : op.comparison? = none) :
    op.applyNumbers (.number d) (.number e) l r o =
      if (op = .div ∨ op = .rem) ∧ e.isZero then .error (.invalid o .divisionByZero)
      else match op.arithmetic d e with
        | .ok d => .ok (.number d)
        | .error .outOfRange => .error (.invalid o .outOfRange)
        | .error .invalid => .error (.invalid o (.invalidOperation op)) := by
  unfold applyNumbers
  rw [hcomparison]
  rfl

theorem applyNumbers_eq_ok {c : Decimal} (hcomparison : op.comparison? = none)
    (hzero : ¬((op = .div ∨ op = .rem) ∧ e.isZero)) (hc : op.arithmetic d e = .ok c) :
    op.applyNumbers (.number d) (.number e) l r o = .ok (.number c) := by
  rw [applyNumbers_number _ _ _ hcomparison, if_neg hzero, hc]

theorem rejected_applyNumbers_zero (hop : op = .div ∨ op = .rem) (he : e.isZero) :
    Eval.Rejected (op.applyNumbers (.number d) (.number e) l r o) := by
  have hcomparison : op.comparison? = none := by rcases hop with rfl | rfl <;> rfl
  rw [applyNumbers_number _ _ _ hcomparison, if_pos ⟨hop, he⟩]
  exact Eval.rejected_invalid _ _

/-- For every number there is a right operand with which the operator has a result. -/
theorem exists_applyNumbers_right (hop : op.onNumbers) (d : Decimal) :
    ∃ e w, op.applyNumbers (.number d) (.number e) l r o = .ok w := by
  cases op with
  | or | and | eq | ne => cases hop
  | lt | gt | le | ge => exact ⟨d, _, rfl⟩
  -- The other operand makes the result zero or one, which no rounding puts out of range.
  | add =>
    obtain ⟨c, hc⟩ := Decimal.exists_add_negate d
    exact ⟨d.negate, _, applyNumbers_eq_ok _ _ _ rfl (by simp) hc⟩
  | sub =>
    obtain ⟨c, hc⟩ := Decimal.exists_add_negate d
    exact ⟨d, _, applyNumbers_eq_ok _ _ _ rfl (by simp) hc⟩
  | mul =>
    obtain ⟨c, hc⟩ := Decimal.exists_mul_of_isZero (a := d) (b := .ofNat 0) (.inr rfl)
    exact ⟨.ofNat 0, _, applyNumbers_eq_ok _ _ _ rfl (by simp) hc⟩
  | div =>
    cases hd : d.isZero with
    | true =>
      obtain ⟨c, hc⟩ := Decimal.exists_div_of_isZero (b := .ofNat 1) hd rfl
      exact ⟨.ofNat 1, _, applyNumbers_eq_ok _ _ _ rfl (by decide) hc⟩
    | false =>
      obtain ⟨c, hc⟩ := Decimal.exists_div_self hd
      exact ⟨d, _, applyNumbers_eq_ok _ _ _ rfl (by simp [hd]) hc⟩
  | rem =>
    cases hd : d.isZero with
    | true =>
      obtain ⟨c, hc⟩ := Decimal.exists_rem_of_isZero (b := .ofNat 1) hd rfl
      exact ⟨.ofNat 1, _, applyNumbers_eq_ok _ _ _ rfl (by decide) hc⟩
    | false =>
      obtain ⟨c, hc⟩ := Decimal.exists_rem_self hd
      exact ⟨d, _, applyNumbers_eq_ok _ _ _ rfl (by simp [hd]) hc⟩

/-- For every number but a divisor that is zero there is a left operand with which the operator has
a result. -/
theorem exists_applyNumbers_left (hop : op.onNumbers)
    (hzero : ¬((op = .div ∨ op = .rem) ∧ e.isZero)) :
    ∃ d w, op.applyNumbers (.number d) (.number e) l r o = .ok w := by
  -- With zero on the left, products, quotients and remainders are zero.
  have hzero_ok : ∀ c, op.comparison? = none → op.arithmetic (.ofNat 0) e = .ok c →
      ∃ d w, op.applyNumbers (.number d) (.number e) l r o = .ok w :=
    fun c hcomparison hc => ⟨.ofNat 0, _, applyNumbers_eq_ok _ _ _ hcomparison hzero hc⟩
  cases op with
  | or | and | eq | ne => cases hop
  | lt | gt | le | ge => exact ⟨e, _, rfl⟩
  | add =>
    obtain ⟨c, hc⟩ := Decimal.exists_add_negate e.negate
    rw [Decimal.negate_negate] at hc
    exact ⟨e.negate, _, applyNumbers_eq_ok _ _ _ rfl hzero hc⟩
  | sub =>
    obtain ⟨c, hc⟩ := Decimal.exists_add_negate e
    exact ⟨e, _, applyNumbers_eq_ok _ _ _ rfl hzero hc⟩
  | mul =>
    obtain ⟨c, hc⟩ := Decimal.exists_mul_of_isZero (a := .ofNat 0) (b := e) (.inl rfl)
    exact hzero_ok c rfl hc
  | div =>
    have he : e.isZero = false := by simpa using hzero
    obtain ⟨c, hc⟩ := Decimal.exists_div_of_isZero (a := .ofNat 0) rfl he
    exact hzero_ok c rfl hc
  | rem =>
    have he : e.isZero = false := by simpa using hzero
    obtain ⟨c, hc⟩ := Decimal.exists_rem_of_isZero (a := .ofNat 0) rfl he
    exact hzero_ok c rfl hc

/-! ## Choices that are not rejected -/

/-- Some choice of the operands is not rejected. -/
def SomeNotRejected (op : BinaryOp) (a b : Value) : Prop :=
  ∃ a' b', a.MayBe a' ∧ b.MayBe b' ∧ ¬Eval.Rejected (op.applyNumbers a' b' l r o)

/-- Two numbers that the operator has a result for are a choice that is not rejected. -/
theorem someNotRejected_of_eq_ok {w : Value} (ha : a.MayBeNumber d) (hb : b.MayBeNumber e)
    (hw : op.applyNumbers (.number d) (.number e) l r o = .ok w) :
    op.SomeNotRejected l r o a b := by
  obtain ⟨a', haa', ha'⟩ := ha
  obtain ⟨b', hbb', hb'⟩ := hb
  refine ⟨a', b', haa', hbb', ?_⟩
  rw [applyNumbers_of_asNumber? l r o ha' hb', hw]
  exact Eval.not_rejected_ok w

/-- The evaluation may stop at a left operand that exceeds all limits. -/
theorem someNotRejected_of_mayExceedLimits_left (ha : a.MayExceedLimits) :
    op.SomeNotRejected l r o a b := by
  obtain ⟨a', haa', hbeyond⟩ := Value.exists_beyondLimits ha
  obtain ⟨b', hbb'⟩ := b.exists_mayBe
  refine ⟨a', b', haa', hbb', ?_⟩
  unfold applyNumbers
  rw [hbeyond]
  exact Eval.not_rejected_beyondLimits

/-- Beside a number it may stop at the right one. -/
theorem someNotRejected_of_mayExceedLimits_right (ha : a.MayBeNumber d) (hb : b.MayExceedLimits) :
    op.SomeNotRejected l r o a b := by
  obtain ⟨a', haa', ha'⟩ := ha
  obtain ⟨b', hbb', hbeyond⟩ := Value.exists_beyondLimits hb
  refine ⟨a', b', haa', hbb', ?_⟩
  unfold applyNumbers
  rw [(Value.toNumber_eq_some_iff l (.left op)).2 ha', hbeyond]
  exact Eval.not_rejected_beyondLimits

/-- Beside a left operand that is a number, known or not, the right operand is rejected only where
the whole is. -/
theorem not_rejected_right (hr : ¬Eval.Rejected (op.applyNumbers a b l r o))
    (ha : (∃ d, a.asNumber? = some d) ∨ a = .unknown .number) :
    ¬Eval.Rejected (b.toNumber r (.right op)) := by
  intro hb
  refine hr ?_
  unfold applyNumbers
  rcases ha with ⟨d, hd⟩ | rfl
  · rw [(Value.toNumber_eq_some_iff l (.left op)).2 hd]
    exact hb.bind _
  · exact hb.bind _

/-- An operator on numbers that is neither rejected nor doomed is accepted for some choice. -/
theorem someNotRejected_of_not_doomed (hop : op.onNumbers)
    (hr : ¬Eval.Rejected (op.applyNumbers a b l r o))
    (hunknown : a.isKnown = false ∨ b.isKnown = false) (hdoomed : ¬op.NumbersDoomed a b) :
    op.SomeNotRejected l r o a b := by
  simp only [NumbersDoomed, not_or, not_and] at hdoomed
  obtain ⟨ha, hright⟩ := hdoomed
  by_cases hlimits : a.MayExceedLimits
  · exact someNotRejected_of_mayExceedLimits_left l r o hlimits
  obtain ⟨hb, hzero⟩ := hright hlimits
  have ha_number := Value.number_or_unknown_number (mt (·.bind _) hr) ha hlimits
  have hb_rejected := not_rejected_right l r o hr ha_number
  -- The left operand is a number or can be chosen as one.
  obtain ⟨d, had⟩ : ∃ d, a.MayBeNumber d := by
    rcases ha_number with ⟨d, hd⟩ | rfl
    · exact ⟨d, Value.mayBeNumber_of_asNumber? hd⟩
    · exact ⟨.ofNat 0, Value.mayBeNumber_unknown_number _⟩
  by_cases hblimits : b.MayExceedLimits
  · exact someNotRejected_of_mayExceedLimits_right l r o had hblimits
  rcases Value.number_or_unknown_number hb_rejected hb hblimits with ⟨e, he⟩ | rfl
  · -- The right operand is known, so that the left one is not and can be chosen to fit.
    have ha_unknown : a = .unknown .number := by
      refine ha_number.resolve_left ?_
      rintro ⟨d, hd⟩
      simp [Value.isKnown_of_asNumber? hd, Value.isKnown_of_asNumber? he] at hunknown
    have hnonzero : ¬((op = .div ∨ op = .rem) ∧ e.isZero) :=
      fun ⟨hdiv, hez⟩ => hzero hdiv ⟨e, he, hez⟩
    obtain ⟨d, w, hw⟩ := exists_applyNumbers_left l r o hop hnonzero
    exact someNotRejected_of_eq_ok l r o (ha_unknown ▸ Value.mayBeNumber_unknown_number d)
      (Value.mayBeNumber_of_asNumber? he) hw
  · obtain ⟨e, w, hw⟩ := exists_applyNumbers_right l r o hop d
    exact someNotRejected_of_eq_ok l r o had (Value.mayBeNumber_unknown_number e) hw

/-! ## Doomed operators -/

/-- A doomed operator on numbers is rejected for every choice of its operands. -/
theorem alwaysRejected_of_numbersDoomed {a' b' : Value} (hdoomed : op.NumbersDoomed a b)
    (haa' : a.MayBe a') (hbb' : b.MayBe b') : Eval.Rejected (op.applyNumbers a' b' l r o) := by
  rcases hdoomed with ha | ⟨hlimits, hb⟩
  · exact (ha.rejected_toNumber haa' l (.left op)).bind _
  · -- The left operand does not stop the evaluation, so that the right one is looked at.
    rcases Value.toNumber_some_or_rejected haa' hlimits l (.left op) with ⟨d, hd⟩ | ha'
    · rcases hb with hb | ⟨hdiv, e, he, hzero⟩
      · have hrejected := hb.rejected_toNumber hbb' r (.right op)
        unfold applyNumbers
        rw [hd]
        exact hrejected.bind _
      · obtain rfl := (Value.mayBe_of_isKnown (Value.isKnown_of_asNumber? he)).1 hbb'
        rw [Value.toNumber_eq_some_iff] at hd
        rw [applyNumbers_of_asNumber? l r o hd he]
        exact rejected_applyNumbers_zero l r o hdiv hzero
    · exact ha'.bind _

/-- Nothing but a doomed operator on numbers is rejected for every choice of its operands. -/
theorem alwaysRejected_applyNumbers_iff (hop : op.onNumbers)
    (hr : ¬Eval.Rejected (op.applyNumbers a b l r o))
    (hunknown : a.isKnown = false ∨ b.isKnown = false) :
    (∀ a' b', a.MayBe a' → b.MayBe b' → Eval.Rejected (op.applyNumbers a' b' l r o)) ↔
      op.NumbersDoomed a b := by
  refine ⟨fun h => ?_, fun hdoomed a' b' => alwaysRejected_of_numbersDoomed l r o hdoomed⟩
  by_contra hdoomed
  obtain ⟨a', b', haa', hbb', haccepted⟩ :=
    someNotRejected_of_not_doomed l r o hop hr hunknown hdoomed
  exact haccepted (h a' b' haa' hbb')

end BinaryOp

/-! ## Applications of operators -/

/-- An operator with the values of its operands, and the origins that its errors name. -/
inductive Application where
  /-- `left op right` -/
  | binary (op : BinaryOp) (left right : Value) (leftOrigin rightOrigin o : Origin)
  /-- `op operand` -/
  | unary (op : UnaryOp) (operand : Value) (o : Origin)
  /-- `target[key]` -/
  | index (target key : Value) (o : Origin)
  /-- `target.name` -/
  | getAttr (target : Value) (name : String) (o : Origin)

/-- The expression applies the operator to operands of these values. -/
inductive Expr.Applies (s : Scope) : Expr → Application → Prop
  | binary {o : Origin} {op : BinaryOp} {left right : Expr} {a b : Value}
      (hleft : left.evaluate s = .ok a) (hright : right.evaluate s = .ok b) :
      Applies s (.binary o op left right) (.binary op a b left.origin right.origin o)
  | unary {o : Origin} {op : UnaryOp} {operand : Expr} {a : Value}
      (hoperand : operand.evaluate s = .ok a) :
      Applies s (.unary o op operand) (.unary op a operand.origin)
  | index {o : Origin} {target key : Expr} {v k : Value}
      (htarget : target.evaluate s = .ok v) (hkey : key.evaluate s = .ok k) :
      Applies s (.index o target key) (.index v k o)
  | getAttr {o : Origin} {target : Expr} {name : String} {v : Value}
      (htarget : target.evaluate s = .ok v) :
      Applies s (.getAttr o target name) (.getAttr v name o)

namespace Application

/-- What the operator makes of its operands. -/
def run : Application → Eval Value
  | binary op a b leftOrigin rightOrigin o => op.apply a b leftOrigin rightOrigin o
  | unary op a o => op.apply a o
  | index v key o => v.index key o
  | getAttr v name o => v.getAttr name o

/-- Some operand is unknown. -/
def HasUnknown : Application → Prop
  | binary _ a b _ _ _ => a.isKnown = false ∨ b.isKnown = false
  | unary _ a _ => a.isKnown = false
  | index v key _ => v.isKnown = false ∨ key.isKnown = false
  | getAttr v _ _ => v.isKnown = false

/-- The operator is rejected for every choice of known values for its unknown operands. -/
def AlwaysRejected : Application → Prop
  | binary op a b leftOrigin rightOrigin o =>
    ∀ a' b', a.MayBe a' → b.MayBe b' → Eval.Rejected (op.apply a' b' leftOrigin rightOrigin o)
  | unary op a o => ∀ a', a.MayBe a' → Eval.Rejected (op.apply a' o)
  | index v key o => ∀ v' key', v.MayBe v' → key.MayBe key' → Eval.Rejected (v'.index key' o)
  | getAttr v name o => ∀ v', v.MayBe v' → Eval.Rejected (v'.getAttr name o)

end Application

theorem Expr.Applies.evaluate_eq {s : Scope} {e : Expr} {app : Application}
    (h : e.Applies s app) : e.evaluate s = app.run := by
  cases h with
  | binary hleft hright => 
    rw [Expr.evaluate, hleft, hright]
    rfl
  | unary hoperand =>
    rw [Expr.evaluate, hoperand]
    rfl
  | index htarget hkey =>
    rw [Expr.evaluate, htarget, hkey]
    rfl
  | getAttr htarget =>
    rw [Expr.evaluate, htarget]
    rfl

/-- The operator has an unknown operand and is not rejected, although every choice of the operand
is. -/
def Application.Doomed : Application → Prop
  | binary .eq _ _ _ _ _ | binary .ne _ _ _ _ _ => False
  | binary .and a b _ _ _ | binary .or a b _ _ _ =>
    a.Unreadable ValueKind.readsAsBool ∨ b.Unreadable ValueKind.readsAsBool
  | binary op a b _ _ _ => op.NumbersDoomed a b
  | unary .not a _ => a.Unreadable ValueKind.readsAsBool
  | unary .negate a _ => a.Unreadable ValueKind.readsAsNumber
  | index v key _ => v.NoElement key
  | getAttr v _ _ => v.kind.hasAttributes = false

section Operators

variable {a b : Value} (l r o : Origin)

/-! ## Truth values -/

/-- Between truth values each operand is rejected on its own. -/
theorem BinaryOp.rejected_applyLogic_iff (op : BinaryOp) :
    Eval.Rejected (op.applyLogic a b l r) ↔
      Eval.Rejected (a.toBool l (.left op)) ∨ Eval.Rejected (b.toBool r (.right op)) := by
  rcases Value.toBool_ok_or_rejected a l (.left op) with ⟨c, hc⟩ | ha
  · rcases Value.toBool_ok_or_rejected b r (.right op) with ⟨d, hd⟩ | hb
    · have hok : ∃ w, op.applyLogic a b l r = .ok w := by
        unfold applyLogic
        rw [hc, hd]
        cases c <;> cases d <;> exact ⟨_, rfl⟩
      obtain ⟨w, hw⟩ := hok
      simp [hw, hc, hd]
    · have hrun : Eval.Rejected (op.applyLogic a b l r) := by
        unfold applyLogic
        rw [hc]
        exact hb.bind _
      simp [hrun, hb]
  · have hrun : Eval.Rejected (op.applyLogic a b l r) := ha.bind _
    simp [hrun, ha]

/-- The choices of two operands are rejected when those of one are. -/
theorem BinaryOp.alwaysRejected_applyLogic_iff (op : BinaryOp)
    (hr : ¬Eval.Rejected (op.applyLogic a b l r)) :
    (∀ a' b', a.MayBe a' → b.MayBe b' → Eval.Rejected (op.applyLogic a' b' l r)) ↔
      a.Unreadable ValueKind.readsAsBool ∨ b.Unreadable ValueKind.readsAsBool := by
  rw [rejected_applyLogic_iff, not_or] at hr
  have ha := Value.alwaysRejected_toBool_iff a l (.left op)
  have hb := Value.alwaysRejected_toBool_iff b r (.right op)
  rw [or_iff_right hr.1] at ha
  rw [or_iff_right hr.2] at hb
  rw [← ha, ← hb]
  simp only [rejected_applyLogic_iff]
  constructor
  · -- Two choices that are each accepted are accepted together.
    intro h
    by_contra hnot
    simp only [not_or, not_forall] at hnot
    obtain ⟨⟨a', haa', ha'⟩, b', hbb', hb'⟩ := hnot
    exact (h a' b' haa' hbb').elim ha' hb'
  · rintro (h | h) a' b' haa' hbb'
    · exact .inl (h a' haa')
    · exact .inr (h b' hbb')

/-! ## Operators with one operand -/

namespace UnaryOp

theorem rejected_apply_not_iff :
    Eval.Rejected (UnaryOp.not.apply a o) ↔ Eval.Rejected (a.toBool o (.operand .not)) := by
  rcases a.toBool_ok_or_rejected o (.operand .not) with ⟨b, hb⟩ | h
  · simp only [apply, hb]
    cases b <;> exact iff_of_false (Eval.not_rejected_ok _) (Eval.not_rejected_ok _)
  · exact iff_of_true (h.bind _) h

/-- A number is rejected before its sign is changed, or not at all. -/
theorem rejected_apply_negate_iff :
    Eval.Rejected (UnaryOp.negate.apply a o) ↔
      Eval.Rejected (a.toNumber o (.operand .negate)) := by
  rcases Eval.ok_or_rejected_or_beyondLimits (a.toNumber o (.operand .negate)) with
    ⟨d, hd⟩ | h | h
  · refine iff_of_false ?_ (hd ▸ Eval.not_rejected_ok d)
    simp only [apply, hd, Eval.ok_bind]
    cases d with
    | none => exact Eval.not_rejected_ok _
    | some d =>
      dsimp only
      cases d.neg with
      | ok e => exact Eval.not_rejected_ok _
      | error fault => exact Eval.not_rejected_beyondLimits
  · exact iff_of_true (h.bind _) h
  · simp only [apply, h]
    exact iff_of_false Eval.not_rejected_beyondLimits Eval.not_rejected_beyondLimits

/-- Every choice of an unknown operand is rejected exactly if the operand is unreadable. -/
theorem alwaysRejected_apply_iff {reads : ValueKind → Bool} {x : Value → Eval β} {op : UnaryOp}
    (hread : (∀ w, a.MayBe w → Eval.Rejected (x w)) ↔ Eval.Rejected (x a) ∨ a.Unreadable reads)
    (hop : ∀ w, Eval.Rejected (op.apply w o) ↔ Eval.Rejected (x w))
    (hr : ¬Eval.Rejected (op.apply a o)) :
    (∀ w, a.MayBe w → Eval.Rejected (op.apply w o)) ↔ a.Unreadable reads := by
  rw [hop] at hr
  rw [or_iff_right hr] at hread
  simpa only [hop] using hread

end UnaryOp

end Operators

/-! ## Doomed applications -/

/-- An application with an unknown operand that is not rejected is rejected for every choice of its
unknown operands exactly if it is doomed. -/
theorem Application.alwaysRejected_iff_doomed {app : Application} (hr : ¬Eval.Rejected app.run)
    (hunknown : app.HasUnknown) : app.AlwaysRejected ↔ app.Doomed := by
  cases app with
  | index v key o => exact Value.alwaysRejected_index_iff o hr hunknown
  | getAttr v name o => exact Value.alwaysRejected_getAttr_iff o hunknown name
  | unary op a o =>
    cases op with
    | not =>
      exact UnaryOp.alwaysRejected_apply_iff o (a.alwaysRejected_toBool_iff o _)
        (fun _ => UnaryOp.rejected_apply_not_iff o) hr
    | negate =>
      exact UnaryOp.alwaysRejected_apply_iff o (a.alwaysRejected_toNumber_iff o _)
        (fun _ => UnaryOp.rejected_apply_negate_iff o) hr
  | binary op a b l r o =>
    cases op with
    | eq | ne =>
      -- Values of all kinds can be compared.
      refine iff_of_false (fun h => ?_) id
      obtain ⟨a', haa'⟩ := a.exists_mayBe
      obtain ⟨b', hbb'⟩ := b.exists_mayBe
      exact Eval.not_rejected_ok _ (h a' b' haa' hbb')
    | and | or => exact BinaryOp.alwaysRejected_applyLogic_iff l r _ hr
    | lt | gt | le | ge | add | sub | mul | div | rem =>
      exact BinaryOp.alwaysRejected_applyNumbers_iff l r o rfl hr hunknown

/-- An expression that applies an operator to unknown operands is rejected where every choice of
them is, except where it is doomed. -/
theorem Expr.rejected_of_alwaysRejected_iff {s : Scope} {e : Expr} {app : Application}
    (happ : e.Applies s app) (hunknown : app.HasUnknown) :
    (app.AlwaysRejected → Eval.Rejected (e.evaluate s)) ↔
      (Eval.Rejected (e.evaluate s) ∨ ¬app.Doomed) := by
  rw [happ.evaluate_eq]
  by_cases hr : Eval.Rejected app.run
  · simp [hr]
  · rw [Application.alwaysRejected_iff_doomed hr hunknown]
    simp [hr]

/-- In `"abc"[i]` the index is doomed, since no text has elements, but the expression is not
rejected while `i` is unresolved. -/
theorem Expr.rejected_of_alwaysRejected_iff_text :
    let e := Expr.index default (.template default [.text "abc"]) (.variable default "i")
    let app := Application.index (.string "abc") (.unknown .dynamic) default
    (e.Applies .empty app ∧ app.HasUnknown) ∧ app.Doomed ∧
      ((app.AlwaysRejected → Eval.Rejected (e.evaluate .empty)) ↔
        (Eval.Rejected (e.evaluate .empty) ∨ ¬app.Doomed)) := by
  intro e app
  have happ : e.Applies .empty app := .index rfl rfl
  exact ⟨⟨happ, .inr rfl⟩, trivial, Expr.rejected_of_alwaysRejected_iff happ (.inr rfl)⟩

/-- An expression need not be rejected where every choice of its unknown operands is. -/
theorem Expr.not_forall_rejected_of_alwaysRejected :
    ¬∀ (s : Scope) (e : Expr) (app : Application), e.Applies s app → app.HasUnknown →
      app.AlwaysRejected → Eval.Rejected (e.evaluate s) := by
  intro h
  have hrejected := h .empty
    (.index default (.template default [.text "abc"]) (.variable default "i"))
    (.index (.string "abc") (.unknown .dynamic) default) (.index rfl rfl) (.inr rfl) ?_
  · exact Eval.not_rejected_ok _ hrejected
  · intro v' key' hv' hkey'
    exact Value.alwaysRejected_index_of_kind _ (by decide) (by decide) (by decide) hv' hkey'

end ResourceTables
