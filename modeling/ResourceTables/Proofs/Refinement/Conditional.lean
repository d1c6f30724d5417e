import ResourceTables.Proofs.Refinement.Evaluate

/-!
# Conditionals in refined scopes

A conditional is the one form whose value can change, and whose failure can go away, when a scope is
refined, even though all its operands are refined as they should. Both depend on what the two
branches evaluate to:

* `Expr.evaluate_conditional_eq_iff`: a wholly known value stays the same exactly if the chosen
  branch reads the same beside the other one. Between settled operands that is a matter of the
  branch that is not chosen, which may turn into a text, or from one into null;
* `Expr.evaluate_conditional_accepted_iff`: a rejected conditional is accepted in the refined scope
  exactly if its branches agree there. Between settled operands a branch that was unknown has then
  turned out to be null.
-/

namespace ResourceTables

namespace Value

variable {v r x r' x' yes no yes' no' : Value} {cond cond' : Option Bool} {k : ValueKind}
  {o : Origin}

/-! ## Known branches -/

/-- A number or a truth value as its text. All other values stay as they are. -/
def asText : Value → Value
  | number d => string d.text
  | bool b => string (boolText b)
  | v => v

/-- What the known branch `r` becomes beside the branch `x` that is not chosen. -/
def beside (r x : Value) : Value :=
  if x.kind = .string then r.asText else r

/-- A branch reads alike beside two others if it is no number or truth value, or if both others are
texts or neither is. -/
theorem beside_eq_beside_iff :
    r.beside x' = r.beside x ↔ r.asText = r ∨ (x.kind = .string ↔ x'.kind = .string) := by
  unfold beside
  by_cases hx : x.kind = .string <;> by_cases hx' : x'.kind = .string <;>
    simp [hx, hx', eq_comm]

theorem asText_eq_self_of_not_converts (h : ¬r.kind.convertsToText) : r.asText = r := by
  cases r with
  | number _ | bool _ => exact absurd rfl h
  | unknown _ | null _ | string _ | tuple _ | object _ => rfl

theorem isKnown_of_whollyKnown_beside (h : (r.beside x).whollyKnown) : r.isKnown := by
  cases r with
  | unknown _ =>
    unfold beside at h
    split at h <;> cases h
  | null _ | string _ | number _ | bool _ | tuple _ | object _ => rfl

/-- Only a wholly known branch is converted to a wholly known value. -/
theorem whollyKnown_of_convertBranch (h : convertBranch k r o = .ok v) (hv : v.whollyKnown) :
    r.whollyKnown := by
  unfold convertBranch at h
  split at h
  · cases r with
    | unknown l =>
      cases h
      cases hv
    | null l => cases h
    | tuple vs => cases h
    | object fs => cases h
    | string _ | number _ | bool _ => rfl
  · cases h
    exact hv

/-- A known branch is converted to what it becomes beside the other one. -/
theorem eq_beside_of_convertBranch (hk : unify r x = some k) (hr : r.isKnown)
    (h : convertBranch k r o = .ok v) : v = r.beside x := by
  -- Numbers and truth values become texts beside a text, and all else stays.
  by_cases hconv : r.kind.convertsToText
  · have hstring_iff := ValueKind.join_eq_string_iff hconv hk
    by_cases hstring : k = .string
    · rw [beside, if_pos (hstring_iff.1 hstring)]
      subst hstring
      cases r with
      | unknown _ => cases hr
      | null l =>
        rw [convertBranch_null (k := l) hconv, if_pos rfl] at h
        cases h
      | number _ | bool _ =>
        cases h
        rfl
      | string _ | tuple _ | object _ => cases hconv
    · rw [beside, if_neg (mt hstring_iff.2 hstring)]
      rw [convertBranch_of_ne hstring] at h
      cases h
      rfl
  · rw [convertBranch_of_not_converts hk hconv] at h
    cases h
    rw [beside, asText_eq_self_of_not_converts hconv, ite_self]

/-! ## Accepted branches -/

/-- A null in the place of a number or a truth value would have to become a text beside `x`. -/
def NullBesideText (r x : Value) : Prop :=
  ∃ l, r = null l ∧ l.convertsToText ∧ x.kind = .string

/-- The branches have a kind in common, and the one that is chosen can be converted to it. -/
def Accepted (cond : Option Bool) (yes no : Value) : Prop :=
  (∃ k, yes.kind.join no.kind = some k) ∧
    (cond = some true → ¬yes.NullBesideText no) ∧ (cond = some false → ¬no.NullBesideText yes)

/-- Only a null that would have to become a text cannot be converted. -/
theorem exists_convertBranch_eq_ok_iff (hk : unify r x = some k) :
    (∃ v, convertBranch k r o = .ok v) ↔ ¬r.NullBesideText x := by
  by_cases hconv : r.kind.convertsToText
  · have hstring_iff := ValueKind.join_eq_string_iff hconv hk
    -- Only the conversion to a text can fail, and it does for null alone.
    by_cases hstring : k = .string
    · have hx := hstring_iff.1 hstring
      subst hstring
      cases hnull : r.isNull with
      | true =>
        obtain ⟨l, rfl⟩ := exists_eq_null hnull
        rw [convertBranch_null (k := l) hconv, if_pos rfl]
        refine iff_of_false (fun ⟨v, hv⟩ => nomatch hv) (not_not_intro ?_)
        exact ⟨l, rfl, hconv, hx⟩
      | false =>
        obtain ⟨t, ht, -⟩ := exists_convertBranch_string hconv hnull o
        refine iff_of_true ⟨t, ht⟩ ?_
        rintro ⟨l, rfl, -⟩
        cases hnull
    · refine iff_of_true ⟨r, convertBranch_of_ne hstring r o⟩ ?_
      rintro ⟨l, rfl, -, hx⟩
      exact hstring (hstring_iff.2 hx)
  · refine iff_of_true ⟨r, convertBranch_of_not_converts hk hconv o⟩ ?_
    rintro ⟨l, rfl, hl, -⟩
    exact hconv hl

section Choose

variable (yesOrigin noOrigin : Origin)

/-- A conditional whose condition is known converts the branch that it chooses. -/
theorem choose_chosen (b : Bool) :
    choose (some b) (if b then r else x) (if b then x else r) yesOrigin noOrigin o =
      (unify r x).elim (.error (.invalid o
          (.branches (if b then r else x).kind (if b then x else r).kind)))
        fun k => convertBranch k r (if b then yesOrigin else noOrigin) := by
  cases b with
  | true =>
    cases hk : unify r x with
    | none => exact choose_of_unify_none _ _ _ hk
    | some k => exact choose_of_unify_some _ _ _ hk
  | false =>
    rw [unify_comm]
    cases hk : unify x r with
    | none => exact choose_of_unify_none _ _ _ hk
    | some k => exact choose_of_unify_some _ _ _ hk

/-- A conditional gives a known value only if its condition is known. -/
theorem exists_of_choose_whollyKnown
    (h : choose cond yes no yesOrigin noOrigin o = .ok v) (hv : v.whollyKnown) :
    ∃ b, cond = some b := by
  cases cond with
  | some b => exact ⟨b, rfl⟩
  | none =>
    cases hk : unify yes no with
    | none =>
      rw [choose_of_unify_none _ _ _ hk] at h
      cases h
    | some k =>
      rw [choose_of_unify_some _ _ _ hk] at h
      cases h
      cases hv

/-- A conditional succeeds exactly if its branches are accepted. -/
theorem exists_choose_eq_ok_iff :
    (∃ v, choose cond yes no yesOrigin noOrigin o = .ok v) ↔ Accepted cond yes no := by
  unfold Accepted
  rw [← unify_eq_join]
  cases hk : unify yes no with
  | none =>
    rw [choose_of_unify_none _ _ _ hk]
    exact iff_of_false (fun ⟨v, hv⟩ => nomatch hv) (fun ⟨⟨k, hk⟩, _⟩ => nomatch hk)
  | some k =>
    rw [choose_of_unify_some _ _ _ hk]
    match cond with
    | none => simp
    | some true =>
      rw [exists_convertBranch_eq_ok_iff hk]
      simp
    | some false =>
      rw [unify_comm] at hk
      rw [exists_convertBranch_eq_ok_iff hk]
      simp

end Choose

/-- Branches that have no kind in common have one when they are refined only if one of them turns
out to be null. -/
theorem null_of_join_accepted (hr : r.RefinedBy r') (hx : x.RefinedBy x')
    (h : ¬∃ k, r.kind.join x.kind = some k) (h' : ∃ k, r'.kind.join x'.kind = some k) :
    r.isKnown = false ∧ r' = null .dynamic ∨ x.isKnown = false ∧ x' = null .dynamic := by
  rcases kind_of_refinedBy hr with rfl | hr' | hnull
  · exact absurd ⟨_, ValueKind.dynamic_join x.kind⟩ h
  · rcases kind_of_refinedBy hx with rfl | hx' | hnull
    · exact absurd ⟨_, ValueKind.join_dynamic r.kind⟩ h
    · rw [hr', hx'] at h'
      exact absurd h' h
    · exact .inr hnull
  · exact .inl hnull

/-- A null stands beside a text no longer only if the text turns out to be null. -/
theorem NullBesideText.null_of_refined (h : r.NullBesideText x) (hr : r.RefinedBy r')
    (hx : x.RefinedBy x') (h' : ¬r'.NullBesideText x') :
    x.isKnown = false ∧ x' = null .dynamic := by
  obtain ⟨l, rfl, hl, hstring⟩ := h
  obtain rfl : r' = null l := by simpa using hr
  rcases kind_of_refinedBy hx with rfl | hx' | hnull
  · cases hstring
  · exact absurd ⟨l, rfl, hl, hx'.trans hstring⟩ h'
  · exact hnull

/-- Branches that are not accepted are accepted when they are refined only if an unknown one turns
out to be null. -/
theorem null_of_accepted (hcond : WhenKnown Eq cond cond') (hyes : yes.RefinedBy yes')
    (hno : no.RefinedBy no') (h : ¬Accepted cond yes no) (h' : Accepted cond' yes' no') :
    yes.isKnown = false ∧ yes' = null .dynamic ∨ no.isKnown = false ∧ no' = null .dynamic := by
  obtain ⟨hjoin', hyes_null', hno_null'⟩ := h'
  by_cases hjoin : ∃ k, yes.kind.join no.kind = some k
  · by_cases hyes_null : cond = some true ∧ yes.NullBesideText no
    · obtain ⟨rfl, hnull⟩ := hyes_null
      obtain ⟨_, rfl, rfl⟩ := whenKnown_some.1 hcond
      exact .inr (hnull.null_of_refined hyes hno (hyes_null' rfl))
    · by_cases hno_null : cond = some false ∧ no.NullBesideText yes
      · obtain ⟨rfl, hnull⟩ := hno_null
        obtain ⟨_, rfl, rfl⟩ := whenKnown_some.1 hcond
        exact .inl (hnull.null_of_refined hno hyes (hno_null' rfl))
      · exact absurd ⟨hjoin, not_and.1 hyes_null, not_and.1 hno_null⟩ h
  · exact null_of_join_accepted hyes hno hjoin hjoin'

end Value

namespace Expr

variable {s s' : Scope} {o : Origin} {cond yes no : Expr} {c c' : Option Bool}
  {yesValue noValue yesValue' noValue' v v' : Value}

/-! ## The operands of a conditional -/

/-- The condition is known to be `b` and so chooses between the values of the branches. -/
def Chooses (s : Scope) (cond yes no : Expr) (b : Bool) (chosen other : Value) : Prop :=
  Operands s cond yes no (some b) (if b then chosen else other) (if b then other else chosen)

theorem Operands.evaluate_eq (h : Operands s cond yes no c yesValue noValue) :
    (conditional o cond yes no).evaluate s =
      Value.choose c yesValue noValue yes.origin no.origin o := by
  rw [evaluate_conditional, h.cond_eq, h.yes_eq, h.no_eq]
  rfl

theorem Operands.chooses {b : Bool} (h : Operands s cond yes no (some b) yesValue noValue) :
    Chooses s cond yes no b (if b then yesValue else noValue)
      (if b then noValue else yesValue) := by
  cases b <;> exact h

/-- The branch that a conditional chooses is converted to its value. -/
theorem Chooses.exists_convertBranch {b : Bool} {chosen other : Value}
    (h : Chooses s cond yes no b chosen other)
    (hv : (conditional o cond yes no).evaluate s = .ok v) :
    ∃ k, Value.unify chosen other = some k ∧
      Value.convertBranch k chosen (if b then yes.origin else no.origin) = .ok v := by
  rw [Operands.evaluate_eq h, Value.choose_chosen] at hv
  cases hk : Value.unify chosen other with
  | none =>
    rw [hk] at hv
    cases hv
  | some k =>
    rw [hk] at hv
    exact ⟨k, rfl, hv⟩

/-- A known branch that is chosen becomes the value of the conditional beside the other one. -/
theorem Chooses.eq_beside {b : Bool} {chosen other : Value}
    (h : Chooses s cond yes no b chosen other) (hchosen : chosen.isKnown)
    (hv : (conditional o cond yes no).evaluate s = .ok v) : v = chosen.beside other := by
  obtain ⟨k, hk, hconvert⟩ := h.exists_convertBranch hv
  exact Value.eq_beside_of_convertBranch hk hchosen hconvert

/-- A wholly known value comes from a wholly known branch. -/
theorem Chooses.whollyKnown {b : Bool} {chosen other : Value}
    (h : Chooses s cond yes no b chosen other)
    (hv : (conditional o cond yes no).evaluate s = .ok v) (hknown : v.whollyKnown) :
    chosen.whollyKnown := by
  obtain ⟨k, -, hconvert⟩ := h.exists_convertBranch hv
  exact Value.whollyKnown_of_convertBranch hconvert hknown

/-- A conditional that has a value has operands. -/
theorem exists_operands (h : (conditional o cond yes no).evaluate s = .ok v) :
    ∃ c yesValue noValue, Operands s cond yes no c yesValue noValue := by
  rw [evaluate_conditional] at h
  cases hc : cond.truth s .condition with
  | error err =>
    rw [hc] at h
    cases h
  | ok c =>
    cases hyes : yes.evaluate s with
    | error err =>
      rw [hc, hyes] at h
      cases h
    | ok yesValue =>
      cases hno : no.evaluate s with
      | error err =>
        rw [hc, hyes, hno] at h
        cases h
      | ok noValue => exact ⟨c, yesValue, noValue, hc, hyes, hno⟩

/-- A conditional with a wholly known value has chosen a branch. -/
theorem exists_chooses (hv : (conditional o cond yes no).evaluate s = .ok v)
    (hknown : v.whollyKnown) :
    ∃ b chosen other, Chooses s cond yes no b chosen other ∧ chosen.whollyKnown ∧
      v = chosen.beside other := by
  obtain ⟨c, yesValue, noValue, h⟩ := exists_operands hv
  obtain ⟨b, rfl⟩ := Value.exists_of_choose_whollyKnown _ _ (h.evaluate_eq ▸ hv) hknown
  have hchosen := h.chooses.whollyKnown hv hknown
  exact ⟨b, _, _, h.chooses, hchosen,
    h.chooses.eq_beside (Value.isKnown_of_whollyKnown hchosen) hv⟩

/-- A conditional succeeds exactly if it has operands whose branches are accepted. -/
theorem exists_evaluate_conditional_eq_ok_iff :
    (∃ v, (conditional o cond yes no).evaluate s = .ok v) ↔
      ∃ c yesValue noValue, Operands s cond yes no c yesValue noValue ∧
        Value.Accepted c yesValue noValue := by
  constructor
  · rintro ⟨v, hv⟩
    obtain ⟨c, yesValue, noValue, h⟩ := exists_operands hv
    rw [h.evaluate_eq] at hv
    exact ⟨c, yesValue, noValue, h, (Value.exists_choose_eq_ok_iff _ _).1 ⟨v, hv⟩⟩
  · rintro ⟨c, yesValue, noValue, h, haccepted⟩
    rw [h.evaluate_eq]
    exact (Value.exists_choose_eq_ok_iff _ _).2 haccepted

section Refined

variable (hs : s.RefinedBy s') (hcond : cond.Settled s) (hyes : yes.Settled s)
  (hno : no.Settled s)

include hs hcond hyes hno

/-- Settled operands are refined with the scope. -/
theorem Operands.refinedBy (h : Operands s cond yes no c yesValue noValue)
    (h' : Operands s' cond yes no c' yesValue' noValue') :
    WhenKnown Eq c c' ∧ yesValue.RefinedBy yesValue' ∧ noValue.RefinedBy noValue' := by
  have hrel := truth_refinedBy .condition (cond.evaluate_refinedBy s s' hs hcond)
  refine ⟨hrel.rel _ _ h.cond_eq h'.cond_eq, ?_, ?_⟩
  · exact (yes.evaluate_refinedBy s s' hs hyes).rel _ _ h.yes_eq h'.yes_eq
  · exact (no.evaluate_refinedBy s s' hs hno).rel _ _ h.no_eq h'.no_eq

/-- What has operands in the refined scope has some in the scope. -/
theorem Operands.exists_of_refined (h' : Operands s' cond yes no c' yesValue' noValue') :
    ∃ c yesValue noValue, Operands s cond yes no c yesValue noValue := by
  have hrel := truth_refinedBy .condition (cond.evaluate_refinedBy s s' hs hcond)
  obtain ⟨c, hc⟩ := hrel.exists_ok h'.cond_eq
  obtain ⟨yesValue, hyes⟩ := (yes.evaluate_refinedBy s s' hs hyes).exists_ok h'.yes_eq
  obtain ⟨noValue, hno⟩ := (no.evaluate_refinedBy s s' hs hno).exists_ok h'.no_eq
  exact ⟨c, yesValue, noValue, hc, hyes, hno⟩

/-- A wholly known branch is chosen again in the refined scope. -/
theorem Chooses.exists_of_refined {b : Bool} {chosen other : Value}
    (h : Chooses s cond yes no b chosen other) (hchosen : chosen.whollyKnown)
    (h' : Operands s' cond yes no c' yesValue' noValue') :
    ∃ other', Chooses s' cond yes no b chosen other' := by
  obtain ⟨hcc, hyy, hnn⟩ := Operands.refinedBy hs hcond hyes hno h h'
  obtain ⟨_, rfl, rfl⟩ := whenKnown_some.1 hcc
  have heq : (if b then yesValue' else noValue') = chosen := by
    refine Value.eq_of_refinedBy _ _ ?_ hchosen
    cases b
    · exact hnn
    · exact hyy
  have hchooses' := h'.chooses
  rw [heq] at hchooses'
  exact ⟨_, hchooses'⟩

end Refined

/-! ## Known and rejected conditionals -/

/-- The wholly known value of a conditional stays the same in a refined scope exactly if a branch is
chosen there that becomes the same beside the other one. Settled operands choose the same branch,
with the same value. The value then stays the same exactly if the branch is no number or truth
value, or the other branch is a text in both scopes or in neither. -/
theorem evaluate_conditional_eq_iff (hs : s.RefinedBy s')
    (hv : (conditional o cond yes no).evaluate s = .ok v) (hknown : v.whollyKnown)
    (hv' : (conditional o cond yes no).evaluate s' = .ok v') :
    ∃ b chosen other, Chooses s cond yes no b chosen other ∧
      (v' = v ↔ ∃ b' chosen' other', Chooses s' cond yes no b' chosen' other' ∧
        chosen'.beside other' = chosen.beside other) ∧
      (cond.Settled s → yes.Settled s → no.Settled s →
        ∃ other', Chooses s' cond yes no b chosen other' ∧
          (v' = v ↔ chosen.asText = chosen ∨ (other.kind = .string ↔ other'.kind = .string))) := by
  obtain ⟨b, chosen, other, h, hchosen, rfl⟩ := exists_chooses hv hknown
  refine ⟨b, chosen, other, h, ⟨fun heq => ?_, ?_⟩, fun hcond hyes hno => ?_⟩
  · subst heq
    obtain ⟨b', chosen', other', h', -, heq'⟩ := exists_chooses hv' hknown
    exact ⟨b', chosen', other', h', heq'.symm⟩
  · rintro ⟨b', chosen', other', h', heq⟩
    -- What becomes a wholly known value is known itself.
    have hchosen' : chosen'.isKnown := Value.isKnown_of_whollyKnown_beside (heq ▸ hknown)
    exact (h'.eq_beside hchosen' hv').trans heq
  · obtain ⟨_, _, _, hoperands⟩ := exists_operands hv'
    obtain ⟨other', h'⟩ := h.exists_of_refined hs hcond hyes hno hchosen hoperands
    refine ⟨other', h', ?_⟩
    rw [h'.eq_beside (Value.isKnown_of_whollyKnown hchosen) hv']
    exact Value.beside_eq_beside_iff

/-- Beside the unresolved `u` the value of `true ? 1 : u` is the number one, and a text where `u`
turns out to be one. -/
theorem evaluate_conditional_eq_iff_text :
    let cond := literal default (.bool true)
    let yes := literal default (.number (.ofNat 1))
    let no : Expr := .variable default "u"
    let s' := Scope.empty.bind "u" (.string "a")
    let v := Value.number (.ofNat 1)
    let v' := Value.string "1"
    (Scope.empty.RefinedBy s' ∧ (conditional default cond yes no).evaluate .empty = .ok v ∧
      v.whollyKnown ∧ (conditional default cond yes no).evaluate s' = .ok v') ∧
    ∃ b chosen other, Chooses .empty cond yes no b chosen other ∧
      (v' = v ↔ ∃ b' chosen' other', Chooses s' cond yes no b' chosen' other' ∧
        chosen'.beside other' = chosen.beside other) ∧
      ∃ other', Chooses s' cond yes no b chosen other' ∧
        (v' = v ↔ chosen.asText = chosen ∨ (other.kind = .string ↔ other'.kind = .string)) := by
  intro cond yes no s' v v'
  have hs : Scope.empty.RefinedBy s' := fun _ => Value.refinedBy_unknown_dynamic _
  have hv : (conditional default cond yes no).evaluate .empty = .ok v := rfl
  have hv' : (conditional default cond yes no).evaluate s' = .ok v' := rfl
  obtain ⟨b, chosen, other, h, hsame, hsettled⟩ := evaluate_conditional_eq_iff hs hv rfl hv'
  exact ⟨⟨hs, hv, rfl, hv'⟩, b, chosen, other, h, hsame, hsettled trivial trivial trivial⟩

/-- A wholly known value of a conditional need not stay the same when the scope is refined. -/
theorem not_forall_evaluate_conditional_eq :
    ¬∀ (o : Origin) (cond yes no : Expr) (s s' : Scope) (v v' : Value), s.RefinedBy s' →
      (conditional o cond yes no).evaluate s = .ok v → v.whollyKnown →
      (conditional o cond yes no).evaluate s' = .ok v' → v' = v := by
  intro h
  have heq := h default (literal default (.bool true)) (literal default (.number (.ofNat 1)))
    (.variable default "u") .empty (Scope.empty.bind "u" (.string "a")) (.number (.ofNat 1))
    (.string "1") (fun _ => Value.refinedBy_unknown_dynamic _) rfl rfl rfl
  cases heq

/-- A conditional that is rejected in a scope is accepted in a refined scope exactly if its operands
have values there and its branches are accepted. Between settled operands that is so exactly if a
branch whose value was unknown turns out to be null. -/
theorem evaluate_conditional_accepted_iff {err : EvalError} (hs : s.RefinedBy s')
    (herr : (conditional o cond yes no).evaluate s = .error err) :
    ((∃ v', (conditional o cond yes no).evaluate s' = .ok v') ↔
      ∃ c' yesValue' noValue', Operands s' cond yes no c' yesValue' noValue' ∧
        Value.Accepted c' yesValue' noValue') ∧
    (cond.Settled s → yes.Settled s → no.Settled s →
      ((∃ v', (conditional o cond yes no).evaluate s' = .ok v') ↔
        ∃ c yesValue noValue c' yesValue' noValue',
          Operands s cond yes no c yesValue noValue ∧
          Operands s' cond yes no c' yesValue' noValue' ∧
          (yesValue.isKnown = false ∧ yesValue' = .null .dynamic ∨
            noValue.isKnown = false ∧ noValue' = .null .dynamic))) := by
  refine ⟨exists_evaluate_conditional_eq_ok_iff, fun hcond hyes hno => ⟨fun hok => ?_, ?_⟩⟩
  · -- No operand fails, so that the branches themselves were rejected.
    obtain ⟨c', yesValue', noValue', h', haccepted'⟩ :=
      exists_evaluate_conditional_eq_ok_iff.1 hok
    obtain ⟨c, yesValue, noValue, h⟩ := h'.exists_of_refined hs hcond hyes hno
    obtain ⟨hcc, hyy, hnn⟩ := h.refinedBy hs hcond hyes hno h'
    have hrejected : ¬Value.Accepted c yesValue noValue := by
      intro haccepted
      obtain ⟨v, hv⟩ :=
        exists_evaluate_conditional_eq_ok_iff.2 ⟨c, yesValue, noValue, h, haccepted⟩
      cases herr.symm.trans hv
    exact ⟨c, yesValue, noValue, c', yesValue', noValue', h, h',
      Value.null_of_accepted hcc hyy hnn hrejected haccepted'⟩
  · -- A null agrees with whatever stands in the other branch.
    rintro ⟨c, yesValue, noValue, c', yesValue', noValue', -, h', hnull⟩
    rw [h'.evaluate_eq]
    rcases hnull with ⟨-, rfl⟩ | ⟨-, rfl⟩
    · exact Value.choose_null_left _ _ _ _ _
    · exact Value.choose_null_right _ _ _ _ _

/-- `true ? (c ? 1 : null) : []` is rejected while `c` is unresolved, since the unknown branch is
taken for a number. It is accepted where `c` turns out to be false. -/
theorem evaluate_conditional_accepted_iff_null :
    let cond := literal default (.bool true)
    let yes := conditional default (.variable default "c") (literal default (.number (.ofNat 1)))
      (literal default .null)
    let no := tuple default []
    let s' := Scope.empty.bind "c" (.bool false)
    (Scope.empty.RefinedBy s' ∧ (conditional default cond yes no).evaluate .empty =
        .error (.invalid default (.branches .number .tuple))) ∧
    (cond.Settled .empty ∧ yes.Settled .empty ∧ no.Settled .empty) ∧
    ((∃ v', (conditional default cond yes no).evaluate s' = .ok v') ↔
      ∃ c' yesValue' noValue', Operands s' cond yes no c' yesValue' noValue' ∧
        Value.Accepted c' yesValue' noValue') ∧
    ((∃ v', (conditional default cond yes no).evaluate s' = .ok v') ↔
      ∃ c yesValue noValue c' yesValue' noValue',
        Operands .empty cond yes no c yesValue noValue ∧
        Operands s' cond yes no c' yesValue' noValue' ∧
        (yesValue.isKnown = false ∧ yesValue' = .null .dynamic ∨
          noValue.isKnown = false ∧ noValue' = .null .dynamic)) := by
  intro cond yes no s'
  have hs : Scope.empty.RefinedBy s' := fun _ => Value.refinedBy_unknown_dynamic _
  -- The branches of the inner conditional are known, and one of them has the kind of both.
  have hyes : yes.Settled .empty := by
    refine ⟨trivial, trivial, trivial, fun c yesValue noValue h => ?_⟩
    obtain ⟨hc, hone, hnull⟩ := h
    cases hc
    cases hone
    cases hnull
    exact .inr (.inl ⟨rfl, rfl, .inl rfl⟩)
  have herr : (conditional default cond yes no).evaluate .empty =
      .error (.invalid default (.branches .number .tuple)) := rfl
  obtain ⟨haccepted, hsettled⟩ := evaluate_conditional_accepted_iff hs herr
  exact ⟨⟨hs, herr⟩, ⟨trivial, hyes, trivial⟩, haccepted, hsettled trivial hyes trivial⟩

/-- A rejected conditional may be accepted when the scope is refined. -/
theorem not_forall_evaluate_conditional_rejected :
    ¬∀ (o : Origin) (cond yes no : Expr) (s s' : Scope) (p : Origin) (cause : EvalCause),
      s.RefinedBy s' → (conditional o cond yes no).evaluate s = .error (.invalid p cause) →
      ∀ v', (conditional o cond yes no).evaluate s' ≠ .ok v' := by
  intro h
  have hne := h default (literal default (.bool true))
    (conditional default (.variable default "c") (literal default (.number (.ofNat 1)))
      (literal default .null)) (tuple default [])
    .empty (Scope.empty.bind "c" (.bool false)) default (.branches .number .tuple)
    (fun _ => Value.refinedBy_unknown_dynamic _) rfl (.null .dynamic)
  exact hne rfl

end Expr

end ResourceTables
