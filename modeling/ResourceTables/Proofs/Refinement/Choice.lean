import ResourceTables.Proofs.Refinement.Operations

/-!
# Conditionals with refined operands

A conditional converts the branch that it chooses to the kind of both branches, so its result can
depend on the kind of a branch that is not resolved yet. `Value.Settled` says when it does not:

* `choose_refinedBy_of_settled`: the result of a settled conditional is refined with its operands;
* `settled_iff`: of all other conditionals some refinement of the operands changes the result to one
  that it was not announced to be, or makes it fail no longer.

Two branches agree on a kind by their kinds alone (`ValueKind.join`), so what holds of the kind of
both branches is decided kind by kind.
-/

namespace ResourceTables

/-! ## The kind of both branches -/

namespace ValueKind

variable {a b k : ValueKind}

/-- Whether values of the kind become texts in a conditional with a text in its other branch. -/
def convertsToText : ValueKind → Bool
  | number | bool => true
  | _ => false

/-- The kind that branches of two kinds convert to. -/
def join (a b : ValueKind) : Option ValueKind :=
  if a = b then some a
  else if a = .dynamic then some b
  else if b = .dynamic then some a
  else if a.isPrimitive && b.isPrimitive && (a == .string || b == .string) then some .string
  else none

theorem join_comm (a b : ValueKind) : a.join b = b.join a := by
  cases a <;> cases b <;> rfl

@[simp]
theorem dynamic_join (b : ValueKind) : dynamic.join b = some b := by
  cases b <;> rfl

@[simp]
theorem join_dynamic (a : ValueKind) : a.join dynamic = some a := by
  cases a <;> rfl

/-- A number or a truth value becomes a text beside a text. -/
theorem join_string (ha : a.convertsToText) : a.join string = some string := by
  cases a <;> cases ha <;> rfl

/-- The kind of both branches is that of one. -/
theorem eq_or_eq_of_join (h : a.join b = some k) : a = k ∨ b = k := by
  cases a <;> cases b <;> cases h <;> decide

/-- When it is no text, the other branch is of it or of the dynamic kind. -/
theorem eq_of_join (h : a.join b = some k) (hk : k ≠ string) :
    (a = k ∧ (b = k ∨ b = dynamic)) ∨ (a = dynamic ∧ b = k) := by
  cases a <;> cases b <;> cases h <;> simp at hk ⊢

/-- Beside a number or a truth value it is a text only when the other branch is one. -/
theorem join_eq_string_iff (ha : a.convertsToText) (h : a.join b = some k) :
    k = string ↔ b = string := by
  cases a <;> cases ha <;> cases b <;> cases h <;> decide

/-- Nothing but texts and values of its own kind agrees with a number or a truth value. -/
theorem eq_of_join_of_convertsToText (ha : a.convertsToText) (h : a.join b = some k) :
    b = a ∨ b = string ∨ b = dynamic := by
  cases a <;> cases ha <;> cases b <;> cases h <;> decide

/-- A branch that is converted is a number or a truth value, a text already, or of no kind. -/
theorem convertsToText_of_join (h : a.join b = some string) (ha : a ≠ string)
    (hdynamic : a ≠ dynamic) : a.convertsToText := by
  cases a <;> cases b <;> cases h <;> simp at ha hdynamic <;> decide

theorem ne_string_of_convertsToText (ha : a.convertsToText) : a ≠ string := by
  rintro rfl
  cases ha

theorem ne_dynamic_of_convertsToText (ha : a.convertsToText) : a ≠ dynamic := by
  rintro rfl
  cases ha

end ValueKind

namespace Value

variable {v v' w w' yes yes' no no' : Value} {cond cond' : Option Bool} {k : ValueKind}

/-- The branch `v` is known to be of the kind of both branches, and `w` is not one that may turn out
to be of any kind. -/
def Anchors (k : ValueKind) (v w : Value) : Prop :=
  v.isKnown ∧ v.kind = k ∧ (w.isKnown ∨ w.kind ≠ .dynamic)

/-- Whether the branch `v` is converted to text when it is chosen does not depend on what the other
branch `w` turns out to be. -/
def ConversionKnown (v w : Value) : Prop :=
  v.kind.convertsToText → w.isKnown ∨ w.kind = v.kind ∨ v.isNull ∧ w.kind ≠ .string

/-- The result of a conditional, or that it fails, is certain as far as it is stated, whatever its
operands turn out to be. -/
def Settled (cond : Option Bool) (yes no : Value) : Prop :=
  match unify yes no, cond with
  | none, _ => yes.isKnown ∧ no.isKnown
  | some k, none => k = .dynamic ∨ Anchors k yes no ∨ Anchors k no yes
  | some _, some true => ConversionKnown yes no
  | some _, some false => ConversionKnown no yes

theorem unify_eq_join (yes no : Value) : unify yes no = yes.kind.join no.kind := rfl

/-- The kind of both branches depends on their kinds only. -/
theorem unify_congr (hyes : yes'.kind = yes.kind) (hno : no'.kind = no.kind) :
    unify yes' no' = unify yes no := by
  rw [unify_eq_join, unify_eq_join, hyes, hno]

theorem unify_comm (yes no : Value) : unify yes no = unify no yes :=
  ValueKind.join_comm _ _

theorem unify_of_kind_dynamic_left (h : yes.kind = .dynamic) : unify yes no = some no.kind := by
  rw [unify_eq_join, h, ValueKind.dynamic_join]

theorem unify_of_kind_dynamic_right (h : no.kind = .dynamic) : unify yes no = some yes.kind := by
  rw [unify_eq_join, h, ValueKind.join_dynamic]

/-! ## The kind of a refined value -/

/-- What is unknown may turn out to be null. -/
theorem refinedBy_null_of_unknown (h : v.isKnown = false) : v.RefinedBy (null .dynamic) := by
  obtain ⟨k, rfl⟩ := exists_eq_unknown h
  exact refinedBy_unknown.2 (.inr (.inr rfl))

/-- A refined value keeps its kind, unless it was of the dynamic kind or turns out to be null. -/
theorem kind_of_refinedBy (h : v.RefinedBy v') :
    v = unknown .dynamic ∨ v'.kind = v.kind ∨ v.isKnown = false ∧ v' = null .dynamic := by
  cases hv : v.isKnown with
  | true => exact .inr (.inl (kind_eq_of_refinedBy h hv))
  | false =>
    obtain ⟨k, rfl⟩ := exists_eq_unknown hv
    rcases refinedBy_unknown.1 h with rfl | hkind | rfl
    · exact .inl rfl
    · exact .inr (.inl hkind)
    · exact .inr (.inr ⟨rfl, rfl⟩)

/-- Values of two kinds do not refine each other, where neither kind is the dynamic one. -/
theorem not_refinedBy_of_kind_ne (hv : v.kind ≠ .dynamic) (hw : w.kind ≠ .dynamic)
    (h : w.kind ≠ v.kind) : ¬v.RefinedBy w := by
  intro href
  rcases kind_of_refinedBy href with rfl | hkind | ⟨-, rfl⟩
  · exact hv rfl
  · exact h hkind
  · exact hw rfl

/-! ## The chosen branch -/

theorem convertBranch_of_ne (h : k ≠ .string) (v : Value) (o : Origin) :
    convertBranch k v o = .ok v := by
  simp [convertBranch, h]

/-- A branch of the kind of both branches is taken as it is. -/
theorem convertBranch_self (h : v.kind = k) (o : Origin) : convertBranch k v o = .ok v := by
  rw [convertBranch, if_neg]
  rw [h]
  exact fun h => h.2.1 h.1

theorem convertBranch_of_kind_dynamic (k : ValueKind) (h : v.kind = .dynamic) (o : Origin) :
    convertBranch k v o = .ok v := by
  simp [convertBranch, h]

/-- A branch that is neither a number nor a truth value is taken as it is. -/
theorem convertBranch_of_not_converts (hk : unify v w = some k) (h : ¬v.kind.convertsToText)
    (o : Origin) : convertBranch k v o = .ok v := by
  rw [convertBranch, if_neg]
  rintro ⟨rfl, hstring, hdynamic⟩
  exact h (ValueKind.convertsToText_of_join hk hstring hdynamic)

/-- A branch that a text stands beside becomes a text, or is no value of a kind. -/
theorem kind_of_convertBranch_string {r : Value} {o : Origin}
    (h : convertBranch .string v o = .ok r) :
    r.kind = .string ∨ r = v ∧ v.kind = .dynamic := by
  unfold convertBranch at h
  split at h
  · cases v <;> simp [toText, kind] at h <;> cases h <;> exact .inl rfl
  · cases h
    by_cases hv : v.kind = .dynamic
    · exact .inr ⟨rfl, hv⟩
    · exact .inl (by simp_all)

/-- An unknown branch stays unknown, perhaps of another kind. -/
theorem convertBranch_unknown (k l : ValueKind) (o : Origin) :
    ∃ l', convertBranch k (unknown l) o = .ok (unknown l') := by
  unfold convertBranch
  split
  · exact ⟨.string, rfl⟩
  · exact ⟨l, rfl⟩

/-- A null of a kind that becomes text is taken as it is beside all but texts, and refused beside
those. -/
theorem convertBranch_null (hl : k.convertsToText) (l : ValueKind) (o : Origin) :
    convertBranch l (null k) o =
      if l = .string then .error (.invalid o (.nullText .branch)) else .ok (null k) := by
  unfold convertBranch
  by_cases h : l = .string
  · cases k <;> simp_all [ValueKind.convertsToText, kind] <;> rfl
  · simp [h]

/-- All other branches of such a kind do become texts. -/
theorem exists_convertBranch_string (hv : v.kind.convertsToText) (hnull : v.isNull = false)
    (o : Origin) : ∃ r, convertBranch .string v o = .ok r ∧ r.kind = .string := by
  cases v with
  | unknown l => cases l <;> first | exact ⟨_, rfl, rfl⟩ | exact absurd hv (by decide)
  | null l => cases hnull
  | number d => exact ⟨_, rfl, rfl⟩
  | bool b => exact ⟨_, rfl, rfl⟩
  | string _ | tuple _ | object _ => exact absurd hv Bool.false_ne_true

/-- A branch is converted alike when it is refined to a value of its kind. -/
theorem convertBranch_refinedBy (hv : v.RefinedBy v') (hkind : v'.kind = v.kind) (k : ValueKind)
    (o : Origin) :
    Eval.RefinedBy RefinedBy (convertBranch k v o) (convertBranch k v' o) := by
  unfold convertBranch
  rw [hkind]
  split
  · refine .bind (toText_refinedBy hv o .branch) fun a b _ _ hab => ?_
    match a with
    | some a =>
      obtain ⟨_, rfl, rfl⟩ := whenKnown_some.1 hab
      exact .ok (refinedBy_refl _)
    | none =>
      match b with
      | some _ | none => exact .ok (refinedBy_of_kind rfl)
  · exact .ok hv

/-- The chosen branch is refined with both branches where its conversion is known. -/
theorem convertBranch_refinedBy_of_conversionKnown {k' : ValueKind} (hv : v.RefinedBy v')
    (hw : w.RefinedBy w') (h : ConversionKnown v w) (hk : unify v w = some k)
    (hk' : unify v' w' = some k') (o : Origin) :
    Eval.RefinedBy RefinedBy (convertBranch k v o) (convertBranch k' v' o) := by
  -- The branch was dynamic, or it keeps its kind, or it turns out to be null.
  rcases kind_of_refinedBy hv with rfl | hkind | ⟨hunknown, rfl⟩
  · rw [convertBranch_of_kind_dynamic k rfl]
    exact .ok_left refinedBy_unknown_dynamic
  · by_cases hconv : v.kind.convertsToText
    · -- The kind of both branches stays the same where that of the other branch does.
      have hsame : w'.kind = w.kind →
          Eval.RefinedBy RefinedBy (convertBranch k v o) (convertBranch k' v' o) := by
        intro hw'
        rw [unify_congr hkind hw', hk] at hk'
        cases hk'
        exact convertBranch_refinedBy hv hkind k o
      rcases h hconv with hknown | hww | ⟨hnull, hstring⟩
      · exact hsame (kind_eq_of_refinedBy hw hknown)
      · rcases kind_of_refinedBy hw with rfl | hw' | ⟨-, rfl⟩
        · exact absurd hww.symm (ValueKind.ne_dynamic_of_convertsToText hconv)
        · exact hsame hw'
        · have hne := ValueKind.ne_string_of_convertsToText hconv
          have hk_ne : k ≠ .string := by
            rw [Ne, ValueKind.join_eq_string_iff hconv hk, hww]
            exact hne
          have hk'_ne : k' ≠ .string := by
            rw [unify_of_kind_dynamic_right rfl, hkind, Option.some_inj] at hk'
            rwa [← hk']
          rw [convertBranch_of_ne hk_ne, convertBranch_of_ne hk'_ne]
          exact .ok hv
      · obtain ⟨l, rfl⟩ := exists_eq_null hnull
        obtain rfl : v' = null l := by simpa using hv
        rw [convertBranch_of_ne (by rwa [Ne, ValueKind.join_eq_string_iff hconv hk]),
          convertBranch_null (k := l) hconv]
        split
        · exact .error
        · exact .ok (refinedBy_refl _)
    · rw [convertBranch_of_not_converts hk hconv,
        convertBranch_of_not_converts hk' (by rwa [hkind])]
      exact .ok hv
  · obtain ⟨l, rfl⟩ := exists_eq_unknown hunknown
    obtain ⟨l', hl'⟩ := convertBranch_unknown k l o
    rw [hl', convertBranch_of_kind_dynamic k' rfl]
    exact .ok (refinedBy_unknown.2 (.inr (.inr rfl)))

/-- Where the branch `v` is known to be of the kind of both branches, it stays the kind of both, and
either branch is of that kind or null when it is chosen. -/
theorem refinedBy_of_anchors (h : Anchors k v w) (hk : unify v w = some k) (hv : v.RefinedBy v')
    (hw : w.RefinedBy w') :
    unify v' w' = some k ∧
      (∀ o r, convertBranch k v' o = .ok r → (unknown k).RefinedBy r) ∧
      (∀ o r, convertBranch k w' o = .ok r → (unknown k).RefinedBy r) := by
  obtain ⟨hknown, hkind, hother⟩ := h
  have hv' : v'.kind = k := (kind_eq_of_refinedBy hv hknown).trans hkind
  -- The other branch keeps its kind or turns out to be null, which goes with every kind.
  have hw' : w'.kind = w.kind ∨ w' = null .dynamic := by
    rcases kind_of_refinedBy hw with rfl | hw' | ⟨-, hw'⟩
    · simp [isKnown, kind] at hother
    · exact .inl hw'
    · exact .inr hw'
  refine ⟨?_, fun o r hr => ?_, fun o r hr => ?_⟩
  · rcases hw' with hw' | rfl
    · rw [unify_congr (hv'.trans hkind.symm) hw', hk]
    · rw [unify_of_kind_dynamic_right rfl, hv']
  · rw [convertBranch_self hv'] at hr
    cases hr
    exact refinedBy_of_kind hv'
  · -- A branch of the dynamic kind that is known is null.
    have hnull : w'.kind = .dynamic → w' = null .dynamic := by
      intro hdynamic
      rcases hw' with hw' | hw'
      · rcases hother with hother | hother
        · exact eq_null_of_kind_dynamic (isKnown_of_refinedBy hw hother) hdynamic
        · exact absurd (hw'.symm.trans hdynamic) hother
      · exact hw'
    by_cases hstring : k = .string
    · subst hstring
      rcases kind_of_convertBranch_string hr with hr' | ⟨rfl, hdynamic⟩
      · exact refinedBy_of_kind hr'
      · exact refinedBy_unknown.2 (.inr (.inr (hnull hdynamic)))
    · rw [convertBranch_of_ne hstring] at hr
      cases hr
      rcases hw' with hw' | rfl
      · rcases ValueKind.eq_of_join hk hstring with ⟨-, h | h⟩ | ⟨-, h⟩
        · exact refinedBy_of_kind (hw'.trans h)
        · exact refinedBy_unknown.2 (.inr (.inr (hnull (hw'.trans h))))
        · exact refinedBy_of_kind (hw'.trans h)
      · exact refinedBy_unknown.2 (.inr (.inr rfl))

/-! ## Settled conditionals -/

section Settled

variable (yesOrigin noOrigin o : Origin)

/-- A conditional that is refused stays refused when both branches are known. -/
theorem choose_of_unify_none (h : unify yes no = none) :
    choose cond yes no yesOrigin noOrigin o = .error (.invalid o (.branches yes.kind no.kind)) := by
  simp [choose, h]

theorem choose_of_unify_some (h : unify yes no = some k) :
    choose cond yes no yesOrigin noOrigin o =
      match cond with
      | none => .ok (.unknown k)
      | some true => convertBranch k yes yesOrigin
      | some false => convertBranch k no noOrigin := by
  cases cond with
  | none => simp [choose, h]
  | some c => cases c <;> simp [choose, h]

/-- Where a branch anchors the announced kind, whatever is chosen is of it, or null. -/
theorem refinedBy_announced (h : k = .dynamic ∨ Anchors k yes no ∨ Anchors k no yes)
    (hk : unify yes no = some k) (hyes : yes.RefinedBy yes') (hno : no.RefinedBy no') :
    Eval.RefinedBy RefinedBy (.ok (unknown k)) (choose cond' yes' no' yesOrigin noOrigin o) := by
  -- Either branch can be the one that anchors the kind.
  have hbranches : k = .dynamic ∨ unify yes' no' = some k ∧
      (∀ o r, convertBranch k yes' o = .ok r → (unknown k).RefinedBy r) ∧
      (∀ o r, convertBranch k no' o = .ok r → (unknown k).RefinedBy r) := by
    rcases h with hdynamic | hanchors | hanchors
    · exact .inl hdynamic
    · exact .inr (refinedBy_of_anchors hanchors hk hyes hno)
    · rw [unify_comm] at hk ⊢
      obtain ⟨hk'', hno', hyes'⟩ := refinedBy_of_anchors hanchors hk hno hyes
      exact .inr ⟨hk'', hyes', hno'⟩
  rcases hbranches with rfl | ⟨hk', hyes', hno'⟩
  · exact .ok_left refinedBy_unknown_dynamic
  · rw [choose_of_unify_some _ _ _ hk']
    refine ⟨fun _ h => (nomatch h), fun a b ha hb => ?_⟩
    cases ha
    match cond' with
    | none =>
      cases hb
      exact refinedBy_refl _
    | some true => exact hyes' _ b hb
    | some false => exact hno' _ b hb

/-- The result of a settled conditional is refined with its operands. -/
theorem choose_refinedBy_of_settled (h : Settled cond yes no) (hcond : WhenKnown Eq cond cond')
    (hyes : yes.RefinedBy yes') (hno : no.RefinedBy no') :
    Eval.RefinedBy RefinedBy (choose cond yes no yesOrigin noOrigin o)
      (choose cond' yes' no' yesOrigin noOrigin o) := by
  cases hk' : unify yes' no' with
  | none =>
    rw [choose_of_unify_none yesOrigin noOrigin o hk']
    exact .error
  | some k' =>
    cases hk : unify yes no with
    | none =>
      -- Known branches keep their kinds, which have none in common.
      simp only [Settled, hk] at h
      rw [unify_congr (kind_eq_of_refinedBy hyes h.1) (kind_eq_of_refinedBy hno h.2), hk] at hk'
      cases hk'
    | some k =>
      simp only [Settled, hk] at h
      rw [choose_of_unify_some _ _ _ hk]
      match cond with
      | none => exact refinedBy_announced yesOrigin noOrigin o h hk hyes hno
      | some true =>
        obtain ⟨_, rfl, rfl⟩ := whenKnown_some.1 hcond
        rw [choose_of_unify_some _ _ _ hk']
        exact convertBranch_refinedBy_of_conversionKnown hyes hno h hk hk' yesOrigin
      | some false =>
        obtain ⟨_, rfl, rfl⟩ := whenKnown_some.1 hcond
        rw [choose_of_unify_some _ _ _ hk']
        rw [unify_comm] at hk hk'
        exact convertBranch_refinedBy_of_conversionKnown hno hyes h hk hk' noOrigin

/-- A conditional with a null of no kind in a branch never fails. -/
theorem choose_null_left (cond : Option Bool) (no : Value) :
    ∃ r, choose cond (null .dynamic) no yesOrigin noOrigin o = .ok r := by
  rw [choose_of_unify_some _ _ _ (unify_of_kind_dynamic_left rfl)]
  match cond with
  | none => exact ⟨_, rfl⟩
  | some true => exact ⟨_, convertBranch_of_kind_dynamic _ rfl _⟩
  | some false => exact ⟨no, convertBranch_self rfl _⟩

theorem choose_null_right (cond : Option Bool) (yes : Value) :
    ∃ r, choose cond yes (null .dynamic) yesOrigin noOrigin o = .ok r := by
  rw [choose_of_unify_some _ _ _ (unify_of_kind_dynamic_right rfl)]
  match cond with
  | none => exact ⟨_, rfl⟩
  | some true => exact ⟨yes, convertBranch_self rfl _⟩
  | some false => exact ⟨_, convertBranch_of_kind_dynamic _ rfl _⟩

/-! ## Conditionals that are not settled -/

/-- A text beside the branch `v` may turn out to be null, and then nothing is converted any more. -/
theorem not_refinedBy_beside_null (hconv : v.kind.convertsToText) (p : Origin) :
    ¬Eval.RefinedBy RefinedBy (convertBranch .string v p) (convertBranch v.kind v p) := by
  intro href
  have hself := convertBranch_self (v := v) rfl p
  cases hv : v.isNull with
  | true =>
    obtain ⟨l, rfl⟩ := exists_eq_null hv
    rw [convertBranch_null (k := l) hconv, if_pos rfl, hself] at href
    obtain ⟨err, herr⟩ := href.stays_error _ rfl
    cases herr
  | false =>
    obtain ⟨r, hr, hrkind⟩ := exists_convertBranch_string hconv hv p
    have hne := ValueKind.ne_string_of_convertsToText hconv
    refine not_refinedBy_of_kind_ne ?_ ?_ ?_ (href.rel r v hr hself)
    · rw [hrkind]
      decide
    · exact ValueKind.ne_dynamic_of_convertsToText hconv
    · rwa [hrkind]

/-- What stands beside the branch `v` may turn out to be a text, and then it is converted. -/
theorem not_refinedBy_beside_string (hconv : v.kind.convertsToText) (hnull : v.isNull = false)
    (hk : k ≠ .string) (p : Origin) :
    ¬Eval.RefinedBy RefinedBy (convertBranch k v p) (convertBranch .string v p) := by
  intro href
  obtain ⟨r, hr, hrkind⟩ := exists_convertBranch_string hconv hnull p
  have hne := ValueKind.ne_string_of_convertsToText hconv
  refine not_refinedBy_of_kind_ne ?_ ?_ ?_ (href.rel v r (convertBranch_of_ne hk v p) hr)
  · exact ValueKind.ne_dynamic_of_convertsToText hconv
  · rw [hrkind]
    decide
  · rw [hrkind]
    exact hne.symm

/-- Where the conversion of the branch `v` is not known, the other branch decides whether it is
converted. -/
theorem exists_refinement_of_not_conversionKnown (hk : unify v w = some k)
    (h : ¬ConversionKnown v w) (p : Origin) :
    ∃ w' k', w.RefinedBy w' ∧ unify v w' = some k' ∧
      ¬Eval.RefinedBy RefinedBy (convertBranch k v p) (convertBranch k' v p) := by
  simp only [ConversionKnown, not_forall, not_or, not_and, Bool.not_eq_true] at h
  obtain ⟨hconv, hunknown, hkind, hnull⟩ := h
  obtain ⟨l, rfl⟩ := exists_eq_unknown hunknown
  have hstring_iff := ValueKind.join_eq_string_iff hconv hk
  -- The other branch was a text and turns out to be null, or it was dynamic and turns out to be a
  -- text.
  rcases ValueKind.eq_of_join_of_convertsToText hconv hk with hsame | hstring | hdynamic
  · exact absurd hsame hkind
  · obtain rfl := hstring_iff.2 hstring
    exact ⟨null .dynamic, v.kind, refinedBy_null_of_unknown rfl,
      unify_of_kind_dynamic_right rfl, not_refinedBy_beside_null hconv p⟩
  · obtain rfl : l = .dynamic := hdynamic
    have hk_ne : k ≠ .string := fun hstring => nomatch hstring_iff.1 hstring
    have hv_null : v.isNull = false := by
      by_contra hv
      rw [Bool.not_eq_false] at hv
      exact hnull hv (by decide)
    exact ⟨string "", .string, refinedBy_unknown_dynamic _, ValueKind.join_string hconv,
      not_refinedBy_beside_string hconv hv_null hk_ne p⟩

/-- The result of the conditional is refined with its operands, whatever they turn out to be. -/
def AlwaysRefined (cond : Option Bool) (yes no : Value) : Prop :=
  ∀ cond' yes' no', WhenKnown Eq cond cond' → yes.RefinedBy yes' → no.RefinedBy no' →
    Eval.RefinedBy RefinedBy (choose cond yes no yesOrigin noOrigin o)
      (choose cond' yes' no' yesOrigin noOrigin o)

/-- A refused conditional that stays refused has known branches, as a null would be accepted. -/
theorem isKnown_of_alwaysRefined (hk : unify yes no = none)
    (h : AlwaysRefined yesOrigin noOrigin o cond yes no) : yes.isKnown ∧ no.isKnown := by
  have hcond : WhenKnown Eq cond cond := whenKnown_refl (fun _ => rfl) cond
  have herr : choose cond yes no yesOrigin noOrigin o =
      .error (.invalid o (.branches yes.kind no.kind)) := choose_of_unify_none _ _ _ hk
  constructor <;> by_contra hunknown <;> rw [Bool.not_eq_true] at hunknown
  · obtain ⟨r, hr⟩ := choose_null_left yesOrigin noOrigin o cond no
    obtain ⟨err, herr'⟩ := (h cond _ no hcond (refinedBy_null_of_unknown hunknown)
      (refinedBy_refl no)).stays_error _ herr
    cases hr.symm.trans herr'
  · obtain ⟨r, hr⟩ := choose_null_right yesOrigin noOrigin o cond yes
    obtain ⟨err, herr'⟩ := (h cond yes _ hcond (refinedBy_refl yes)
      (refinedBy_null_of_unknown hunknown)).stays_error _ herr
    cases hr.symm.trans herr'

/-- An announced kind holds of no branch that may turn out to be of any kind. -/
theorem isKnown_or_kind_ne_of_refinedBy (hk : k ≠ .dynamic)
    (h : v.kind = .dynamic → (unknown k).RefinedBy v) : v.isKnown ∨ v.kind ≠ .dynamic := by
  by_cases hv : v.kind = .dynamic
  · rcases refinedBy_unknown.1 (h hv) with hdynamic | hkind | rfl
    · exact absurd hdynamic hk
    · exact absurd (hkind.symm.trans hv) hk
    · exact .inl rfl
  · exact .inr hv

/-- Where the condition is not known, one branch is known to be of the kind that is announced. -/
theorem anchors_of_alwaysRefined (hk : unify yes no = some k) (hdynamic : k ≠ .dynamic)
    (h : AlwaysRefined yesOrigin noOrigin o none yes no) :
    Anchors k yes no ∨ Anchors k no yes := by
  -- Every refinement gives an unknown of the same kind, as long as the condition is unknown.
  have hsame : ∀ yes' no' k', yes.RefinedBy yes' → no.RefinedBy no' →
      unify yes' no' = some k' → k' = k := by
    intro yes' no' k' hyes' hno' hk'
    have hrel := h none yes' no' whenKnown_none hyes' hno'
    rw [choose_of_unify_some _ _ _ hk, choose_of_unify_some _ _ _ hk'] at hrel
    simpa [refinedBy_unknown, kind, hdynamic] using hrel.rel _ _ rfl rfl
  have hyes_any : yes.isKnown ∨ yes.kind ≠ .dynamic := by
    refine isKnown_or_kind_ne_of_refinedBy hdynamic fun hkind => ?_
    have hrel := h (some true) yes no whenKnown_none (refinedBy_refl yes) (refinedBy_refl no)
    rw [choose_of_unify_some _ _ _ hk, choose_of_unify_some _ _ _ hk] at hrel
    exact hrel.rel _ _ rfl (convertBranch_of_kind_dynamic k hkind yesOrigin)
  have hno_any : no.isKnown ∨ no.kind ≠ .dynamic := by
    refine isKnown_or_kind_ne_of_refinedBy hdynamic fun hkind => ?_
    have hrel := h (some false) yes no whenKnown_none (refinedBy_refl yes) (refinedBy_refl no)
    rw [choose_of_unify_some _ _ _ hk, choose_of_unify_some _ _ _ hk] at hrel
    exact hrel.rel _ _ rfl (convertBranch_of_kind_dynamic k hkind noOrigin)
  cases hyes : yes.isKnown with
  | true =>
    cases hno : no.isKnown with
    | true =>
      rcases ValueKind.eq_or_eq_of_join hk with hkind | hkind
      · exact .inl ⟨hyes, hkind, hno_any⟩
      · exact .inr ⟨hno, hkind, hyes_any⟩
    | false =>
      have hkind := hsame yes (null .dynamic) _ (refinedBy_refl yes)
        (refinedBy_null_of_unknown hno) (unify_of_kind_dynamic_right rfl)
      exact .inl ⟨hyes, hkind, hno_any⟩
  | false =>
    have hyes_null := refinedBy_null_of_unknown hyes
    cases hno : no.isKnown with
    | true =>
      have hkind := hsame (null .dynamic) no _ hyes_null (refinedBy_refl no)
        (unify_of_kind_dynamic_left rfl)
      exact .inr ⟨hno, hkind, hyes_any⟩
    | false =>
      exact absurd (hsame (null .dynamic) (null .dynamic) .dynamic hyes_null
        (refinedBy_null_of_unknown hno) rfl).symm hdynamic

/-- A conditional is settled exactly if its result is refined with its operands, whatever they turn
out to be. -/
theorem settled_iff : Settled cond yes no ↔ AlwaysRefined yesOrigin noOrigin o cond yes no := by
  refine ⟨fun h cond' yes' no' => choose_refinedBy_of_settled _ _ _ h, fun h => ?_⟩
  have hcond : WhenKnown Eq cond cond := whenKnown_refl (fun _ => rfl) cond
  cases hk : unify yes no with
  | none =>
    simp only [Settled, hk]
    exact isKnown_of_alwaysRefined yesOrigin noOrigin o hk h
  | some k =>
    simp only [Settled, hk]
    match cond with
    | some true =>
      -- Then the branch that is not chosen can turn out to change the kind of the result.
      by_contra hnot
      obtain ⟨no', k', hno, hk', hbad⟩ := exists_refinement_of_not_conversionKnown hk hnot yesOrigin
      have hgood := h _ yes no' hcond (refinedBy_refl yes) hno
      rw [choose_of_unify_some _ _ _ hk, choose_of_unify_some _ _ _ hk'] at hgood
      exact hbad hgood
    | some false =>
      by_contra hnot
      rw [unify_comm] at hk
      obtain ⟨yes', k', hyes, hk', hbad⟩ :=
        exists_refinement_of_not_conversionKnown hk hnot noOrigin
      rw [unify_comm] at hk hk'
      have hgood := h _ yes' no hcond hyes (refinedBy_refl no)
      rw [choose_of_unify_some _ _ _ hk, choose_of_unify_some _ _ _ hk'] at hgood
      exact hbad hgood
    | none =>
      by_cases hdynamic : k = .dynamic
      · exact .inl hdynamic
      · exact .inr (anchors_of_alwaysRefined yesOrigin noOrigin o hk hdynamic h)

end Settled

end Value

end ResourceTables
