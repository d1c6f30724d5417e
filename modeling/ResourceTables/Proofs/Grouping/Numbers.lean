import ResourceTables.Proofs.Decimal.Results
import ResourceTables.Proofs.Grouping.Groups
import ResourceTables.Proofs.Refinement.Operations

/-!
# Numbers as keys

Where a number is the key of an object, or a part of a template, its text stands for it. The texts
of two results of arithmetic differ if and only if the numbers do, so that nothing is merged and
nothing is taken apart: what is found under a number is what was put under this number.

* `BinaryOp.isResult_apply`, `UnaryOp.isResult_apply`: the numbers that operators give are results;
* `Fields.atTexts`: entries of numbers and values under the texts of the numbers;
* `Fields.get?_ofList_atTexts`, `Fields.valuesOf_atTexts`: what is found under a number;
* `Loop.foldlM_addUnique`, `Loop.exists_foldlM_addUnique`: a loop without grouping fails if and only
  if two rounds have one key;
* `Decimal.text_exact`: the text of a result writes exactly this number, as a text, as a key of an
  object and as a key of a loop.
-/

namespace ResourceTables

/-! ## Results of operators -/

/-- A number that an operator gives is a result of arithmetic. -/
theorem BinaryOp.isResult_apply (op : BinaryOp) (v w : Value) (leftOrigin rightOrigin o : Origin) :
    Ensures (fun v => ∀ d, v = .number d → d.IsResult) (op.apply v w leftOrigin rightOrigin o) := by
  refine (op.ensures_makes v w _ _ o).mono fun made h => ?_
  cases h with
  | bool | unknown => exact nofun
  | number h =>
    rintro d ⟨⟩
    exact ensures_arithmetic Decimal.isResult_round op _ _ _ h

theorem UnaryOp.isResult_apply (op : UnaryOp) (v : Value) (o : Origin) :
    Ensures (fun v => ∀ d, v = .number d → d.IsResult) (op.apply v o) := by
  refine (op.ensures_makes v o).mono fun made h => ?_
  cases h with
  | bool | unknown => exact nofun
  | number h =>
    rintro d ⟨⟩
    exact Decimal.ensures_neg Decimal.isResult_round _ _ h

/-! ## Entries under the texts of numbers -/

namespace Fields

variable {entries : List (Decimal × α)} {b : Decimal}

/-- The entries, each under the text of its number. -/
def atTexts (entries : List (Decimal × α)) : List (String × α) :=
  entries.map fun (d, a) => (d.text, a)

theorem sorted_ofList (pairs : List (String × α)) : Sorted (ofList pairs) := by
  unfold ofList
  induction pairs using List.reverseRecOn with
  | nil => exact sorted_nil
  | append_singleton pairs p ih =>
    rw [List.foldl_append]
    exact ih.set p.1 p.2

/-- Under a number the last of the entries is found whose number is the same. -/
theorem get?_ofList_atTexts (h : ∀ e ∈ entries, e.1.IsResult) (hb : b.IsResult) :
    get? b.text (ofList (atTexts entries)) =
      (entries.reverse.find? fun e => decide (e.1.Alike b)).map Prod.snd := by
  induction entries using List.reverseRecOn with
  | nil => rfl
  | append_singleton entries e ih =>
    obtain ⟨d, a⟩ := e
    have hd : d.IsResult := h (d, a) (by simp)
    have hset : ofList (atTexts (entries ++ [(d, a)])) =
        set d.text a (ofList (atTexts entries)) := by
      simp [ofList, atTexts, List.foldl_append]
    rw [hset, set, (sorted_ofList _).get?_alter, List.reverse_append, List.reverse_singleton,
      List.singleton_append, List.find?_cons, ih fun e he => h e (by simp [he])]
    by_cases halike : d.Alike b
    · rw [if_pos ((hd.text_eq_iff hb).2 halike).symm]
      simp [halike]
    · rw [if_neg fun htext => halike ((hd.text_eq_iff hb).1 htext.symm)]
      simp [halike]

/-- The values under a number are those of the entries whose number is the same. -/
theorem valuesOf_atTexts (h : ∀ e ∈ entries, e.1.IsResult) (hb : b.IsResult) :
    valuesOf b.text (atTexts entries) =
      (entries.filter fun e => decide (e.1.Alike b)).map Prod.snd := by
  rw [valuesOf, atTexts, List.filter_map, List.map_map]
  refine congrArg (List.map Prod.snd) (List.filter_congr fun e he => ?_)
  exact decide_eq_decide.2 ((h e he).text_eq_iff hb)

/-- The texts of different numbers differ. -/
theorem nodup_atTexts_iff (h : ∀ e ∈ entries, e.1.IsResult) :
    ((atTexts entries).map Prod.fst).Nodup ↔ entries.Pairwise fun e f => ¬ e.1.Alike f.1 := by
  rw [atTexts, List.map_map, List.Nodup, List.pairwise_map]
  refine List.Pairwise.iff_of_mem fun {e f} he hf => not_congr ?_
  exact (h e he).text_eq_iff (h f hf)

end Fields

/-! ## Rounds of a loop -/

namespace Loop

variable {pairs : List (String × Value)} {made : Fields Value}

/-- Without grouping each pair is taken in if no name comes twice. -/
theorem foldlM_addUnique (o : Origin) (hnodup : (pairs.map Prod.fst).Nodup)
    (hmade : ∀ p ∈ pairs, ¬ (Fields.get? p.1 made).isSome) :
    pairs.foldlM (fun made p => addUnique o p.1 p.2 made) made =
      .ok (pairs.foldl (fun made p => Fields.set p.1 p.2 made) made) := by
  induction pairs generalizing made with
  | nil => rfl
  | cons p pairs ih =>
    rw [List.map_cons, List.nodup_cons] at hnodup
    rw [List.foldlM_cons, addUnique, if_neg (hmade p (by simp))]
    refine ih hnodup.2 fun q hq => ?_
    rw [Fields.set, Fields.isSome_get?_alter, not_or]
    refine ⟨fun heq => hnodup.1 ?_, hmade q (by simp [hq])⟩
    exact heq ▸ List.mem_map_of_mem hq

/-- Without grouping the loop fails at a name that comes twice. -/
theorem exists_foldlM_addUnique (o : Origin)
    (h : ¬ (pairs.map Prod.fst).Nodup ∨ ∃ p ∈ pairs, (Fields.get? p.1 made).isSome) :
    ∃ name, pairs.foldlM (fun made p => addUnique o p.1 p.2 made) made =
      .error (.invalid o (.duplicateKey name)) := by
  induction pairs generalizing made with
  | nil => simp at h
  | cons p pairs ih =>
    rw [List.foldlM_cons, addUnique]
    split
    · exact ⟨p.1, rfl⟩
    · next hnew =>
      refine ih ?_
      rw [List.map_cons, List.nodup_cons, not_and_or, not_not] at h
      rcases h with (hmem | hnodup) | ⟨q, hq, hsome⟩
      · -- The name comes again, and it has been taken in by then.
        obtain ⟨q, hq, heq⟩ := List.mem_map.1 hmem
        exact .inr ⟨q, hq, (Fields.isSome_get?_alter ..).2 (.inl heq)⟩
      · exact .inl hnodup
      · rcases List.mem_cons.1 hq with rfl | hq
        · exact absurd hsome hnew
        · exact .inr ⟨q, hq, (Fields.isSome_get?_alter ..).2 (.inr hsome)⟩

/-- Grouping never fails. -/
theorem exists_foldlM_addGrouped (pairs : List (String × Value)) (groups : Fields (List Value)) :
    ∃ made, pairs.foldlM (fun made p => addGrouped p.1 p.2 made) groups = .ok made := by
  induction pairs generalizing groups with
  | nil => exact ⟨groups, rfl⟩
  | cons p pairs ih => exact ih _

/-- A name is not found in the groups if it has no values. -/
theorem Groups.get?_eq {groups : Fields (List Value)} (h : Groups pairs groups) (name : String) :
    Fields.get? name groups =
      if Fields.valuesOf name pairs = [] then none else some (Fields.valuesOf name pairs) := by
  split
  · next hnil =>
    rw [Option.eq_none_iff_forall_ne_some]
    intro vs hvs
    obtain ⟨rfl, hne⟩ := (h.mem_iff name vs).1 (h.sorted.get?_eq_some_iff.1 hvs)
    exact hne hnil
  · next hne => exact h.sorted.get?_eq_some_iff.2 ((h.mem_iff name _).2 ⟨rfl, hne⟩)

end Loop

/-! ## Items of an object -/

/-- The key of the item is a number and its value evaluates. A bare name as a key is no number, but
stands for itself. -/
inductive ObjectItem.HasNumber (s : Scope) : ObjectItem → Decimal × Value → Prop
  | mk {key value : Expr} {d : Decimal} {v : Value} (hkey : ∀ o name, key ≠ .variable o name)
      (hnumber : key.evaluate s = .ok (.number d)) (hvalue : value.evaluate s = .ok v) :
      HasNumber s (.mk key value) (d, v)

/-- Items with numbers as keys make the fields of the texts of the numbers. -/
theorem ObjectItem.evaluateAll_of_hasNumber {s : Scope} {items : List ObjectItem}
    {entries : List (Decimal × Value)} (h : List.Forall₂ (HasNumber s) items entries)
    (made : Fields Value) :
    evaluateAll s made items =
      .ok (some ((Fields.atTexts entries).foldl (fun made p => Fields.set p.1 p.2 made) made)) := by
  induction h generalizing made with
  | nil => rfl
  | cons hitem _ ih =>
    obtain ⟨hkey, hnumber, hvalue⟩ := hitem
    rw [evaluateAll_cons, Expr.keyText.eq_2 s _ hkey, hnumber]
    change (Expr.evaluate s _ >>= _) = _
    rw [hvalue]
    exact ih _

/-! ## Objects -/

/-- Under each result the fields hold the last of the entries whose number is the same. -/
def Fields.HoldLast (entries : List (Decimal × Value)) (fields : Fields Value) : Prop :=
  ∀ b : Decimal, b.IsResult → Fields.get? b.text fields =
    (entries.reverse.find? fun e => decide (e.1.Alike b)).map Prod.snd

/-- Under each result the fields hold a tuple of all entries whose number is the same, if any. -/
def Fields.HoldAll (entries : List (Decimal × Value)) (fields : Fields Value) : Prop :=
  ∀ b : Decimal, b.IsResult → Fields.get? b.text fields =
    match (entries.filter fun e => decide (e.1.Alike b)).map Prod.snd with
    | [] => none
    | vs => some (.tuple vs)

section Objects

variable {s : Scope} {entries : List (Decimal × Value)}

/-- An object constructor keeps different numbers apart, and of one number it keeps the last. -/
theorem Expr.exists_evaluate_object {items : List ObjectItem} (o : Origin)
    (h : ∀ e ∈ entries, e.1.IsResult)
    (hitems : List.Forall₂ (ObjectItem.HasNumber s) items entries) :
    ∃ fields, (Expr.object o items).evaluate s = .ok (.object fields) ∧
      Fields.HoldLast entries fields := by
  refine ⟨_, ?_, fun b hb => Fields.get?_ofList_atTexts h hb⟩
  rw [Expr.evaluate, ObjectItem.evaluateAll_of_hasNumber hitems]
  rfl

variable {vars : LoopVars} {collection key value : Expr} {cond : Option Expr} {v : Value}
  {items : List (Value × Value)}

/-- A loop without grouping makes an object if no number comes twice, and fails if one does. -/
theorem Expr.evaluate_unique_of_numbers (o : Origin) (h : ∀ e ∈ entries, e.1.IsResult)
    (hv : collection.evaluate s = .ok v)
    (helements : v.elements collection.origin = .ok (some items))
    (hyields : Loop.Yields (fun item => Expr.holds (Loop.bind vars s item) cond)
      (fun item => value.evaluate (Loop.bind vars s item)) (Loop.keyText s vars key) items
      (Fields.atTexts entries)) :
    let loop := Expr.forObject o vars collection key value cond false
    ((entries.Pairwise fun e f => ¬ e.1.Alike f.1) →
      ∃ fields, loop.evaluate s = .ok (.object fields) ∧ Fields.HoldLast entries fields) ∧
    ((¬ entries.Pairwise fun e f => ¬ e.1.Alike f.1) →
      ∃ name, loop.evaluate s = .error (.invalid o (.duplicateKey name))) := by
  have hnodup := Fields.nodup_atTexts_iff h
  dsimp only
  rw [evaluate_unique_of_yields o hv helements hyields, ← hnodup]
  refine ⟨fun hdistinct => ?_, fun hrepeated => ?_⟩
  · rw [Loop.foldlM_addUnique o hdistinct (by simp [Fields.get?])]
    exact ⟨_, rfl, fun b hb => Fields.get?_ofList_atTexts h hb⟩
  · -- No name is taken when the loop begins, so it is one of its own that comes twice.
    have hclash : ¬ ((Fields.atTexts entries).map Prod.fst).Nodup ∨
        ∃ p ∈ Fields.atTexts entries, (Fields.get? p.1 ([] : Fields Value)).isSome :=
      .inl hrepeated
    obtain ⟨name, hname⟩ := Loop.exists_foldlM_addUnique o hclash
    exact ⟨name, by rw [hname]; rfl⟩

/-- A loop with grouping collects the values of one number, and of no other. -/
theorem Expr.exists_evaluate_grouping (o : Origin) (h : ∀ e ∈ entries, e.1.IsResult)
    (hv : collection.evaluate s = .ok v)
    (helements : v.elements collection.origin = .ok (some items))
    (hyields : Loop.Yields (fun item => Expr.holds (Loop.bind vars s item) cond)
      (fun item => value.evaluate (Loop.bind vars s item)) (Loop.keyText s vars key) items
      (Fields.atTexts entries)) :
    ∃ fields, (Expr.forObject o vars collection key value cond true).evaluate s =
      .ok (.object fields) ∧ Fields.HoldAll entries fields := by
  obtain ⟨groups, hgroups⟩ := Loop.exists_foldlM_addGrouped (Fields.atTexts entries) []
  rw [evaluate_grouping_of_yields o hv helements hyields, hgroups]
  refine ⟨_, rfl, fun b hb => ?_⟩
  have hget := (Loop.ensures_groups _ groups hgroups).get?_eq b.text
  -- The texts of two results are equal exactly if the numbers are.
  rw [Fields.valuesOf_atTexts h hb] at hget
  rw [Fields.get?_map, hget]
  split
  · next hnil => rw [hnil]; rfl
  · next hne =>
    obtain ⟨v, vs, hvs⟩ := List.exists_cons_of_ne_nil hne
    rw [hvs]
    rfl

end Objects

/-! ## Texts of numbers -/

/-- Every number that arithmetic gives survives as a text. -/
theorem Decimal.text_exact :
    -- What the operators give is within the limits of a result.
    (∀ (op : BinaryOp) v w leftOrigin rightOrigin o d,
      op.apply v w leftOrigin rightOrigin o = .ok (.number d) → d.IsResult) ∧
    (∀ (op : UnaryOp) v o d, op.apply v o = .ok (.number d) → d.IsResult) ∧
    -- The text of a result is plain notation, which is converted to the same number.
    (∀ d : Decimal, d.IsResult → ∃ d', SpellsPlain d.text.toList d' ∧
      d'.sameAs d = true ∧ d'.negative = d.negative ∧
      ∀ o role, (Value.string d.text).toNumber o role = .ok (some d')) ∧
    -- Two results have one text if they are the same number, where the zeros are told apart.
    (∀ a b : Decimal, a.IsResult → b.IsResult → (a.text = b.text ↔ a.Alike b) ∧
      (a.isZero = false → (a.text = b.text ↔ a.sameAs b = true))) ∧
    -- A number in a template, and as the key of a round, becomes its text.
    (∀ e s d, e.evaluate s = .ok (.number d) → (Part.interp e).render s = .ok (some d.text)) ∧
    (∀ key vars s item d, key.evaluate (Loop.bind vars s item) = .ok (.number d) →
      Loop.keyText s vars key item = .ok (some d.text)) ∧
    -- What is found in an object under a number was put there under the same number.
    (∀ s o items entries, (∀ e ∈ entries, e.1.IsResult) →
      List.Forall₂ (ObjectItem.HasNumber s) items entries →
      ∃ fields, (Expr.object o items).evaluate s = .ok (.object fields) ∧
        Fields.HoldLast entries fields) ∧
    ∀ s o vars collection key value cond v items entries, (∀ e ∈ entries, e.1.IsResult) →
      collection.evaluate s = .ok v → v.elements collection.origin = .ok (some items) →
      Loop.Yields (fun item => Expr.holds (Loop.bind vars s item) cond)
        (fun item => value.evaluate (Loop.bind vars s item)) (Loop.keyText s vars key) items
        (Fields.atTexts entries) →
      let loop := Expr.forObject o vars collection key value cond
      ((entries.Pairwise fun e f => ¬ e.1.Alike f.1) →
        ∃ fields, (loop false).evaluate s = .ok (.object fields) ∧
          Fields.HoldLast entries fields) ∧
      ((¬ entries.Pairwise fun e f => ¬ e.1.Alike f.1) →
        ∃ name, (loop false).evaluate s = .error (.invalid o (.duplicateKey name))) ∧
      ∃ fields, (loop true).evaluate s = .ok (.object fields) ∧ Fields.HoldAll entries fields := by
  refine ⟨fun op v w leftOrigin rightOrigin o d h => op.isResult_apply v w _ _ _ _ h d rfl,
    fun op v o d h => op.isResult_apply v o _ h d rfl, fun d h => ?_, fun a b ha hb => ?_,
    fun e s d he => ?_, fun key vars s item d hkey => ?_,
    fun s o items entries h hitems => Expr.exists_evaluate_object o h hitems,
    fun s o vars collection key value cond v items entries h hv helements hyields => ?_⟩
  · obtain ⟨d', hplain, hsign, hmagnitude, hlimits⟩ := h.exists_spellsPlain_text
    have hsame : d'.sameAs d = true := (alike_iff.2 ⟨hsign, hmagnitude⟩).1
    exact ⟨d', hplain, hsame, hsign, Value.toNumber_text hplain hlimits⟩
  · have htext := ha.text_eq_iff hb
    exact ⟨htext, fun hzero => htext.trans (alike_iff_sameAs hzero)⟩
  · rw [Part.render, he]
    rfl
  · rw [Loop.keyText, hkey]
    rfl
  · obtain ⟨hdistinct, hrepeated⟩ := Expr.evaluate_unique_of_numbers o h hv helements hyields
    exact ⟨hdistinct, hrepeated, Expr.exists_evaluate_grouping o h hv helements hyields⟩

/-- `{(0.50) = true, (0.5) = false}` has one field, which is found under `"0.5"`. -/
theorem Decimal.text_exact_halves :
    let a : Decimal := ⟨false, 50, -2⟩
    let b : Decimal := ⟨false, 5, -1⟩
    let items := [ObjectItem.mk (.literal default (.number a)) (.literal default (.bool true)),
      .mk (.literal default (.number b)) (.literal default (.bool false))]
    a.IsResult ∧ b.IsResult ∧ a.text = b.text ∧
      ∃ fields, (Expr.object default items).evaluate .empty = .ok (.object fields) ∧
        Fields.get? b.text fields = some (.bool false) := by
  intro a b items
  have ha : a.IsResult := by decide +kernel
  have hb : b.IsResult := by decide +kernel
  obtain ⟨-, -, -, hsame, -, -, hobject, -⟩ := text_exact
  obtain ⟨fields, hfields, hlast⟩ := hobject .empty default items
    [(a, .bool true), (b, .bool false)] (by simp [ha, hb])
    (.cons (.mk nofun rfl rfl) (.cons (.mk nofun rfl rfl) .nil))
  -- The last of two entries under one number is what is found.
  have hequal : a.sameAs b = true := by decide +kernel
  have halike : b.Alike b := by decide +kernel
  refine ⟨ha, hb, ((hsame a b ha hb).2 rfl).2 hequal, fields, hfields, ?_⟩
  rw [hlast b hb]
  simp [halike]

end ResourceTables
