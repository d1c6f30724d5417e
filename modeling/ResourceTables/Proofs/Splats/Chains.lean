import ResourceTables.Proofs.Layout.Evaluation
import ResourceTables.Proofs.Sources.Stacks
import ResourceTables.Proofs.Writing.Atoms

/-!
# Chains of steps

A splat runs its steps over the elements of its target. A loop does the same with expressions that
take the steps one after the other. What the steps that are written behind an operand become are
either such expressions, one around the other, or steps of the splat that they are written behind.

* `Expr.FollowedBy`: an expression with steps behind it, each an expression of its own;
* `Expr.FollowedBy.agree_evaluate`: it takes the steps from the value of the first expression;
* `Expr.agree_splat_forTuple`: over a tuple a splat is a loop that takes its steps;
* `Expr.evaluate_splat_single`, `Expr.evaluate_splat_null`: what a splat does with anything else;
* `Link`, `Operand.chain`: steps behind an operand;
* `Operand.expr_chain_splat`: behind a full splat all steps become part of it, and behind one that
  is written with a point the names do;
* `Operand.expr_chain`: any other steps are expressions of their own;
* `Link.Written`, `Reader.feeds_chain`: the tokens of the steps, and how they are read.
-/

namespace ResourceTables

/-- The second expression is the first with the steps behind it, wherever each is written. -/
inductive Expr.FollowedBy : Expr → List Step → Expr → Prop
  | nil {e} : FollowedBy e [] e
  | attr {o e name steps e'} (h : FollowedBy (.getAttr o e name) steps e') :
      FollowedBy e (.attr name :: steps) e'
  | index {o e key steps e'} (h : FollowedBy (.index o e key) steps e') :
      FollowedBy e (.index key :: steps) e'

section Steps

variable {s : Scope}

/-- Elsewhere a step leads to the same value, or fails for the same cause. -/
theorem Step.agree_apply (step : Step) (o o' : Origin) (v : Value) :
    AgreeUpTo EvalError.cause? (step.apply s o v) (step.apply s o' v) := by
  cases step with
  | attr name => exact (v.moves_getAttr (fun _ => o) o' name).agree
  | index key => exact .bind .refl fun k => (v.moves_index (fun _ => o) o' k).agree

theorem Step.agree_applyAll (steps : List Step) (o o' : Origin) (v : Value) :
    AgreeUpTo EvalError.cause? (Step.applyAll s o steps v) (Step.applyAll s o' steps v) := by
  induction steps generalizing v with
  | nil =>
    rw [Step.applyAll, Step.applyAll]
    exact .refl
  | cons step steps ih =>
    rw [Step.applyAll, Step.applyAll]
    exact .bind (step.agree_apply o o' v) ih

/-- So do steps without places, in a scope in which the names that they read stand for the same. -/
theorem Step.agree_applyAll_unplaced (steps : List Step) {s' : Scope} (o : Origin) (v : Value)
    (h : ∀ name ∈ Step.allFreeNames steps, s' name = s name) :
    AgreeUpTo EvalError.cause? (Step.applyAll s' o.unplaced (Step.allUnplaced steps) v)
      (Step.applyAll s o steps v) := by
  rw [← Step.renameAll_unplaced]
  exact (Step.moves_applyAll Origin.unplaced steps (.of_id h) o v).agree

/-- An expression with steps behind it takes them from the value of the expression. -/
theorem Expr.FollowedBy.agree_evaluate {e e' : Expr} {steps : List Step}
    (h : e.FollowedBy steps e') (s : Scope) (o : Origin) :
    AgreeUpTo EvalError.cause? (e'.evaluate s)
      (e.evaluate s >>= fun v => Step.applyAll s o steps v) := by
  induction h with
  | @nil e =>
    simp only [Step.applyAll]
    cases e.evaluate s <;> exact .refl
  | @attr o' e name steps e' _ ih =>
    refine ih.trans ?_
    rw [Expr.evaluate, bind_assoc]
    refine .bind .refl fun v => ?_
    rw [Step.applyAll]
    exact .bind ((Step.attr name).agree_apply o' o v) fun _ => .refl
  | @index o' e key steps e' _ ih =>
    refine ih.trans ?_
    rw [Expr.evaluate, bind_assoc]
    refine .bind .refl fun v => ?_
    rw [Step.applyAll]
    exact .bind ((Step.index key).agree_apply o' o v) fun _ => .refl

end Steps

/-! ## Splats -/

/-- A loop without a condition has the values of all its rounds. -/
theorem Loop.values_eq_mapM (value : Value × Value → Eval Value) (items : List (Value × Value)) :
    Loop.values (fun _ => .ok (some true)) value items = (items.mapM value).map some := by
  induction items with
  | nil => rfl
  | cons item items ih =>
    rw [List.mapM_cons, Loop.values]
    change (value item >>= fun v => _) = _
    rw [ih]
    cases value item with
    | error e => rfl
    | ok v => cases items.mapM value <;> rfl

/-- What holds of an element and every round for it holds of a tuple and the rounds of a loop over
it. -/
theorem Loop.forall₂_rounds {R : Value → Value × Value → Prop} (elements : List Value)
    (h : ∀ p, R p.2 p) :
    List.Forall₂ R elements
      (elements.zipIdx.map fun (item, i) => (.number (.ofNat i), item)) := by
  rw [List.forall₂_map_right_iff]
  generalize 0 = n
  induction elements generalizing n with
  | nil => exact .nil
  | cons v elements ih => exact .cons (h (.number (.ofNat n), v)) (ih (n + 1))

namespace Expr

variable {target : Expr} {steps : List Step} {s : Scope}

/-- A splat over a tuple takes the steps from each element. -/
theorem evaluate_splat_tuple {elements : List Value} (o : Origin) (full : Bool)
    (h : target.evaluate s = .ok (.tuple elements)) :
    (splat o target steps full).evaluate s =
      (elements.mapM fun v => Step.applyAll s o steps v).map .tuple := by
  rw [evaluate, h]
  change ((elements.mapM fun v => Step.applyAll s o steps v) >>= _) = _
  cases elements.mapM fun v => Step.applyAll s o steps v <;> rfl

/-- Elsewhere and however it is spelled a splat has the same value, or fails for the same cause. -/
theorem agree_splat (o o' : Origin) (full full' : Bool) :
    AgreeUpTo EvalError.cause? ((splat o target steps full).evaluate s)
      ((splat o' target steps full').evaluate s) := by
  rw [evaluate, evaluate]
  refine .bind .refl fun v => ?_
  split
  · exact .bind (.mapM (List.forall₂_same.2 fun w _ => Step.agree_applyAll steps o o' w)) fun _ =>
      .refl
  · exact .refl

/-- The steps of a splat over a tuple are those that a loop takes from its variable. The two may be
written in different places. -/
theorem agree_splat_forTuple {target' value : Expr} {steps' : List Step} {name : String}
    {variableOrigin : Origin} {elements : List Value}
    (htarget : target'.unplaced = target.unplaced)
    (hsteps : Step.allUnplaced steps' = Step.allUnplaced steps)
    (hfree : name ∉ Step.allFreeNames steps)
    (hvalue : FollowedBy (.variable variableOrigin name) steps' value)
    (h : target.evaluate s = .ok (.tuple elements)) (o o' : Origin) (full : Bool) :
    AgreeUpTo EvalError.cause? ((splat o target steps full).evaluate s)
      ((forTuple o' ⟨none, name⟩ target' value none).evaluate s) := by
  have htarget' : target'.evaluate s = .ok (.tuple elements) := by
    rw [← (target'.agree_evaluate_unplaced s).eq_ok_iff, htarget,
      (target.agree_evaluate_unplaced s).eq_ok_iff]
    exact h
  -- In a round the variable stands for the element, and what the steps read for what it does
  -- outside.
  have hround : ∀ p : Value × Value, AgreeUpTo EvalError.cause? (Step.applyAll s o steps p.2)
      (value.evaluate (Loop.bind ⟨none, name⟩ s p)) := by
    intro p
    have hscope : ∀ n ∈ Step.allFreeNames steps, Loop.bind ⟨none, name⟩ s p n = s n := by
      rintro n hn
      have hne : n ≠ name := by
        rintro rfl
        exact hfree hn
      simp [Loop.bind_apply, hne]
    refine (Step.agree_applyAll_unplaced steps o p.2 hscope).symm.trans ?_
    rw [← hsteps]
    refine (Step.agree_applyAll_unplaced steps' o p.2 fun _ _ => rfl).trans ?_
    refine ((hvalue.agree_evaluate _ o).trans ?_).symm
    rw [Expr.evaluate, Loop.bind_apply]
    simp only [reduceCtorEq, if_true, if_false, Option.getD_some]
    exact .refl
  rw [evaluate_splat_tuple o full h, evaluate_forTuple, Expr.items, htarget']
  change AgreeUpTo _ _ (Loop.values (fun _ => .ok (some true)) _ _ >>= _)
  rw [Loop.values_eq_mapM]
  rcases (AgreeUpTo.mapM (Loop.forall₂_rounds elements hround)).cases with
    ⟨vs, hvs, hvs'⟩ | ⟨e, e', he, he', hcause⟩
  · rw [hvs, hvs']
    exact .refl
  · rw [he, he']
    exact .error hcause

/-- A splat over anything else that is known is one over the tuple of it alone. -/
theorem evaluate_splat_single {w : Value} (h : target.evaluate s = .ok w) (hknown : w.isKnown)
    (hnull : w.isNull = false) (hkind : w.kind ≠ .tuple) (o o' : Origin) (full : Bool) :
    (splat o target steps full).evaluate s =
      (splat o (.tuple o' [target]) steps full).evaluate s := by
  have htuple : (Expr.tuple o' [target]).evaluate s = .ok (.tuple [w]) := by
    rw [evaluate, evaluateAll, h]
    rfl
  have helements : w.splatElements = [w] := by
    cases w with
    | unknown k => cases hknown
    | null k => cases hnull
    | tuple items => exact absurd rfl hkind
    | _ => rfl
  rw [evaluate_splat_tuple o full htuple, evaluate, h]
  change (if w.isKnown then _ else _) = _
  rw [if_pos hknown, helements]
  cases [w].mapM fun v => Step.applyAll s o steps v <;> rfl

/-- A splat over null is empty. -/
theorem evaluate_splat_null {kind : ValueKind} (h : target.evaluate s = .ok (.null kind))
    (o : Origin) (full : Bool) : (splat o target steps full).evaluate s = .ok (.tuple []) := by
  rw [evaluate, h]
  rfl

end Expr

end ResourceTables

namespace ResourceTables.Native

/-! ## Steps behind an operand -/

/-- A step that is written behind an operand. -/
inductive Link where
  /-- `.name` -/
  | name (t : Token)
  /-- `.N` -/
  | digits (t : Token)
  /-- `[key]`, which ends before `stop`. -/
  | key (k : Operand) (stop : Nat)

namespace Link

/-- What the step says. -/
def step : Link → Draft Step
  | .name t => .ok (.attr t.text)
  | .digits t => (Operand.numberExpr t).map .index
  | .key k _ => k.expr.map .index

/-- Whether the step is a name. -/
def isName : Link → Bool
  | .name _ => true
  | _ => false

end Link

namespace Operand

/-- The operand with one more step behind it. -/
def link (x : Operand) : Link → Operand
  | .name t => x.getAttr t
  | .digits t => x.indexDigits t
  | .key k stop => x.index stop k.expr

/-- The operand with steps behind it. -/
def chain (x : Operand) (links : List Link) : Operand :=
  links.foldl link x

end Operand

/-- The steps that links say are those of the first and of the others. -/
theorem Link.mapM_step_cons {link : Link} {links : List Link} {steps : List Step}
    (h : (link :: links).mapM Link.step = .ok steps) :
    ∃ first rest, link.step = .ok first ∧ links.mapM Link.step = .ok rest ∧
      steps = first :: rest := by
  rw [List.mapM_cons] at h
  obtain ⟨first, hfirst, h⟩ := bind_eq_ok_iff.1 h
  obtain ⟨rest, hrest, h⟩ := bind_eq_ok_iff.1 h
  cases h
  exact ⟨first, rest, hfirst, hrest, rfl⟩

namespace Operand

variable {x : Operand} {e target : Expr} {o : Origin} {steps steps' : List Step} {full : Bool}
  {link : Link} {links : List Link} {step : Step}

/-- Behind a splat a name becomes a step of it, and behind a full one an index does too. -/
theorem expr_link_splat (hx : x.expr = .ok (.splat o target steps full))
    (hfolds : full = true ∨ link.isName = true) (hstep : link.step = .ok step) :
    ∃ o', (x.link link).expr = .ok (.splat o' target (steps ++ [step]) full) := by
  match link with
  | .name t =>
    cases hstep
    exact ⟨x.start.originTo t.stop, by rw [Operand.link, getAttr, hx]; rfl⟩
  | .digits t =>
    obtain ⟨k, hk, rfl⟩ := map_eq_ok_iff.1 hstep
    obtain rfl : full = true := hfolds.resolve_right nofun
    exact ⟨x.start.originTo t.stop, by rw [Operand.link, indexDigits, index, hx, hk]; rfl⟩
  | .key key stop =>
    obtain ⟨k, hk, rfl⟩ := map_eq_ok_iff.1 hstep
    obtain rfl : full = true := hfolds.resolve_right nofun
    exact ⟨x.start.originTo stop, by rw [Operand.link, index, hx, hk]; rfl⟩

/-- Steps behind a splat that are names, and any steps behind a full one, become part of it. -/
theorem expr_chain_splat (hx : x.expr = .ok (.splat o target steps full))
    (hfolds : ∀ link ∈ links, full = true ∨ link.isName = true)
    (hsteps : links.mapM Link.step = .ok steps') :
    ∃ o', (x.chain links).expr = .ok (.splat o' target (steps ++ steps') full) := by
  induction links generalizing x o steps steps' with
  | nil =>
    rw [List.mapM_nil] at hsteps
    cases hsteps
    exact ⟨o, by rw [List.append_nil]; exact hx⟩
  | cons link links ih =>
    obtain ⟨hlink, hlinks⟩ := List.forall_mem_cons.1 hfolds
    obtain ⟨first, rest, hfirst, hrest, rfl⟩ := Link.mapM_step_cons hsteps
    obtain ⟨o', ho'⟩ := expr_link_splat hx hlink hfirst
    obtain ⟨o'', ho''⟩ := ih ho' hlinks hrest
    exact ⟨o'', by rw [List.append_assoc] at ho''; exact ho''⟩

/-- The expression is one that a step behind it can become part of. -/
def Folds (link : Link) : Expr → Prop
  | .splat _ _ _ full => full = true ∨ link.isName = true
  | _ => False

/-- Where a step does not become part of what it is written behind, it is an expression of its
own. -/
theorem expr_link (hx : x.expr = .ok e) (hfolds : ¬ Folds link e) (hstep : link.step = .ok step) :
    ∃ e', (x.link link).expr = .ok e' ∧ (∀ link, ¬ Folds link e') ∧
      ∀ steps e'', Expr.FollowedBy e' steps e'' → Expr.FollowedBy e (step :: steps) e'' := by
  match link with
  | .name t =>
    cases hstep
    refine ⟨.getAttr (x.start.originTo t.stop) e t.text, ?_, fun _ => id, fun _ _ h => .attr h⟩
    rw [Operand.link, getAttr, hx]
    -- Behind a splat the name would be one of its steps.
    cases e with
    | splat => exact absurd (.inr rfl) hfolds
    | _ => rfl
  | .digits t =>
    obtain ⟨k, hk, rfl⟩ := map_eq_ok_iff.1 hstep
    refine ⟨.index (x.start.originTo t.stop) e k, ?_, fun _ => id, fun _ _ h => .index h⟩
    rw [Operand.link, indexDigits, index, hx, hk]
    -- Behind a splat that is not full an index stands for itself.
    cases e with
    | splat _ _ _ full =>
      cases full with
      | true => exact absurd (.inl rfl) hfolds
      | false => rfl
    | _ => rfl
  | .key key stop =>
    obtain ⟨k, hk, rfl⟩ := map_eq_ok_iff.1 hstep
    refine ⟨.index (x.start.originTo stop) e k, ?_, fun _ => id, fun _ _ h => .index h⟩
    rw [Operand.link, index, hx, hk]
    cases e with
    | splat _ _ _ full =>
      cases full with
      | true => exact absurd (.inl rfl) hfolds
      | false => rfl
    | _ => rfl

/-- If the first of the steps does not become part of what they are written behind, they are
expressions one around the other. -/
theorem expr_chain (hx : x.expr = .ok e) (hfolds : ∀ link ∈ links.head?, ¬ Folds link e)
    (hsteps : links.mapM Link.step = .ok steps) :
    ∃ e', (x.chain links).expr = .ok e' ∧ Expr.FollowedBy e steps e' := by
  induction links generalizing x e steps with
  | nil =>
    cases hsteps
    exact ⟨e, hx, .nil⟩
  | cons link links ih =>
    obtain ⟨first, rest, hfirst, hrest, rfl⟩ := Link.mapM_step_cons hsteps
    obtain ⟨e', he', hfolds', hfollowed⟩ := expr_link hx (hfolds link rfl) hfirst
    obtain ⟨e'', he'', hrest'⟩ := ih he' (fun link _ => hfolds' link) hrest
    exact ⟨e'', he'', hfollowed _ _ hrest'⟩

end Operand

/-! ## Reading -/

/-- A token with the template that it holds if it is a heredoc. -/
structure FedToken extends Token where
  /-- The parts of the template. -/
  parts : Draft (List Part) := .ok []

/-- The reader behind the tokens, if they can stand where it is. -/
def Reader.feeds (r : Reader) (ts : List FedToken) : Option Reader :=
  ts.foldlM (fun r t => r.feed t.parts t.toToken) r

/-- Wherever an operand is awaited the tokens are read as the operand, and what follows them does
not break it up. -/
def ReadWhole (ts : List FedToken) (x : Operand) : Prop :=
  ∀ frame outer, frame.awaitsOperand = true →
    Reader.feeds ⟨none, frame :: outer⟩ ts = some ⟨some x, frame :: outer⟩

/-- Behind a bracket the tokens are read as a key, which is complete once the bracket is closed. -/
def ReadKey (ts : List FedToken) (k : Operand) : Prop :=
  ∀ target outer, ∃ x pending,
    Reader.feeds ⟨none, .subscript target :: outer⟩ ts = some ⟨some x, pending⟩ ∧
      Reader.settle x pending = (k, .subscript target :: outer)

/-- The tokens of a step. -/
inductive Link.Written : Link → List FedToken → Prop
  | name {point t : FedToken} (hpoint : point.kind = .dot) (ht : t.kind = .name) :
    Written (.name t.toToken) [point, t]
  | digits {point t : FedToken} (hpoint : point.kind = .dot) (ht : t.kind = .digits) :
    Written (.digits t.toToken) [point, t]
  | key {opening closing : FedToken} {ts : List FedToken} {k : Operand}
    (hopening : opening.kind = .openBracket) (hkey : ReadKey ts k)
    (hclosing : closing.kind = .closeBracket) :
    Written (.key k closing.stop) (opening :: (ts ++ [closing]))

namespace Reader

variable {r r' : Reader} {x : Operand} {frames outer : List Frame} {t : FedToken}
  {ts ts' : List FedToken}

theorem feeds_cons : r.feeds (t :: ts) = r.feed t.parts t.toToken >>= fun r => r.feeds ts := by
  rw [feeds, List.foldlM_cons]
  rfl

theorem feeds_append : r.feeds (ts ++ ts') = r.feeds ts >>= fun r => r.feeds ts' := by
  rw [feeds, List.foldlM_append]
  rfl

theorem feeds_cons_of (h : r.feed t.parts t.toToken = some r') :
    r.feeds (t :: ts) = r'.feeds ts := by
  rw [feeds_cons, h]
  rfl

theorem feeds_append_of (h : r.feeds ts = some r') : r.feeds (ts ++ ts') = r'.feeds ts' := by
  rw [feeds_append, h]
  rfl

/-- The first of the constructs is no block whose labels are read. -/
def NoHeader (frames : List Frame) : Prop :=
  ∀ type labels more, frames ≠ .header type labels :: more

theorem noHeader_of_awaitsOperand {frame : Frame} (h : frame.awaitsOperand = true)
    (outer : List Frame) : NoHeader (frame :: outer) := by
  rintro type labels more heq
  cases heq
  cases h

/-- The first token of an operand, where one is awaited. -/
theorem feed_beginOperand {frame : Frame} (hframe : frame.awaitsOperand = true)
    (h : beginOperand (frame :: outer) t.toToken t.parts = some r) :
    feed ⟨none, frame :: outer⟩ t.parts t.toToken = some r :=
  Copies.feedOpen_of_beginOperand hframe h

/-- A name where an operand is awaited. -/
theorem feed_name {frame : Frame} (hframe : frame.awaitsOperand = true) (ht : t.kind = .name) :
    feed ⟨none, frame :: outer⟩ t.parts t.toToken =
      some ⟨some (.ofName t.toToken), frame :: outer⟩ :=
  feed_beginOperand hframe (by simp [beginOperand, ht, after])

/-- A point behind an operand. -/
theorem feed_point (hframes : NoHeader frames) (ht : t.kind = .dot) :
    feed ⟨some x, frames⟩ t.parts t.toToken = some ⟨none, .access x :: frames⟩ := by
  change feedAfter x frames t.toToken t.parts = _
  unfold feedAfter
  split
  · next type labels more => exact absurd rfl (hframes type labels more)
  · simp only [ht]
    rfl

/-- An opening bracket behind an operand. -/
theorem feed_bracket (hframes : NoHeader frames) (ht : t.kind = .openBracket) :
    feed ⟨some x, frames⟩ t.parts t.toToken = some ⟨none, .subscript x :: frames⟩ := by
  change feedAfter x frames t.toToken t.parts = _
  unfold feedAfter
  split
  · next type labels more => exact absurd rfl (hframes type labels more)
  · simp only [ht]
    rfl

/-- A closing bracket goes to the construct that the operand in front of it stands in. -/
theorem feed_closeBracket {y : Operand} (hsettle : settle x frames = (y, outer))
    (houter : NoHeader outer) (ht : t.kind = .closeBracket) :
    feed ⟨some x, frames⟩ t.parts t.toToken = closeOperand y outer t.toToken t.parts :=
  feedAfter_eq_closeOperand hsettle houter (by simp [ht]) (by simp [ht]) (by simp [ht])
    (by simp [ht, operatorOf?])

/-- The tokens of a step are read as the step. -/
theorem feeds_link {link : Link} (h : link.Written ts) (hframes : NoHeader frames) :
    feeds ⟨some x, frames⟩ ts = some ⟨some (x.link link), frames⟩ := by
  cases h with
  | @name point t hpoint ht =>
    rw [feeds_cons_of (feed_point hframes hpoint)]
    refine feeds_cons_of ?_
    simp [feed, feedOpen, ht, after, Operand.link]
  | @digits point t hpoint ht =>
    rw [feeds_cons_of (feed_point hframes hpoint)]
    refine feeds_cons_of ?_
    simp [feed, feedOpen, ht, after, Operand.link]
  | @key opening closing ts k hopening hkey hclosing =>
    obtain ⟨y, pending, hread, hsettle⟩ := hkey x frames
    rw [feeds_cons_of (feed_bracket hframes hopening), feeds_append_of hread]
    refine feeds_cons_of ?_
    rw [feed_closeBracket hsettle (by rintro _ _ _ ⟨⟩) hclosing]
    simp [closeOperand, hclosing, after, Operand.link]

/-- The tokens of several steps are read as the steps. -/
theorem feeds_chain {links : List Link} {tss : List (List FedToken)}
    (h : List.Forall₂ Link.Written links tss) (hframes : NoHeader frames) :
    feeds ⟨some x, frames⟩ tss.flatten = some ⟨some (x.chain links), frames⟩ := by
  induction h generalizing x with
  | nil => rfl
  | cons hlink _ ih =>
    rw [List.flatten_cons, feeds_append_of (feeds_link hlink hframes)]
    exact ih

end Reader

end ResourceTables.Native
