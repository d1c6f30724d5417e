import ResourceTables.Proofs.Sources.Echoes

/-!
# Two copies of a text

The same text can stand in two places, with something else in front of it and behind it. What is read
from the one copy corresponds to what is read from the other.

* `Copies`: a text that stands in two places;
* `Copies.Marks`, `Copies.Tokens`, `Copies.Operands`: corresponding places, tokens and expressions;
* `Copies.Frames`: corresponding constructs, one rule for each construct of an expression;
* `Copies.swap`: the same with the two copies exchanged;
* `Copies.operands_binary` and its like: what is made of corresponding parts corresponds.
-/

namespace ResourceTables.Native

/-- A text that stands in two places. -/
structure Copies where
  /-- The text. -/
  text : List Char
  /-- How many characters stand in front of the first copy. -/
  before : Nat
  /-- What stands behind the first copy. -/
  behind : List Char
  /-- How many characters stand in front of the second copy. -/
  before' : Nat
  /-- What stands behind the second copy. -/
  behind' : List Char

namespace Copies

/-! ## Corresponding parts -/

/-- The places are behind the first `k` characters of the two copies. -/
structure At (c : Copies) (k : Nat) (m m' : Mark) : Prop where
  /-- The place is in the text. -/
  le : k ≤ c.text.length
  /-- What stands in front of the first place. -/
  offset : m.offset = c.before + k
  /-- What stands behind the first place. -/
  rest : m.rest = c.text.drop k ++ c.behind
  /-- What stands in front of the second place. -/
  offset' : m'.offset = c.before' + k
  /-- What stands behind the second place. -/
  rest' : m'.rest = c.text.drop k ++ c.behind'

/-- The places are behind the same characters of the two copies. -/
def Marks (c : Copies) (m m' : Mark) : Prop :=
  ∃ k, c.At k m m'

/-- The offsets are those behind the same characters of the two copies. -/
def Offsets (c : Copies) (stop stop' : Nat) : Prop :=
  ∃ k ≤ c.text.length, stop = c.before + k ∧ stop' = c.before' + k

/-- The tokens are of the same kind and consist of the same characters of the two copies. -/
structure Tokens (c : Copies) (t t' : Token) : Prop where
  /-- They are of the same kind. -/
  kind : t'.kind = t.kind
  /-- They have the same characters. -/
  text : t'.text = t.text
  /-- They begin at the same place. -/
  start : c.Marks t.start t'.start
  /-- They end at the same place. -/
  stop : c.Offsets t.stop t'.stop

/-- The operands were read from the same characters of the two copies. -/
structure Operands (c : Copies) (x x' : Operand) : Prop where
  /-- They begin at the same place. -/
  start : c.Marks x.start x'.start
  /-- They end at the same place. -/
  stop : c.Offsets x.stop x'.stop
  /-- They say the same. -/
  expr : Echoes Expr.unplaced x.expr x'.expr

/-- The keys and the values were read from the same characters of the two copies. -/
def Pairs (c : Copies) (p p' : Operand × Operand) : Prop :=
  c.Operands p.1 p'.1 ∧ c.Operands p.2 p'.2

/-- The owners of a `for` begin at the same place. -/
inductive Owners (c : Copies) : LoopOwner → LoopOwner → Prop
  | tuple {m m' : Mark} (hm : c.Marks m m') : Owners c (.tuple m) (.tuple m')
  | object {m m' : Mark} (hm : c.Marks m m') : Owners c (.object m) (.object m')
  | directive {before : Bool} {pos pos' : Pos} :
      Owners c (.directive before pos) (.directive before pos')

/-- The `for` expressions have been read from the same characters up to their collections. -/
structure Heads (c : Copies) (head head' : Operand.ForHead) : Prop where
  /-- They begin at the same place. -/
  start : c.Marks head.start head'.start
  /-- They have the same variables. -/
  vars : head'.vars = head.vars
  /-- They have corresponding collections. -/
  collection : c.Operands head.collection head'.collection

/-- The items of templates say the same. -/
def Items : List (Draft TemplateItem) → List (Draft TemplateItem) → Prop :=
  List.Forall₂ (Echoes TemplateItem.unplaced)

/-- The constructs have been read from the same characters of the two copies. -/
inductive Frames (c : Copies) : Frame → Frame → Prop
  | unary {m m' op} (hm : c.Marks m m') : Frames c (.unary m op) (.unary m' op)
  | binary {x x' op} (hx : c.Operands x x') : Frames c (.binary x op) (.binary x' op)
  | test {x x'} (hx : c.Operands x x') : Frames c (.test x) (.test x')
  | branch {x x' y y'} (hx : c.Operands x x') (hy : c.Operands y y') :
      Frames c (.branch x y) (.branch x' y')
  | access {x x'} (hx : c.Operands x x') : Frames c (.access x) (.access x')
  | subscript {x x'} (hx : c.Operands x x') : Frames c (.subscript x) (.subscript x')
  | fullSplat {x x'} (hx : c.Operands x x') : Frames c (.fullSplat x) (.fullSplat x')
  | parens {m m'} (hm : c.Marks m m') : Frames c (.parens m) (.parens m')
  | tuple {m m' xs xs'} (hm : c.Marks m m') (hxs : List.Forall₂ c.Operands xs xs') :
      Frames c (.tuple m xs) (.tuple m' xs')
  | key {m m' ps ps'} (hm : c.Marks m m') (hps : List.Forall₂ c.Pairs ps ps') :
      Frames c (.key m ps) (.key m' ps')
  | value {m m' ps ps' x x'} (hm : c.Marks m m') (hps : List.Forall₂ c.Pairs ps ps')
      (hx : c.Operands x x') : Frames c (.value m ps x) (.value m' ps' x')
  | callee {t t'} (ht : c.Tokens t t') : Frames c (.callee t) (.callee t')
  | call {t t' xs xs'} (ht : c.Tokens t t') (hxs : List.Forall₂ c.Operands xs xs') :
      Frames c (.call t xs) (.call t' xs')
  | spread {t t' xs xs'} (ht : c.Tokens t t') (hxs : List.Forall₂ c.Operands xs xs') :
      Frames c (.spread t xs) (.spread t' xs')
  | loopName {o o'} (ho : c.Owners o o') : Frames c (.loopName o) (.loopName o')
  | loopMore {o o' first} (ho : c.Owners o o') : Frames c (.loopMore o first) (.loopMore o' first)
  | loopSecond {o o' first} (ho : c.Owners o o') :
      Frames c (.loopSecond o first) (.loopSecond o' first)
  | loopIn {o o' first second} (ho : c.Owners o o') :
      Frames c (.loopIn o first second) (.loopIn o' first second)
  | loopOver {o o' vars} (ho : c.Owners o o') : Frames c (.loopOver o vars) (.loopOver o' vars)
  | elements {h h'} (hh : c.Heads h h') : Frames c (.elements h) (.elements h')
  | elementsIf {h h' x x'} (hh : c.Heads h h') (hx : c.Operands x x') :
      Frames c (.elementsIf h x) (.elementsIf h' x')
  | keys {h h'} (hh : c.Heads h h') : Frames c (.keys h) (.keys h')
  | values {h h' x x'} (hh : c.Heads h h') (hx : c.Operands x x') :
      Frames c (.values h x) (.values h' x')
  | grouped {h h' x x' y y'} (hh : c.Heads h h') (hx : c.Operands x x') (hy : c.Operands y y') :
      Frames c (.grouped h x y) (.grouped h' x' y')
  | valuesIf {h h' x x' y y' grouping} (hh : c.Heads h h') (hx : c.Operands x x')
      (hy : c.Operands y y') : Frames c (.valuesIf h x y grouping) (.valuesIf h' x' y' grouping)
  | quoted {m m' ds ds'} (hm : c.Marks m m') (hds : Items ds ds') :
      Frames c (.quoted m ds) (.quoted m' ds')
  | template {ds ds'} (hds : Items ds ds') : Frames c (.template ds) (.template ds')
  | interp {before} : Frames c (.interp before) (.interp before)
  | interpEnd {before x x'} (hx : c.Operands x x') :
      Frames c (.interpEnd before x) (.interpEnd before x')
  | directive {before} : Frames c (.directive before) (.directive before)
  | directiveIf {before pos pos'} : Frames c (.directiveIf before pos) (.directiveIf before pos')
  | directiveEnd {trim pos pos' d d' settled} (hd : Echoes Directive.unplaced d d') :
      Frames c (.directiveEnd trim pos d settled) (.directiveEnd trim pos' d' settled)

/-! ## The copies the other way round -/

/-- The same text with the second copy in the place of the first. -/
def swap (c : Copies) : Copies :=
  ⟨c.text, c.before', c.behind', c.before, c.behind⟩

section Swap

variable {c : Copies}

theorem At.swap {k : Nat} {m m' : Mark} (h : c.At k m m') : c.swap.At k m' m :=
  ⟨h.le, h.offset', h.rest', h.offset, h.rest⟩

theorem Marks.swap {m m' : Mark} : c.Marks m m' → c.swap.Marks m' m
  | ⟨k, h⟩ => ⟨k, h.swap⟩

theorem Offsets.swap {stop stop' : Nat} : c.Offsets stop stop' → c.swap.Offsets stop' stop
  | ⟨k, hk, h, h'⟩ => ⟨k, hk, h', h⟩

theorem Tokens.swap {t t' : Token} (h : c.Tokens t t') : c.swap.Tokens t' t :=
  ⟨h.kind.symm, h.text.symm, h.start.swap, h.stop.swap⟩

theorem Operands.swap {x x' : Operand} (h : c.Operands x x') : c.swap.Operands x' x :=
  ⟨h.start.swap, h.stop.swap, h.expr.symm⟩

theorem forall₂_operands_swap {xs xs' : List Operand} (h : List.Forall₂ c.Operands xs xs') :
    List.Forall₂ c.swap.Operands xs' xs :=
  h.flip.imp fun _ _ => Operands.swap

theorem forall₂_pairs_swap {ps ps' : List (Operand × Operand)} (h : List.Forall₂ c.Pairs ps ps') :
    List.Forall₂ c.swap.Pairs ps' ps :=
  h.flip.imp fun _ _ hp => ⟨hp.1.swap, hp.2.swap⟩

theorem Owners.swap {o o' : LoopOwner} (h : c.Owners o o') : c.swap.Owners o' o := by
  cases h with
  | tuple hm => exact .tuple hm.swap
  | object hm => exact .object hm.swap
  | directive => exact .directive

theorem Heads.swap {head head' : Operand.ForHead} (h : c.Heads head head') :
    c.swap.Heads head' head :=
  ⟨h.start.swap, h.vars.symm, h.collection.swap⟩

theorem Items.symm {ds ds' : List (Draft TemplateItem)} (h : Items ds ds') : Items ds' ds :=
  List.Forall₂.flip (h.imp fun _ _ => Echoes.symm)

theorem Frames.swap {f f' : Frame} (h : c.Frames f f') : c.swap.Frames f' f := by
  cases h with
  | unary hm => exact .unary hm.swap
  | binary hx => exact .binary hx.swap
  | test hx => exact .test hx.swap
  | branch hx hy => exact .branch hx.swap hy.swap
  | access hx => exact .access hx.swap
  | subscript hx => exact .subscript hx.swap
  | fullSplat hx => exact .fullSplat hx.swap
  | parens hm => exact .parens hm.swap
  | tuple hm hxs => exact .tuple hm.swap (forall₂_operands_swap hxs)
  | key hm hps => exact .key hm.swap (forall₂_pairs_swap hps)
  | value hm hps hx => exact .value hm.swap (forall₂_pairs_swap hps) hx.swap
  | callee ht => exact .callee ht.swap
  | call ht hxs => exact .call ht.swap (forall₂_operands_swap hxs)
  | spread ht hxs => exact .spread ht.swap (forall₂_operands_swap hxs)
  | loopName ho => exact .loopName ho.swap
  | loopMore ho => exact .loopMore ho.swap
  | loopSecond ho => exact .loopSecond ho.swap
  | loopIn ho => exact .loopIn ho.swap
  | loopOver ho => exact .loopOver ho.swap
  | elements hh => exact .elements hh.swap
  | elementsIf hh hx => exact .elementsIf hh.swap hx.swap
  | keys hh => exact .keys hh.swap
  | values hh hx => exact .values hh.swap hx.swap
  | grouped hh hx hy => exact .grouped hh.swap hx.swap hy.swap
  | valuesIf hh hx hy => exact .valuesIf hh.swap hx.swap hy.swap
  | quoted hm hds => exact .quoted hm.swap hds.symm
  | template hds => exact .template hds.symm
  | interp => exact .interp
  | interpEnd hx => exact .interpEnd hx.swap
  | directive => exact .directive
  | directiveIf => exact .directiveIf
  | directiveEnd hd => exact .directiveEnd hd.symm

end Swap

/-! ## What is made of corresponding parts -/

variable {c : Copies} {m m' : Mark} {stop stop' : Nat} {t t' : Token} {x x' y y' z z' : Operand}
  {xs xs' : List Operand}

/-- Between corresponding places stands the same source text. -/
theorem unplaced_originTo (hm : c.Marks m m') (hstop : c.Offsets stop stop') :
    (m'.originTo stop').unplaced = (m.originTo stop).unplaced := by
  obtain ⟨k, hk⟩ := hm
  obtain ⟨n, hn, rfl, rfl⟩ := hstop
  have htake : ∀ behind : List Char, (c.text.drop k ++ behind).take (n - k) =
      (c.text.drop k).take (n - k) := by
    intro behind
    refine List.take_append_of_le_length ?_
    rw [List.length_drop]
    omega
  simp only [Mark.originTo, Origin.unplaced, hk.offset, hk.offset', hk.rest, hk.rest',
    Nat.add_sub_add_left, htake]

theorem pairs_mk (hx : c.Operands x x') (hy : c.Operands y y') : c.Pairs (x, y) (x', y') :=
  ⟨hx, hy⟩

theorem heads_mk {vars : LoopVars} (hm : c.Marks m m') (hx : c.Operands x x') :
    c.Heads ⟨m, vars, x⟩ ⟨m', vars, x'⟩ :=
  ⟨hm, rfl, hx⟩

theorem echoes_exprs (h : List.Forall₂ c.Operands xs xs') :
    Echoes (List.map Expr.unplaced) (Operand.exprs xs) (Operand.exprs xs') :=
  .mapM (h.imp fun _ _ hx => hx.expr)

theorem operands_ofName (ht : c.Tokens t t') : c.Operands (.ofName t) (.ofName t') where
  start := ht.start
  stop := ht.stop
  expr := by
    have horigin := unplaced_originTo ht.start ht.stop
    refine .ok ?_
    rw [ht.text]
    split <;> simp only [Expr.unplaced, horigin]

theorem echoes_numberExpr (ht : c.Tokens t t') :
    Echoes Expr.unplaced (Operand.numberExpr t) (Operand.numberExpr t') := by
  have horigin := unplaced_originTo ht.start ht.stop
  unfold Operand.numberExpr
  rw [ht.text]
  dsimp only
  split
  · exact .ok (by simp only [Expr.unplaced, horigin])
  · exact .error rfl

theorem operands_ofNumber (ht : c.Tokens t t') : c.Operands (.ofNumber t) (.ofNumber t') where
  start := ht.start
  stop := ht.stop
  expr := echoes_numberExpr ht

theorem operands_ofHeredoc {parts parts' : Draft (List Part)} (ht : c.Tokens t t')
    (hparts : Echoes (List.map Part.unplaced) parts parts') :
    c.Operands (.ofHeredoc t parts) (.ofHeredoc t' parts') where
  start := ht.start
  stop := ht.stop
  expr := hparts.map fun ps ps' hps => by
    simp only [Expr.unplaced, Part.allUnplaced_eq_map, unplaced_originTo ht.start ht.stop, hps]

/-- Literal characters are decoded in the same way. -/
theorem echoes_decodeItem {pos pos' : Pos} {i i' : TemplateItem} (h : i'.unplaced = i.unplaced) :
    Echoes TemplateItem.unplaced (Operand.decodeItem pos i) (Operand.decodeItem pos' i') := by
  cases i <;> cases i' <;> try cases h
  case text.text.refl raw =>
    unfold Operand.decodeItem
    dsimp only
    split
    · exact .ok rfl
    · exact .error rfl
    · exact .error rfl
  all_goals exact .ok h

theorem operands_ofQuoted {ds ds' : List (Draft TemplateItem)} (hm : c.Marks m m')
    (hstop : c.Offsets stop stop') (hds : Items ds ds') :
    c.Operands (.ofQuoted m stop ds) (.ofQuoted m' stop' ds') where
  start := hm
  stop := hstop
  expr := by
    refine .bind (.mapM (F := id) (G := id) hds) fun is is' his => ?_
    have hdecode : List.Forall₂ (fun i i' => Echoes TemplateItem.unplaced
        (Operand.decodeItem m.pos i) (Operand.decodeItem m'.pos i')) is is' := by
      have hsame : List.Forall₂ (fun i i' => i'.unplaced = i.unplaced) is is' := by
        rw [← List.forall₂_eq_eq_eq, List.forall₂_map_left_iff, List.forall₂_map_right_iff] at his
        exact his.flip
      exact hsame.imp fun i i' => echoes_decodeItem
    refine .bind (.mapM hdecode) fun js js' hjs => ?_
    refine .bind (Part.echoes_ofItems hjs) fun ps ps' hps => .ok ?_
    simp only [Expr.unplaced, Part.allUnplaced_eq_map, unplaced_originTo hm hstop, hps]

theorem operands_getAttr (hx : c.Operands x x') (ht : c.Tokens t t') :
    c.Operands (x.getAttr t) (x'.getAttr t') where
  start := hx.start
  stop := ht.stop
  expr := hx.expr.map fun e e' he => by
    have horigin := unplaced_originTo hx.start ht.stop
    cases e <;> cases e' <;> simp_all [Expr.unplaced, Step.allUnplaced_eq_map, ht.text]

theorem operands_index {key key' : Draft Expr} (hx : c.Operands x x')
    (hstop : c.Offsets stop stop') (hkey : Echoes Expr.unplaced key key') :
    c.Operands (x.index stop key) (x'.index stop' key') where
  start := hx.start
  stop := hstop
  expr := by
    have horigin := unplaced_originTo hx.start hstop
    refine hx.expr.bind fun e e' he => hkey.bind fun k k' hk => ?_
    have hindex : Echoes Expr.unplaced (.ok (.index (x.start.originTo stop) e k) : Draft Expr)
        (.ok (.index (x'.start.originTo stop') e' k')) :=
      .ok (by simp only [Expr.unplaced, horigin, he, hk])
    -- Behind a full splat the key is one more step, and elsewhere it is put around.
    cases e <;> cases e' <;> try cases he
    case splat.splat inner steps full _ inner' steps' full' =>
      simp only [Expr.unplaced, Expr.splat.injEq, Step.allUnplaced_eq_map] at he
      obtain ⟨-, hinner, hsteps, rfl⟩ := he
      cases full' with
      | false => exact hindex
      | true =>
        refine .ok ?_
        simp only [Expr.unplaced, Step.allUnplaced_eq_map, List.map_append, List.map_cons,
          List.map_nil, Step.unplaced, horigin, hinner, hsteps, hk]
    all_goals exact hindex

theorem operands_indexDigits (hx : c.Operands x x') (ht : c.Tokens t t') :
    c.Operands (x.indexDigits t) (x'.indexDigits t') :=
  operands_index hx ht.stop (echoes_numberExpr ht)

theorem operands_splat {full : Bool} (hx : c.Operands x x') (hstop : c.Offsets stop stop') :
    c.Operands (x.splat stop full) (x'.splat stop' full) where
  start := hx.start
  stop := hstop
  expr := hx.expr.map fun e e' he => by
    simp only [Expr.unplaced, unplaced_originTo hx.start hstop, he, Step.allUnplaced]

theorem operands_parens (hm : c.Marks m m') (hstop : c.Offsets stop stop')
    (hx : c.Operands x x') : c.Operands (.parens m stop x) (.parens m' stop' x') where
  start := hm
  stop := hstop
  expr := hx.expr.map fun e e' he => by
    simp only [Expr.unplaced, unplaced_originTo hm hstop, he]

theorem operands_unary {op : UnaryOp} (hm : c.Marks m m') (hx : c.Operands x x') :
    c.Operands (.unary m op x) (.unary m' op x') where
  start := hm
  stop := hx.stop
  expr := hx.expr.map fun e e' he => by
    simp only [Expr.unplaced, unplaced_originTo hm hx.stop, he]

theorem operands_binary {op : BinaryOp} (hx : c.Operands x x') (hy : c.Operands y y') :
    c.Operands (.binary x op y) (.binary x' op y') where
  start := hx.start
  stop := hy.stop
  expr := hx.expr.bind fun e e' he => hy.expr.bind fun d d' hd => .ok <| by
    simp only [Expr.unplaced, unplaced_originTo hx.start hy.stop, he, hd]

theorem operands_conditional (hx : c.Operands x x') (hy : c.Operands y y')
    (hz : c.Operands z z') : c.Operands (.conditional x y z) (.conditional x' y' z') where
  start := hx.start
  stop := hz.stop
  expr := hx.expr.bind fun _ _ hd => hy.expr.bind fun _ _ he => hz.expr.bind fun _ _ hf => .ok <| by
    simp only [Expr.unplaced, unplaced_originTo hx.start hz.stop, hd, he, hf]

theorem operands_tuple (hm : c.Marks m m') (hstop : c.Offsets stop stop')
    (hxs : List.Forall₂ c.Operands xs xs') : c.Operands (.tuple m stop xs) (.tuple m' stop' xs') where
  start := hm
  stop := hstop
  expr := (echoes_exprs hxs).map fun es es' hes => by
    simp only [Expr.unplaced, Expr.allUnplaced_eq_map, unplaced_originTo hm hstop, hes]

theorem operands_object {ps ps' : List (Operand × Operand)} (hm : c.Marks m m')
    (hstop : c.Offsets stop stop') (hps : List.Forall₂ c.Pairs ps ps') :
    c.Operands (.object m stop ps) (.object m' stop' ps') where
  start := hm
  stop := hstop
  expr := by
    have hitems : Echoes (List.map ObjectItem.unplaced) (ps.mapM Operand.objectItem)
        (ps'.mapM Operand.objectItem) := by
      refine .mapM (hps.imp fun p p' hp => ?_)
      exact hp.1.expr.bind fun k k' hk => hp.2.expr.bind fun v v' hv => .ok <| by
        simp only [ObjectItem.unplaced, hk, hv]
    refine hitems.map fun is is' his => ?_
    simp only [Expr.unplaced, ObjectItem.allUnplaced_eq_map, unplaced_originTo hm hstop, his]

theorem operands_call {spread : Bool} (ht : c.Tokens t t') (hstop : c.Offsets stop stop')
    (hxs : List.Forall₂ c.Operands xs xs') :
    c.Operands (.call t stop xs spread) (.call t' stop' xs' spread) where
  start := ht.start
  stop := hstop
  expr := (echoes_exprs hxs).bind fun es es' hes => .ok <| by
    simp only [Expr.unplaced, Expr.allUnplaced_eq_map, unplaced_originTo ht.start hstop, ht.text, hes]

variable {head head' : Operand.ForHead} {cond cond' : Option Operand}

theorem echoes_condition (hcond : Option.Rel c.Operands cond cond') :
    Echoes (Option.map Expr.unplaced) (Operand.condition cond) (Operand.condition cond') := by
  cases hcond with
  | none => exact .ok rfl
  | some hx => exact hx.expr.bind fun e e' he => .ok (by simp only [Option.map_some, he])

theorem operands_forTuple (hhead : c.Heads head head') (hstop : c.Offsets stop stop')
    (hx : c.Operands x x') (hcond : Option.Rel c.Operands cond cond') :
    c.Operands (.forTuple head stop x cond) (.forTuple head' stop' x' cond') where
  start := hhead.start
  stop := hstop
  expr := by
    refine hhead.collection.expr.bind fun d d' hd => hx.expr.bind fun e e' he => ?_
    refine (echoes_condition hcond).bind fun o o' ho => .ok ?_
    simp only [Expr.unplaced, Expr.conditionUnplaced_eq_map, unplaced_originTo hhead.start hstop,
      hhead.vars, hd, he, ho]

theorem operands_forObject {grouping : Bool} (hhead : c.Heads head head')
    (hstop : c.Offsets stop stop') (hx : c.Operands x x') (hy : c.Operands y y')
    (hcond : Option.Rel c.Operands cond cond') :
    c.Operands (.forObject head stop x y cond grouping)
      (.forObject head' stop' x' y' cond' grouping) where
  start := hhead.start
  stop := hstop
  expr := by
    refine hhead.collection.expr.bind fun d d' hd => hx.expr.bind fun e e' he => ?_
    refine hy.expr.bind fun f f' hf => (echoes_condition hcond).bind fun o o' ho => .ok ?_
    simp only [Expr.unplaced, Expr.conditionUnplaced_eq_map, unplaced_originTo hhead.start hstop,
      hhead.vars, hd, he, hf, ho]

theorem echoes_interpItem {trim : Trim} (hx : c.Operands x x') :
    Echoes TemplateItem.unplaced (Reader.interpItem trim x) (Reader.interpItem trim x') :=
  hx.expr.map fun e e' he => by simp only [TemplateItem.unplaced, he]

theorem echoes_directiveItem {trim : Trim} {pos pos' : Pos} {d d' : Draft Directive}
    (hd : Echoes Directive.unplaced d d') :
    Echoes TemplateItem.unplaced (Reader.directiveItem trim pos d)
      (Reader.directiveItem trim pos' d') :=
  hd.map fun e e' he => by simp only [TemplateItem.unplaced, he]

end Copies

end ResourceTables.Native
