import ResourceTables.Proofs.Quotes.Readers

/-!
# Where an expression begins and ends

While an expression is read, its constructs stand on what was open before. They leave that as it is,
the outermost of them begins where the expression does, and an operand ends with the token that
completed it.

* `Above`: the constructs of an expression, from the innermost to what they stand on;
* `Operand.Spans`: what an operand says was read from between its two ends;
* `Reader.Leads`: what is known behind a token inside an expression;
* `Reader.leads_feed`: one token keeps this;
* `Reader.of_feed_newline`: a newline ends a whole expression or is no part of one.
-/

namespace ResourceTables.Native

/-! ## The constructs of an expression -/

/-- Whether the construct is a part of an expression. -/
def Frame.isInner : Frame → Bool
  | .file _ | .header _ _ | .block _ _ _ | .attribute _ | .template _ => false
  | _ => true

/-- Where the tuple or the object of a `for` begins. -/
def LoopOwner.start? : LoopOwner → Option Mark
  | .tuple start | .object start => some start
  | .directive _ _ => none

/-- Where the construct begins, if it is an expression. -/
def Frame.start? : Frame → Option Mark
  | .unary start _ | .parens start | .tuple start _ | .key start _ | .value start _ _
  | .quoted start _ => some start
  | .binary x _ | .test x | .branch x _ | .access x | .subscript x | .fullSplat x => some x.start
  | .callee t | .call t _ | .spread t _ => some t.start
  | .loopName owner | .loopMore owner _ | .loopSecond owner _ | .loopIn owner _ _
  | .loopOver owner _ => owner.start?
  | .elements head | .elementsIf head _ | .keys head | .values head _ | .grouped head _ _
  | .valuesIf head _ _ _ => some head.start
  | _ => none

/-- Whether a bracket is open in the construct. -/
def Frame.isBracket : Frame → Bool
  | .unary _ _ | .binary _ _ | .test _ | .branch _ _ | .access _ | .callee _ | .quoted _ _ => false
  | f => f.isInner

/-- Whether the construct has no bracket and an operand must come next. -/
def Frame.isPrefix : Frame → Bool
  | .attribute _ | .unary _ _ | .binary _ _ | .test _ | .branch _ _ => true
  | _ => false

/-- Whether the innermost construct is an attribute before its value. -/
def inAttribute : List Frame → Bool
  | .attribute _ :: _ => true
  | _ => false

/-- Whether the innermost construct is the body of a file or of a block. -/
def inBody : List Frame → Bool
  | .file _ :: _ | .block _ _ _ :: _ => true
  | _ => false

/-- Whether an operand must come next, without a bracket in front of it. -/
def inPrefix : List Frame → Bool
  | f :: _ => f.isPrefix
  | [] => false

/-- How many brackets are open in the innermost expression. -/
def depth : List Frame → Nat
  | [] => 0
  | f :: outer => if f.isInner then f.isBracket.toNat + depth outer else 0

/-- How many brackets a token of the kind opens. -/
def Kind.opening : Kind → Nat
  | .openBrace | .openParen | .openBracket | .openInterp | .openDirective => 1
  | _ => 0

/-- How many brackets a token of the kind closes. -/
def Kind.closing : Kind → Nat
  | .closeBrace | .closeParen | .closeBracket => 1
  | _ => 0

/-- The constructs of an expression that begins at `start` and stands on the constructs `base`. It
is a quoted text unless it is the value of an attribute. -/
def Above (start : Mark) (base : List Frame) : List Frame → Prop
  | [] => False
  | f :: outer => f.isInner = true ∧
    (outer = base ∧ f.start? = some start ∧ (inAttribute base = true ∨ f.isQuoted = true) ∨
      Above start base outer)

/-- What the operand says was read from between its two ends. -/
def Operand.Spans (x : Operand) : Prop :=
  Ensures (fun e => e.origin = x.start.originTo x.stop) x.expr

/-! Each operand begins where its first part does, ends with its last token and says what was read
from between. -/

namespace Operand

variable {t : Token} {x y z target : Operand} {start : Mark} {stop : Nat}

@[simp]
theorem spans_ofName :
    (ofName t).start = t.start ∧ (ofName t).stop = t.stop ∧ (ofName t).Spans := by
  refine ⟨rfl, rfl, .ok ?_⟩
  split <;> rfl

@[simp]
theorem spans_ofNumber :
    (ofNumber t).start = t.start ∧ (ofNumber t).stop = t.stop ∧ (ofNumber t).Spans := by
  refine ⟨rfl, rfl, ?_⟩
  unfold Spans ofNumber numberExpr
  dsimp only
  split
  · exact .ok rfl
  · exact .error

@[simp]
theorem spans_ofHeredoc {parts : Draft (List Part)} :
    (ofHeredoc t parts).start = t.start ∧ (ofHeredoc t parts).stop = t.stop ∧
      (ofHeredoc t parts).Spans :=
  ⟨rfl, rfl, .map .trivial fun _ _ => rfl⟩

@[simp]
theorem spans_ofQuoted {items : List (Draft TemplateItem)} :
    (ofQuoted start stop items).start = start ∧ (ofQuoted start stop items).stop = stop ∧
      (ofQuoted start stop items).Spans := by
  refine ⟨rfl, rfl, .bind .trivial fun read _ => ?_⟩
  exact .bind .trivial fun decoded _ => .bind .trivial fun parts _ => .ok rfl

@[simp]
theorem spans_getAttr :
    (target.getAttr t).start = target.start ∧ (target.getAttr t).stop = t.stop ∧
      (target.getAttr t).Spans := by
  refine ⟨rfl, rfl, .map .trivial fun e _ => ?_⟩
  cases e <;> rfl

@[simp]
theorem spans_index {key : Draft Expr} :
    (target.index stop key).start = target.start ∧ (target.index stop key).stop = stop ∧
      (target.index stop key).Spans := by
  refine ⟨rfl, rfl, .bind .trivial fun e _ => .bind .trivial fun k _ => ?_⟩
  split <;> exact .ok rfl

@[simp]
theorem spans_indexDigits :
    (target.indexDigits t).start = target.start ∧ (target.indexDigits t).stop = t.stop ∧
      (target.indexDigits t).Spans :=
  spans_index

@[simp]
theorem spans_splat {full : Bool} :
    (target.splat stop full).start = target.start ∧ (target.splat stop full).stop = stop ∧
      (target.splat stop full).Spans :=
  ⟨rfl, rfl, .map .trivial fun _ _ => rfl⟩

@[simp]
theorem spans_parens :
    (parens start stop x).start = start ∧ (parens start stop x).stop = stop ∧
      (parens start stop x).Spans :=
  ⟨rfl, rfl, .map .trivial fun _ _ => rfl⟩

@[simp]
theorem spans_unary {op : UnaryOp} :
    (unary start op x).start = start ∧ (unary start op x).stop = x.stop ∧
      (unary start op x).Spans :=
  ⟨rfl, rfl, .map .trivial fun _ _ => rfl⟩

@[simp]
theorem spans_binary {op : BinaryOp} :
    (binary x op y).start = x.start ∧ (binary x op y).stop = y.stop ∧ (binary x op y).Spans :=
  ⟨rfl, rfl, .bind .trivial fun _ _ => .bind .trivial fun _ _ => .ok rfl⟩

@[simp]
theorem spans_conditional :
    (conditional x y z).start = x.start ∧ (conditional x y z).stop = z.stop ∧
      (conditional x y z).Spans := by
  refine ⟨rfl, rfl, .bind .trivial fun _ _ => ?_⟩
  exact .bind .trivial fun _ _ => .bind .trivial fun _ _ => .ok rfl

@[simp]
theorem spans_tuple {items : List Operand} :
    (tuple start stop items).start = start ∧ (tuple start stop items).stop = stop ∧
      (tuple start stop items).Spans :=
  ⟨rfl, rfl, .map .trivial fun _ _ => rfl⟩

@[simp]
theorem spans_object {pairs : List (Operand × Operand)} :
    (object start stop pairs).start = start ∧ (object start stop pairs).stop = stop ∧
      (object start stop pairs).Spans :=
  ⟨rfl, rfl, .map .trivial fun _ _ => rfl⟩

@[simp]
theorem spans_call {args : List Operand} {spread : Bool} :
    (call t stop args spread).start = t.start ∧ (call t stop args spread).stop = stop ∧
      (call t stop args spread).Spans :=
  ⟨rfl, rfl, .bind .trivial fun _ _ => .ok rfl⟩

variable {head : ForHead} {cond : Option Operand}

@[simp]
theorem spans_forTuple :
    (forTuple head stop x cond).start = head.start ∧ (forTuple head stop x cond).stop = stop ∧
      (forTuple head stop x cond).Spans := by
  refine ⟨rfl, rfl, .bind .trivial fun _ _ => ?_⟩
  exact .bind .trivial fun _ _ => .bind .trivial fun _ _ => .ok rfl

@[simp]
theorem spans_forObject {grouping : Bool} :
    (forObject head stop x y cond grouping).start = head.start ∧
      (forObject head stop x y cond grouping).stop = stop ∧
        (forObject head stop x y cond grouping).Spans := by
  refine ⟨rfl, rfl, .bind .trivial fun _ _ => .bind .trivial fun _ _ => ?_⟩
  exact .bind .trivial fun _ _ => .bind .trivial fun _ _ => .ok rfl

end Operand

namespace Reader

/-- What is known of a reader behind the token `t` inside an expression: the brackets that are open
were open before or were opened by the token, and the operand, if there is one, ends with it. -/
structure Led (start : Mark) (base : List Frame) (t : Token) (before : Nat) (r : Reader) : Prop where
  /-- The brackets that are open. -/
  depth_eq : depth r.frames + t.kind.closing = before + t.kind.opening
  /-- The operand ends with the token. -/
  operand : ∀ x, r.operand = some x → x.stop = t.stop ∧ x.Spans
  /-- The expression stands on `base` and begins at `start`. -/
  extent : r.frames = base ∧ (∃ x, r.operand = some x ∧ x.start = start) ∧
    (inAttribute base = true ∨ t.kind = .quote) ∨ Above start base r.frames
  /-- A name or a quote leaves no operand to be read behind an operator. -/
  prefix_of : r.operand = none → inPrefix r.frames = true → t.kind ≠ .name ∧ t.kind ≠ .quote

/-- If there is a reader, this is known of it. -/
def Leads (start : Mark) (base : List Frame) (t : Token) (before : Nat) (r : Option Reader) :
    Prop :=
  ∀ r', r = some r' → r'.Led start base t before

section Steps

variable {start : Mark} {base frames outer : List Frame} {t : Token} {before : Nat}
  {heredoc : Draft (List Part)} {x : Operand}

@[simp]
theorem leads_none : Leads start base t before none := by
  simp [Leads]

@[simp]
theorem leads_after : Leads start base t before (after x frames) ↔
    depth frames + t.kind.closing = before + t.kind.opening ∧ (x.stop = t.stop ∧ x.Spans) ∧
      (frames = base ∧ x.start = start ∧ (inAttribute base = true ∨ t.kind = .quote) ∨
        Above start base frames) := by
  constructor
  · intro h
    obtain ⟨hdepth, hoperand, hextent, -⟩ := h _ rfl
    exact ⟨hdepth, hoperand x rfl, by simpa using hextent⟩
  · rintro ⟨hdepth, hx, hextent⟩ _ ⟨⟩
    refine ⟨hdepth, ?_, by simpa using hextent, ?_⟩
    · rintro _ ⟨⟩
      exact hx
    · rintro ⟨⟩

@[simp]
theorem leads_inside : Leads start base t before (inside frames) ↔
    depth frames + t.kind.closing = before + t.kind.opening ∧ Above start base frames ∧
      (inPrefix frames = true → t.kind ≠ .name ∧ t.kind ≠ .quote) := by
  constructor
  · intro h
    obtain ⟨hdepth, -, hextent, hstarts⟩ := h _ rfl
    exact ⟨hdepth, by simpa using hextent, hstarts rfl⟩
  · rintro ⟨hdepth, hextent, hstarts⟩ _ ⟨⟩
    refine ⟨hdepth, ?_, .inr hextent, fun _ => hstarts⟩
    rintro _ ⟨⟩

theorem leads_addTemplateItem {d : Draft TemplateItem} (h : Above start base frames)
    (hdepth : depth frames + t.kind.closing = before + t.kind.opening) :
    Leads start base t before (addTemplateItem d frames) := by
  unfold addTemplateItem
  split <;> simp_all [Above, Frame.isInner, Frame.start?, Frame.isQuoted, Frame.isBracket,
    Frame.isPrefix, inPrefix, depth]

theorem leads_beginOperand
    (h : frames = base ∧ t.start = start ∧ inAttribute base = true ∨ Above start base frames) :
    Leads start base t (depth frames) (beginOperand frames t heredoc) := by
  unfold beginOperand
  rcases h with ⟨rfl, rfl, h⟩ | h <;> split <;>
    simp_all [Above, Frame.isInner, Frame.start?, Frame.isQuoted, Frame.isBracket,
      Frame.isPrefix, inPrefix, depth, Kind.opening, Kind.closing, Nat.add_comm]

theorem leads_feedDirective {trimmed : Bool} (h : Above start base outer)
    (hdepth : before = depth outer + 1) :
    Leads start base t before (feedDirective trimmed outer t) := by
  unfold feedDirective
  split <;> try split
  all_goals
    simp_all [Above, Frame.isInner, Frame.isBracket, Frame.isPrefix, inPrefix, depth, Kind.opening,
      Kind.closing, Nat.add_comm]

theorem leads_feedTemplate (h : Above start base frames) :
    Leads start base t (depth frames) (feedTemplate frames t) := by
  unfold feedTemplate
  split
  · next hk => exact leads_addTemplateItem h (by simp [hk, Kind.opening, Kind.closing])
  · next hk => exact leads_addTemplateItem h (by simp [hk, Kind.opening, Kind.closing])
  all_goals
    simp_all [Above, Frame.isInner, Frame.isBracket, Frame.isPrefix, inPrefix, depth, Kind.opening,
      Kind.closing, Nat.add_comm]

theorem leads_feedOpen (h : Above start base frames) :
    Leads start base t (depth frames) (feedOpen frames t heredoc) := by
  unfold feedOpen
  split
  · exact leads_none
  · next frame outer =>
    split
    rotate_right
    -- Any other token is the first one of an operand, or cannot stand there.
    · split
      · exact leads_beginOperand (.inr h)
      · exact leads_none
    -- Most tokens close the innermost construct or turn it into the next one.
    all_goals try
      simp_all [Above, Frame.isInner, Frame.start?, LoopOwner.start?, Frame.isQuoted,
        Frame.isBracket, Frame.isPrefix, inPrefix, depth, Kind.opening, Kind.closing,
        Nat.add_comm, leads_addTemplateItem, leads_feedDirective]
      done
    · exact leads_feedTemplate h

/-- The operand ends before `stop` and is the whole value of an attribute so far, or it stands in
the constructs of an expression. -/
structure Within (start : Mark) (base : List Frame) (stop : Nat) (x : Operand)
    (frames : List Frame) : Prop where
  /-- Where the operand ends. -/
  stop_eq : x.stop = stop
  /-- What it says was read from between its ends. -/
  spans : x.Spans
  /-- The expression stands on `base` and begins at `start`. -/
  extent : frames = base ∧ x.start = start ∧ inAttribute base = true ∨ Above start base frames

variable {stop : Nat}

theorem inAttribute_eq_false {f : Frame} (hf : f.isInner = true) :
    inAttribute (f :: outer) = false := by
  cases f <;> first | rfl | cases hf

/-- A construct without a bracket becomes part of an operand that begins where it did. -/
theorem Within.popped {f : Frame} {y : Operand} (h : Within start base stop x (f :: outer))
    (hinner : f.isInner = true) (hquoted : f.isQuoted = false) (hstart : f.start? = some y.start)
    (hstop : y.stop = x.stop) (hy : y.Spans) : Within start base stop y outer := by
  refine ⟨hstop.trans h.stop_eq, hy, ?_⟩
  rcases h.extent with ⟨rfl, -, hbase⟩ | ⟨-, ⟨rfl, hfirst, hbase⟩ | habove⟩
  · rw [inAttribute_eq_false hinner] at hbase
    cases hbase
  · refine .inl ⟨rfl, Option.some.inj (hstart.symm.trans hfirst), hbase.resolve_right ?_⟩
    rw [hquoted]
    exact Bool.false_ne_true
  · exact .inr habove

/-- Putting operators together closes constructs without brackets. -/
theorem within_reduce (level : Nat) (h : Within start base stop x frames) :
    Within start base stop (reduce level x frames).1 (reduce level x frames).2 ∧
      depth (reduce level x frames).2 = depth frames := by
  fun_induction reduce level x frames with
  | case1 x start op outer ih =>
    simpa [depth, Frame.isInner, Frame.isBracket] using ih (h.popped rfl rfl rfl rfl (by simp))
  | case2 x left op outer hlevel ih =>
    simpa [depth, Frame.isInner, Frame.isBracket] using ih (h.popped rfl rfl rfl rfl (by simp))
  | case3 x left op outer hlevel => exact ⟨h, rfl⟩
  | case4 x frames => exact ⟨h, rfl⟩

theorem within_settle (h : Within start base stop x frames) :
    Within start base stop (settle x frames).1 (settle x frames).2 ∧
      depth (settle x frames).2 = depth frames := by
  fun_induction settle x frames with
  | case1 x start op outer ih =>
    simpa [depth, Frame.isInner, Frame.isBracket] using ih (h.popped rfl rfl rfl rfl (by simp))
  | case2 x left op outer ih =>
    simpa [depth, Frame.isInner, Frame.isBracket] using ih (h.popped rfl rfl rfl rfl (by simp))
  | case3 x cond yes outer ih =>
    simpa [depth, Frame.isInner, Frame.isBracket] using ih (h.popped rfl rfl rfl rfl (by simp))
  | case4 x frames => exact ⟨h, rfl⟩

theorem leads_feedDirectiveEnd {trimmed : Bool} {pos : Pos} {d : Draft Directive}
    (h : Above start base outer) (hdepth : before = depth outer + 1) :
    Leads start base t before (closeOperand.feedDirectiveEnd t trimmed pos d outer) := by
  unfold closeOperand.feedDirectiveEnd
  split
  · simp_all [Above, Frame.isInner, Frame.isBracket, Frame.isPrefix, inPrefix, depth, Kind.opening,
      Kind.closing, Nat.add_comm]
  · next hk => exact leads_addTemplateItem h (by simp [hk, hdepth, Kind.opening, Kind.closing])
  · exact leads_none

theorem exists_of_inAttribute (h : inAttribute frames = true) :
    ∃ name outer, frames = .attribute name :: outer := by
  unfold inAttribute at h
  split at h
  · next name outer => exact ⟨name, outer, rfl⟩
  · cases h

/-- Behind the value of an attribute nothing can stand but a newline. -/
theorem closeOperand_attribute (ht : t.kind ≠ .newline) (h : inAttribute frames = true) :
    closeOperand x frames t heredoc = none := by
  obtain ⟨name, outer, rfl⟩ := exists_of_inAttribute h
  unfold closeOperand
  dsimp only
  split <;> simp_all

theorem leads_closeOperand (ht : t.kind ≠ .newline) (h : Within start base stop x frames) :
    Leads start base t (depth frames) (closeOperand x frames t heredoc) := by
  rcases h.extent with ⟨rfl, -, hbase⟩ | h
  · rw [closeOperand_attribute ht hbase]
    exact leads_none
  unfold closeOperand
  split
  · exact leads_none
  · next frame outer =>
    split
    rotate_right
    -- Any other token cannot stand there.
    · exact leads_none
    -- Most tokens close the innermost construct or turn it into the next one.
    all_goals try
      simp_all [Above, Frame.isInner, Frame.start?, LoopOwner.start?, Frame.isQuoted,
        Frame.isBracket, Frame.isPrefix, inPrefix, depth, Kind.opening, Kind.closing,
        Nat.add_comm, leads_addTemplateItem, leads_feedDirectiveEnd]
      done
    -- The token begins the next key of an object.
    · exact leads_beginOperand (.inr h)

/-- An operator is no bracket, no name and no quote. -/
theorem of_operatorOf? {k : Kind} {op : BinaryOp} (h : operatorOf? k = some op) :
    k.opening = 0 ∧ k.closing = 0 ∧ k ≠ .name ∧ k ≠ .quote := by
  unfold operatorOf? at h
  split at h
  · exact ⟨rfl, rfl, nofun, nofun⟩
  · exact ⟨rfl, rfl, nofun, nofun⟩
  · exact ⟨rfl, rfl, nofun, nofun⟩
  · cases h

theorem leads_feedAfter (ht : t.kind ≠ .newline) (h : Within start base stop x frames) :
    Leads start base t (depth frames) (feedAfter x frames t heredoc) := by
  -- A frame that begins where the operand does stands above what the operand stood above.
  have hpush : ∀ {y fs f}, Within start base stop y fs → f.isInner = true →
      f.start? = some y.start → Above start base (f :: fs) := by
    rintro y fs f ⟨-, -, ⟨rfl, rfl, hbase⟩ | habove⟩ hinner hstart
    · exact ⟨hinner, .inl ⟨rfl, hstart, .inl hbase⟩⟩
    · exact ⟨hinner, .inr habove⟩
  unfold feedAfter
  split
  · next type labels outer =>
    rcases h.extent with ⟨rfl, -, hbase⟩ | habove
    · cases hbase
    · cases habove.1
  · split
    · next hk =>
      refine leads_inside.2 ⟨?_, hpush h rfl rfl, ?_⟩
      · simp [hk, depth, Frame.isInner, Frame.isBracket, Kind.opening, Kind.closing]
      · rintro ⟨⟩
    · next hk =>
      refine leads_inside.2 ⟨?_, hpush h rfl rfl, ?_⟩
      · simp [hk, depth, Frame.isInner, Frame.isBracket, Kind.opening, Kind.closing, Nat.add_comm]
      · rintro ⟨⟩
    · next hk =>
      obtain ⟨h, hdepth⟩ := within_reduce 0 h
      refine leads_inside.2 ⟨?_, hpush h rfl rfl, fun _ => ?_⟩
      · simp [hk, hdepth, depth, Frame.isInner, Frame.isBracket, Kind.opening, Kind.closing]
      · simp [hk]
    · split
      · next op hop =>
        obtain ⟨h, hdepth⟩ := within_reduce op.level h
        obtain ⟨hopening, hclosing, hkind⟩ := of_operatorOf? hop
        refine leads_inside.2 ⟨?_, hpush h rfl rfl, fun _ => hkind⟩
        simp [hopening, hclosing, hdepth, depth, Frame.isInner, Frame.isBracket]
      · obtain ⟨h, hdepth⟩ := within_settle h
        rw [← hdepth]
        exact leads_closeOperand ht h

/-- The operand is the whole value of an attribute so far, or it stands in the constructs of an
expression. -/
theorem Led.within {r : Reader} {last : Token} (hr : r.Led start base last before)
    (hx : r.operand = some x) (hbase : r.frames = base → inAttribute base = true) :
    Within start base x.stop x r.frames := by
  refine ⟨rfl, (hr.operand x hx).2, hr.extent.imp_left ?_⟩
  rintro ⟨hframes, ⟨y, hy, hstart⟩, -⟩
  obtain rfl := Option.some.inj (hx.symm.trans hy)
  exact ⟨hframes, hstart, hbase hframes⟩

/-- One token keeps what is known inside an expression. -/
theorem leads_feed {r : Reader} {last : Token} (ht : t.kind ≠ .newline)
    (hr : r.Led start base last before) (hbase : r.frames = base → inAttribute base = true) :
    Leads start base t (depth r.frames) (r.feed heredoc t) := by
  obtain ⟨operand, frames⟩ := r
  cases operand with
  | none =>
    rcases hr.extent with ⟨-, ⟨x, ⟨⟩, -⟩, -⟩ | habove
    exact leads_feedOpen habove
  | some x => exact leads_feedAfter ht (hr.within rfl hbase)

/-! ## Newlines -/

theorem beginOperand_newline (ht : t.kind = .newline) : beginOperand frames t heredoc = none := by
  unfold beginOperand
  rw [ht]

theorem closeOperand_newline {y : Operand} {r₁ : Reader} (ht : t.kind = .newline)
    (h : closeOperand y frames t heredoc = some r₁) :
    ∃ name outer, frames = .attribute name :: outer ∧
      addItem (y.expr.map fun e => .attribute ⟨name.text, e, name.start.pos⟩) outer = some r₁ := by
  unfold closeOperand at h
  split at h
  · cases h
  · split at h
    all_goals simp_all [beginOperand_newline, closeOperand.feedDirectiveEnd]

/-- A newline ends the value of an attribute, or stands between the items of a body. -/
theorem of_feed_newline {r r₁ : Reader} (ht : t.kind = .newline)
    (h : r.feed heredoc t = some r₁) :
    r.operand = none ∧ inBody r.frames = true ∧ r₁ = r ∨
      ∃ x y name outer, r.operand = some x ∧ settle x r.frames = (y, .attribute name :: outer) ∧
        addItem (y.expr.map fun e => .attribute ⟨name.text, e, name.start.pos⟩) outer = some r₁ := by
  obtain ⟨operand, frames⟩ := r
  cases operand with
  | none =>
    have hopen : feedOpen frames t heredoc = some r₁ := h
    unfold feedOpen at hopen
    split at hopen
    · cases hopen
    · split at hopen
      all_goals
        simp_all [inBody, inside, beginOperand_newline, feedDirective, feedTemplate]
  | some x =>
    have hafter : feedAfter x frames t heredoc = some r₁ := h
    unfold feedAfter at hafter
    split at hafter
    · simp [feedOpen, ht, Frame.awaitsOperand] at hafter
    · -- A newline is no operator, so it closes the operand.
      have hclose : closeOperand (settle x frames).1 (settle x frames).2 t heredoc = some r₁ := by
        simpa [ht, operatorOf?] using hafter
      obtain ⟨name, outer, hsettle, hadd⟩ := closeOperand_newline ht hclose
      exact .inr ⟨x, _, name, outer, rfl, Prod.ext rfl hsettle, hadd⟩

theorem of_feedAll_cons {r r₁ : Reader} {ts : List Token}
    (h : r.feedAll heredoc (t :: ts) = .ok r₁) :
    ∃ r₂, r.feed heredoc t = some r₂ ∧ r₂.feedAll heredoc ts = .ok r₁ := by
  rw [feedAll] at h
  split at h
  · next hfeed => exact ⟨_, hfeed, h⟩
  · cases h

end Steps

end Reader

end ResourceTables.Native
