import ResourceTables.Proofs.Splats.Chains

/-!
# Splats as loops

A splat with steps behind it is read as one expression, which takes the steps from each element of
its target. A loop over the target that takes the same steps from its variable gives the same.

* `WrittenOperand`, `WrittenSteps`: an operand and steps with the tokens that they are written in;
* `Reader.feeds_fullSplat`, `Reader.feeds_attrSplat`, `Reader.feeds_loop`: how splats and loops are
  read;
* `splat_eq_loop`: a splat gives what the loop gives.
-/

namespace ResourceTables.Native

/-- A token of the given kind. -/
structure Sign (k : Kind) extends FedToken where
  /-- It is of the kind. -/
  is_kind : toToken.kind = k

/-- An operand that no operator in front of it or behind it breaks up, as it is written. -/
structure WrittenOperand where
  /-- Its tokens. -/
  tokens : List FedToken
  /-- The operand. -/
  operand : Operand
  /-- What it says. -/
  expr : Expr
  /-- The tokens are read as the operand. -/
  reads : ReadWhole tokens operand
  /-- Nothing is wrong with what it says. -/
  expr_eq : operand.expr = .ok expr

/-- Steps behind an operand, as they are written. -/
structure WrittenSteps where
  /-- The links that they are read as. -/
  links : List Link
  /-- The tokens of each. -/
  spelled : List (List FedToken)
  /-- What they say. -/
  steps : List Step
  /-- The tokens are those of the links. -/
  written : List.Forall₂ Link.Written links spelled
  /-- Nothing is wrong with what they say. -/
  steps_eq : links.mapM Link.step = .ok steps

/-- The tokens of the steps. -/
def WrittenSteps.tokens (w : WrittenSteps) : List FedToken :=
  w.spelled.flatten

namespace Reader

variable {x : Operand} {frames : List Frame}

/-- Steps behind an operand. -/
theorem feeds_steps (w : WrittenSteps) (hframes : NoHeader frames) :
    feeds ⟨some x, frames⟩ w.tokens = some ⟨some (x.chain w.links), frames⟩ :=
  feeds_chain w.written hframes

/-- `[*]` behind an operand. -/
theorem feeds_fullSplat (opening : Sign .openBracket) (star : Sign .star)
    (closing : Sign .closeBracket) (hframes : NoHeader frames) :
    feeds ⟨some x, frames⟩ [opening.toFedToken, star.toFedToken, closing.toFedToken] =
      some ⟨some (x.splat closing.stop true), frames⟩ := by
  rw [feeds_cons_of (feed_bracket hframes opening.is_kind)]
  have hstar : feed ⟨none, .subscript x :: frames⟩ star.parts star.toToken =
      some ⟨none, .fullSplat x :: frames⟩ := by
    simp [feed, feedOpen, star.is_kind, inside]
  rw [feeds_cons_of hstar]
  refine feeds_cons_of ?_
  simp [feed, feedOpen, closing.is_kind, after]

/-- `.*` behind an operand. -/
theorem feeds_attrSplat (point : Sign .dot) (star : Sign .star) (hframes : NoHeader frames) :
    feeds ⟨some x, frames⟩ [point.toFedToken, star.toFedToken] =
      some ⟨some (x.splat star.stop false), frames⟩ := by
  rw [feeds_cons_of (feed_point hframes point.is_kind)]
  refine feeds_cons_of ?_
  simp [feed, feedOpen, star.is_kind, after]

/-- The tokens of `[for name in collection : variable steps]`. -/
def loopTokens (opening : Sign .openBracket) (word : Sign (.word .loop)) (name : Sign .name)
    (within : Sign .within) (collection : WrittenOperand) (colon : Sign .colon)
    (element : Sign .name) (w : WrittenSteps) (closing : Sign .closeBracket) : List FedToken :=
  [opening.toFedToken, word.toFedToken, name.toFedToken, within.toFedToken] ++ collection.tokens ++
    colon.toFedToken :: element.toFedToken :: (w.tokens ++ [closing.toFedToken])

/-- A loop over a tuple that takes steps from a name. -/
theorem readWhole_loop (opening : Sign .openBracket) (word : Sign (.word .loop)) (name : Sign .name)
    (within : Sign .within) (collection : WrittenOperand) (colon : Sign .colon)
    (element : Sign .name) (w : WrittenSteps) (closing : Sign .closeBracket) :
    ReadWhole (loopTokens opening word name within collection colon element w closing)
      (.forTuple ⟨opening.start, ⟨none, name.text⟩, collection.operand⟩ closing.stop
        ((Operand.ofName element.toToken).chain w.links) none) := by
  intro frame outer hframe
  rw [loopTokens, List.append_assoc]
  have hopening : feed ⟨none, frame :: outer⟩ opening.parts opening.toToken =
      some ⟨none, .tuple opening.start [] :: frame :: outer⟩ :=
    feed_beginOperand hframe (by simp [beginOperand, opening.is_kind, inside])
  have hword : feed ⟨none, .tuple opening.start [] :: frame :: outer⟩ word.parts word.toToken =
      some ⟨none, .loopName (.tuple opening.start) :: frame :: outer⟩ := by
    simp [feed, feedOpen, word.is_kind, inside]
  have hname : feed ⟨none, .loopName (.tuple opening.start) :: frame :: outer⟩ name.parts
      name.toToken = some ⟨none, .loopMore (.tuple opening.start) name.text :: frame :: outer⟩ := by
    simp [feed, feedOpen, name.is_kind, inside]
  have hwithin : feed ⟨none, .loopMore (.tuple opening.start) name.text :: frame :: outer⟩
      within.parts within.toToken =
        some ⟨none, .loopOver (.tuple opening.start) ⟨none, name.text⟩ :: frame :: outer⟩ := by
    simp [feed, feedOpen, within.is_kind, inside]
  rw [List.cons_append, feeds_cons_of hopening, List.cons_append, feeds_cons_of hword,
    List.cons_append, feeds_cons_of hname, List.cons_append, feeds_cons_of hwithin,
    List.nil_append, feeds_append_of (collection.reads _ _ rfl)]
  -- The colon completes the collection, and the steps are read behind the variable.
  let head : Operand.ForHead := ⟨opening.start, ⟨none, name.text⟩, collection.operand⟩
  have hcolon : feed ⟨some collection.operand,
      .loopOver (.tuple opening.start) ⟨none, name.text⟩ :: frame :: outer⟩ colon.parts
        colon.toToken = some ⟨none, .elements head :: frame :: outer⟩ := by
    have hsettle : settle collection.operand (.loopOver (.tuple opening.start) ⟨none, name.text⟩ ::
        frame :: outer) = (collection.operand, _) := rfl
    refine (feedAfter_eq_closeOperand hsettle (by rintro _ _ _ ⟨⟩) ?_ ?_ ?_ ?_).trans ?_
    all_goals simp [colon.is_kind, operatorOf?, closeOperand, inside, head]
  rw [feeds_cons_of hcolon, feeds_cons_of (feed_name rfl element.is_kind),
    feeds_append_of (feeds_steps w (by rintro _ _ _ ⟨⟩))]
  refine feeds_cons_of ?_
  have hsettle : settle ((Operand.ofName element.toToken).chain w.links)
      (.elements head :: frame :: outer) = (_, _) := rfl
  rw [feed_closeBracket hsettle (by rintro _ _ _ ⟨⟩) closing.is_kind]
  simp [closeOperand, closing.is_kind, after, head]

end Reader

/-! ## Splats and loops -/

/-- Wherever an operand is awaited the tokens are read as one that says the expression. -/
def ReadAs (ts : List FedToken) (e : Expr) : Prop :=
  ∃ x, ReadWhole ts x ∧ x.expr = .ok e

namespace WrittenOperand

/-- The tokens of `target[*] steps`. -/
def fullSplat (target : WrittenOperand) (opening : Sign .openBracket) (star : Sign .star)
    (closing : Sign .closeBracket) (w : WrittenSteps) : List FedToken :=
  target.tokens ++ ([opening.toFedToken, star.toFedToken, closing.toFedToken] ++ w.tokens)

/-- The tokens of `target.* names rest`. -/
def attrSplat (target : WrittenOperand) (point : Sign .dot) (star : Sign .star)
    (names rest : WrittenSteps) : List FedToken :=
  target.tokens ++ ([point.toFedToken, star.toFedToken] ++ (names.tokens ++ rest.tokens))

variable (target : WrittenOperand)

/-- All steps behind `target[*]` are steps of the splat. -/
theorem readAs_fullSplat (opening : Sign .openBracket) (star : Sign .star)
    (closing : Sign .closeBracket) (w : WrittenSteps) :
    ∃ o, ReadAs (target.fullSplat opening star closing w) (.splat o target.expr w.steps true) := by
  have hsplat : (target.operand.splat closing.stop true).expr =
      .ok (.splat (target.operand.start.originTo closing.stop) target.expr [] true) := by
    rw [Operand.splat, target.expr_eq]
    rfl
  obtain ⟨o, ho⟩ := Operand.expr_chain_splat hsplat (fun _ _ => .inl rfl) w.steps_eq
  refine ⟨o, _, fun frame outer hframe => ?_, ho⟩
  have hheader := Reader.noHeader_of_awaitsOperand hframe outer
  rw [fullSplat, Reader.feeds_append_of (target.reads frame outer hframe),
    Reader.feeds_append_of (Reader.feeds_fullSplat opening star closing hheader)]
  exact Reader.feeds_steps w hheader

/-- The names behind `target.*` are steps of the splat; what follows them, from an index on, stands
behind the whole of it. -/
theorem readAs_attrSplat (point : Sign .dot) (star : Sign .star) (names rest : WrittenSteps)
    (hnames : ∀ link ∈ names.links, link.isName = true)
    (hrest : ∀ link ∈ rest.links.head?, link.isName = false) :
    ∃ o e, ReadAs (target.attrSplat point star names rest) e ∧
      Expr.FollowedBy (.splat o target.expr names.steps false) rest.steps e := by
  have hsplat : (target.operand.splat star.stop false).expr =
      .ok (.splat (target.operand.start.originTo star.stop) target.expr [] false) := by
    rw [Operand.splat, target.expr_eq]
    rfl
  obtain ⟨o, ho⟩ := Operand.expr_chain_splat hsplat (fun l hl => .inr (hnames l hl)) names.steps_eq
  -- From an index on the links are not taken into the splat.
  have hfolds : ∀ link ∈ rest.links.head?,
      ¬ Operand.Folds link (.splat o target.expr names.steps false) := by
    intro link hlink hfolds
    simp [Operand.Folds, hrest link hlink] at hfolds
  obtain ⟨e, he, hfollowed⟩ := Operand.expr_chain ho hfolds rest.steps_eq
  refine ⟨o, e, ⟨_, fun frame outer hframe => ?_, he⟩, hfollowed⟩
  have hheader := Reader.noHeader_of_awaitsOperand hframe outer
  rw [attrSplat, Reader.feeds_append_of (target.reads frame outer hframe),
    Reader.feeds_append_of (Reader.feeds_attrSplat point star hheader),
    Reader.feeds_append_of (Reader.feeds_steps names hheader)]
  exact Reader.feeds_steps rest hheader

end WrittenOperand

/-- A name that is no constant is a variable. -/
theorem Operand.expr_ofName {t : Token} (h : t.text ∉ ["true", "false", "null"]) :
    (ofName t).expr = .ok (.variable (t.start.originTo t.stop) t.text) := by
  unfold ofName
  dsimp only
  split <;> simp_all

/-- The steps that a loop takes from its variable. -/
theorem readAs_loop (opening : Sign .openBracket) (word : Sign (.word .loop)) (name : Sign .name)
    (within : Sign .within) (collection : WrittenOperand) (colon : Sign .colon)
    (element : Sign .name) (w : WrittenSteps) (closing : Sign .closeBracket)
    (helement : element.text = name.text) (hname : name.text ∉ ["true", "false", "null"]) :
    ∃ o variableOrigin value,
      ReadAs (Reader.loopTokens opening word name within collection colon element w closing)
        (.forTuple o ⟨none, name.text⟩ collection.expr value none) ∧
      Expr.FollowedBy (.variable variableOrigin name.text) w.steps value := by
  rw [← helement] at hname
  obtain ⟨value, hvalue, hfollowed⟩ :=
    Operand.expr_chain (Operand.expr_ofName hname) (fun _ _ => id) w.steps_eq
  refine ⟨opening.start.originTo closing.stop, _, value, ⟨_, Reader.readWhole_loop opening word name
    within collection colon element w closing, ?_⟩, by rw [← helement]; exact hfollowed⟩
  simp only [Operand.forTuple, collection.expr_eq, hvalue]
  rfl

/-- Over a tuple a splat with steps behind it is a loop that takes the same steps from its variable:
it is read as an expression with the same value, or both fail for the same cause. Over another value
that is known it is the splat over the tuple of this value, and over null it is empty. Behind
`target.*` only the names that follow directly are taken from each element; all else is taken from
the whole. -/
theorem splat_eq_loop (target target' : WrittenOperand) (w w' : WrittenSteps)
    (htarget : target'.expr.unplaced = target.expr.unplaced)
    (hsteps : Step.allUnplaced w'.steps = Step.allUnplaced w.steps)
    (opening opening' : Sign .openBracket) (star star' : Sign .star)
    (closing closing' : Sign .closeBracket) (word : Sign (.word .loop)) (name element : Sign .name)
    (within : Sign .within) (colon : Sign .colon) (helement : element.text = name.text)
    (hname : name.text ∉ ["true", "false", "null"]) (hfree : name.text ∉ Step.allFreeNames w.steps)
    (point : Sign .dot) (names rest : WrittenSteps)
    (hnames : ∀ link ∈ names.links, link.isName = true)
    (hrest : ∀ link ∈ rest.links.head?, link.isName = false) :
    ∃ splat loop whole,
      ReadAs (target.fullSplat opening star closing w) splat ∧
      ReadAs (Reader.loopTokens opening' word name within target' colon element w' closing') loop ∧
      ReadAs (target.attrSplat point star' names rest) whole ∧
      ∀ s,
        (∀ elements, target.expr.evaluate s = .ok (.tuple elements) →
          AgreeUpTo EvalError.cause? (splat.evaluate s) (loop.evaluate s)) ∧
        (∀ v, target.expr.evaluate s = .ok v → v.isKnown → v.isNull = false → v.kind ≠ .tuple →
          ∃ o, ∀ o', splat.evaluate s =
            (Expr.splat o (.tuple o' [target.expr]) w.steps true).evaluate s) ∧
        (∀ kind, target.expr.evaluate s = .ok (.null kind) → splat.evaluate s = .ok (.tuple [])) ∧
        ∀ o, AgreeUpTo EvalError.cause? (whole.evaluate s)
          ((Expr.splat o target.expr names.steps true).evaluate s >>= fun v =>
            Step.applyAll s o rest.steps v) := by
  obtain ⟨o, hsplat⟩ := target.readAs_fullSplat opening star closing w
  obtain ⟨o', variableOrigin, value, hloop, hvalue⟩ := readAs_loop opening' word name within target'
    colon element w' closing' helement hname
  obtain ⟨o'', whole, hwhole, hfollowed⟩ := target.readAs_attrSplat point star' names rest hnames
    hrest
  refine ⟨_, _, whole, hsplat, hloop, hwhole, fun s => ⟨fun elements h => ?_, fun v h hknown hnull
    hkind => ⟨o, fun o' => ?_⟩, fun kind h => ?_, fun o => ?_⟩⟩
  · exact Expr.agree_splat_forTuple htarget hsteps hfree hvalue h o o' true
  · exact Expr.evaluate_splat_single h hknown hnull hkind o o' true
  · exact Expr.evaluate_splat_null h o true
  · exact (hfollowed.agree_evaluate s o).trans (.bind (Expr.agree_splat _ _ _ _) fun _ => .refl)

/-- `a[*].b[k]` is `[for v in a : v.b[k]]`. -/
theorem splat_eq_loop_indexed :
    let sign := fun k => (⟨⟨⟨k, "", default, 0⟩, .ok []⟩, rfl⟩ : Sign k)
    let named := fun text => (⟨⟨⟨.name, text, default, 0⟩, .ok []⟩, rfl⟩ : Sign .name)
    let steps := [(sign .dot).toFedToken, (named "b").toFedToken, (sign .openBracket).toFedToken,
      (named "k").toFedToken, (sign .closeBracket).toFedToken]
    let s := (Scope.empty.bind "k" (.number (.ofNat 0))).bind "a"
      (.tuple [.object [("b", .tuple [.bool true])], .unknown .dynamic])
    ∃ splat loop,
      ReadAs ([(named "a").toFedToken, (sign .openBracket).toFedToken, (sign .star).toFedToken,
        (sign .closeBracket).toFedToken] ++ steps) splat ∧
      ReadAs ([(sign .openBracket).toFedToken, (sign (.word .loop)).toFedToken,
        (named "v").toFedToken, (sign .within).toFedToken, (named "a").toFedToken,
        (sign .colon).toFedToken, (named "v").toFedToken] ++
          (steps ++ [(sign .closeBracket).toFedToken])) loop ∧
      AgreeUpTo EvalError.cause? (splat.evaluate s) (loop.evaluate s) := by
  intro sign named steps s
  -- A name is an operand of its own.
  have hword : ∀ (t : Sign .name) (frame : Frame) (outer : List Frame),
      frame.awaitsOperand = true → Reader.feeds ⟨none, frame :: outer⟩ [t.toFedToken] =
        some ⟨some (.ofName t.toToken), frame :: outer⟩ := fun t frame outer hframe =>
    Reader.feeds_cons_of (Reader.feed_name hframe t.is_kind)
  have hkey : ReadKey [(named "k").toFedToken] (.ofName (named "k").toToken) :=
    fun target outer => ⟨_, _, hword _ _ _ rfl, rfl⟩
  let target : WrittenOperand := ⟨[(named "a").toFedToken], .ofName (named "a").toToken,
    .variable _ "a", hword _, Operand.expr_ofName (by decide)⟩
  have hb : Link.Written (.name (named "b").toToken)
      [(sign .dot).toFedToken, (named "b").toFedToken] := .name rfl rfl
  have hk : Link.Written (.key (.ofName (named "k").toToken) (sign .closeBracket).stop)
      [(sign .openBracket).toFedToken, (named "k").toFedToken, (sign .closeBracket).toFedToken] :=
    .key rfl hkey rfl
  let name : WrittenSteps := ⟨_, _, [.attr "b"], .cons hb .nil, rfl⟩
  let key : WrittenSteps := ⟨_, _, [.index (.variable _ "k")], .cons hk .nil, rfl⟩
  let w : WrittenSteps := ⟨_, _, name.steps ++ key.steps, .cons hb (.cons hk .nil), rfl⟩
  have hfree : (named "v").text ∉ Step.allFreeNames w.steps := by
    change "v" ∉ ["k"]
    decide
  obtain ⟨splat, loop, _, hsplat, hloop, -, hs⟩ := splat_eq_loop target target w w rfl rfl
    (sign _) (sign _) (sign _) (sign _) (sign _) (sign _) (sign _) (named "v") (named "v") (sign _)
    (sign _) rfl (by decide) hfree (sign _) name key (by simp [name, Link.isName])
    (by simp [key, Link.isName])
  exact ⟨splat, loop, hsplat, hloop, (hs s).1 _ rfl⟩

end ResourceTables.Native
