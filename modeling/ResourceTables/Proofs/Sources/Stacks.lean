import ResourceTables.Proofs.Sources.Copies
import ResourceTables.Proofs.Sources.Extents

/-!
# Reading two copies of a text

A reader looks at the kinds and the characters of tokens and at the shape of what is open, but not at
places. So two readers that have read the same characters go on alike.

* `Copies.Stacks`, `Copies.Readers`: corresponding constructs and readers;
* `Copies.yields_feed`: where the first reader takes a token, the second takes the corresponding one.
-/

namespace ResourceTables.Native

namespace Copies

/-- The open constructs correspond, down to what the text stands on. -/
inductive Stacks (c : Copies) (base base' : List Frame) : List Frame → List Frame → Prop
  | base : Stacks c base base' base base'
  | cons {f f' fs fs'} (hf : c.Frames f f') (hfs : Stacks c base base' fs fs') :
      Stacks c base base' (f :: fs) (f' :: fs')

/-- What the texts stand on: they are templates, or the values of attributes. -/
def Grounds (base base' : List Frame) : Prop :=
  base = [] ∧ base' = [] ∨ inAttribute base = true ∧ inAttribute base' = true

/-- The readers have read the same characters. -/
structure Readers (c : Copies) (base base' : List Frame) (r r' : Reader) : Prop where
  /-- They have completed corresponding operands, or none. -/
  operand : Option.Rel c.Operands r.operand r'.operand
  /-- They are inside corresponding constructs. -/
  frames : c.Stacks base base' r.frames r'.frames

/-- If there is a first reader, there is a second one that has read the same characters. -/
def Yields (c : Copies) (base base' : List Frame) (o o' : Option Reader) : Prop :=
  ∀ r, o = some r → ∃ r', o' = some r' ∧ c.Readers base base' r r'

open Reader

section Steps

variable {c : Copies} {base base' fs fs' : List Frame} {t t' : Token} {x x' : Operand}
  {parts parts' : Draft (List Part)} {o : Option Reader}

theorem Grounds.eq_nil_or_exists (h : Grounds base base') :
    base = [] ∧ base' = [] ∨ ∃ name outer name' outer',
      base = .attribute name :: outer ∧ base' = .attribute name' :: outer' := by
  refine h.imp_right fun ⟨hbase, hbase'⟩ => ?_
  obtain ⟨name, outer, rfl⟩ := exists_of_inAttribute hbase
  obtain ⟨name', outer', rfl⟩ := exists_of_inAttribute hbase'
  exact ⟨name, outer, name', outer', rfl, rfl⟩

theorem Stacks.swap (hfs : c.Stacks base base' fs fs') : c.swap.Stacks base' base fs' fs := by
  induction hfs with
  | base => exact .base
  | cons hf _ ih => exact .cons hf.swap ih

theorem Readers.swap {r r' : Reader} (hr : c.Readers base base' r r') :
    c.swap.Readers base' base r' r := by
  refine ⟨?_, hr.frames.swap⟩
  have hoperand := hr.operand
  generalize r.operand = x at hoperand
  generalize r'.operand = x' at hoperand
  cases hoperand with
  | none => exact .none
  | some hx => exact .some hx.swap

theorem yields_none : c.Yields base base' none o := by
  rintro r ⟨⟩

theorem yields_after (hx : c.Operands x x') (hfs : c.Stacks base base' fs fs') :
    c.Yields base base' (after x fs) (after x' fs') := by
  rintro r ⟨⟩
  exact ⟨_, rfl, .some hx, hfs⟩

theorem yields_inside (hfs : c.Stacks base base' fs fs') :
    c.Yields base base' (inside fs) (inside fs') := by
  rintro r ⟨⟩
  exact ⟨_, rfl, .none, hfs⟩

theorem yields_addTemplateItem {d d' : Draft TemplateItem} (hbase : Grounds base base')
    (hd : Echoes TemplateItem.unplaced d d') (hfs : c.Stacks base base' fs fs') :
    c.Yields base base' (addTemplateItem d fs) (addTemplateItem d' fs') := by
  cases hfs with
  | base =>
    rcases hbase.eq_nil_or_exists with ⟨rfl, rfl⟩ | ⟨name, outer, name', outer', rfl, rfl⟩ <;>
      exact yields_none
  | cons hf hfs =>
    cases hf with
    | quoted hm hds => exact yields_inside (.cons (.quoted hm (.cons hd hds)) hfs)
    | template hds => exact yields_inside (.cons (.template (.cons hd hds)) hfs)
    | _ => exact yields_none

theorem yields_beginOperand (ht : c.Tokens t t')
    (hparts : Echoes (List.map Part.unplaced) parts parts') (hfs : c.Stacks base base' fs fs') :
    c.Yields base base' (beginOperand fs t parts) (beginOperand fs' t' parts') := by
  unfold beginOperand
  rw [ht.kind]
  split
  · exact yields_after (operands_ofName ht) hfs
  · exact yields_after (operands_ofNumber ht) hfs
  · exact yields_after (operands_ofHeredoc ht hparts) hfs
  · exact yields_inside (.cons (.callee ht) hfs)
  · exact yields_inside (.cons (.quoted ht.start .nil) hfs)
  · exact yields_inside (.cons (.parens ht.start) hfs)
  · exact yields_inside (.cons (.tuple ht.start .nil) hfs)
  · exact yields_inside (.cons (.key ht.start .nil) hfs)
  · exact yields_inside (.cons (.unary ht.start) hfs)
  · exact yields_inside (.cons (.unary ht.start) hfs)
  · exact yields_none

theorem yields_feedDirective {trimmed : Bool} (ht : c.Tokens t t')
    (hfs : c.Stacks base base' fs fs') :
    c.Yields base base' (feedDirective trimmed fs t) (feedDirective trimmed fs' t') := by
  unfold feedDirective
  rw [ht.kind]
  split
  · split
    · exact yields_none
    · exact yields_inside (.cons .directive hfs)
  · exact yields_inside (.cons .directiveIf hfs)
  · exact yields_inside (.cons (.loopName .directive) hfs)
  · exact yields_inside (.cons (.directiveEnd (.ok rfl)) hfs)
  · exact yields_inside (.cons (.directiveEnd (.ok rfl)) hfs)
  · exact yields_inside (.cons (.directiveEnd (.ok rfl)) hfs)
  · exact yields_none

theorem yields_feedTemplate (hbase : Grounds base base') (ht : c.Tokens t t')
    (hfs : c.Stacks base base' fs fs') :
    c.Yields base base' (feedTemplate fs t) (feedTemplate fs' t') := by
  have htext : Echoes TemplateItem.unplaced (.ok (.text t.text) : Draft TemplateItem)
      (.ok (.text t'.text)) := .ok (by rw [ht.text])
  unfold feedTemplate
  rw [ht.kind]
  split
  · exact yields_addTemplateItem hbase htext hfs
  · exact yields_addTemplateItem hbase htext hfs
  · exact yields_inside (.cons .interp hfs)
  · exact yields_inside (.cons .directive hfs)
  · exact yields_none

/-- Where an operand can come next, its first token begins it. -/
theorem feedOpen_of_beginOperand {f : Frame} {r : Reader} (hf : f.awaitsOperand = true)
    (h : beginOperand (f :: fs) t parts = some r) : feedOpen (f :: fs) t parts = some r := by
  unfold feedOpen
  dsimp only
  -- No token that a construct waits for begins an operand.
  split <;> simp_all [Frame.awaitsOperand, beginOperand]

theorem Frames.awaitsOperand {f f' : Frame} (hf : c.Frames f f') :
    f'.awaitsOperand = f.awaitsOperand := by
  cases hf <;> rfl

theorem yields_feedOpen (hbase : Grounds base base') (ht : c.Tokens t t')
    (hparts : Echoes (List.map Part.unplaced) parts parts') (hfs : c.Stacks base base' fs fs') :
    c.Yields base base' (feedOpen fs t parts) (feedOpen fs' t' parts') := by
  cases hfs with
  | base =>
    rcases hbase.eq_nil_or_exists with ⟨rfl, rfl⟩ | ⟨name, outer, name', outer', rfl, rfl⟩
    · exact yields_none
    · exact yields_beginOperand ht hparts .base
  | @cons f f' fs fs' hf hfs =>
    intro r hr
    unfold feedOpen at hr
    dsimp only at hr
    split at hr
    -- The constructs of bodies are none of these.
    all_goals try
      cases hf
      done
    -- Most tokens lead on to a construct that holds the same, or complete an operand.
    all_goals try
      cases hf
      simp only [feedOpen, ht.kind, ht.text, ‹t.kind = _›]
      first
      | exact yields_inside (.cons (by constructor <;> first | assumption | exact .nil) hfs) r hr
      | exact yields_after (operands_getAttr (by assumption) ht) hfs r hr
      | exact yields_after (operands_indexDigits (by assumption) ht) hfs r hr
      | exact yields_after (operands_splat (by assumption) ht.stop) hfs r hr
      | exact yields_after (operands_tuple (by assumption) ht.stop (by simpa)) hfs r hr
      | exact yields_after (operands_object (by assumption) ht.stop (by simpa)) hfs r hr
      | exact yields_after (operands_call (by assumption) ht.stop (by simpa)) hfs r hr
    -- The word of a loop comes in front of the first element.
    · next hk =>
      cases hf with | tuple hm hxs =>
      cases hxs
      simp only [feedOpen, ht.kind, hk]
      exact yields_inside (.cons (.loopName (.tuple hm)) hfs) r hr
    · next hk =>
      cases hf with | key hm hps =>
      cases hps
      simp only [feedOpen, ht.kind, hk]
      exact yields_inside (.cons (.loopName (.object hm)) hfs) r hr
    · next hk =>
      cases hf with | grouped hh hx hy =>
      simp only [feedOpen, ht.kind, hk]
      exact yields_after (operands_forObject hh ht.stop hx hy .none) hfs r hr
    · next hk =>
      cases hf with | quoted hm hds =>
      simp only [feedOpen, ht.kind, hk]
      exact yields_after (operands_ofQuoted hm ht.stop (List.rel_reverse hds)) hfs r hr
    · next hnot =>
      have hfeed := yields_feedTemplate hbase ht (.cons hf hfs) r hr
      cases hf with | quoted hm hds =>
      simpa [feedOpen, ht.kind, hnot] using hfeed
    · have hfeed := yields_feedTemplate hbase ht (.cons hf hfs) r hr
      cases hf with | template hds =>
      exact hfeed
    · next hk =>
      cases hf with | interpEnd hx =>
      simp only [feedOpen, ht.kind, hk]
      exact yields_addTemplateItem hbase (echoes_interpItem hx) hfs r hr
    · cases hf with | directive =>
      exact yields_feedDirective ht hfs r hr
    · next hk =>
      cases hf with | directiveEnd hd =>
      simp only [feedOpen, ht.kind, hk]
      exact yields_addTemplateItem hbase (echoes_directiveItem hd) hfs r hr
    · split at hr
      · next hawaits =>
        obtain ⟨r', hr', hsame⟩ := yields_beginOperand ht hparts (.cons hf hfs) r hr
        exact ⟨r', feedOpen_of_beginOperand (hf.awaitsOperand.trans hawaits) hr', hsame⟩
      · cases hr

/-- The operands and the constructs around them correspond. -/
def Settled (c : Copies) (base base' : List Frame) (p p' : Operand × List Frame) : Prop :=
  c.Operands p.1 p'.1 ∧ c.Stacks base base' p.2 p'.2

theorem settled_reduce (level : Nat) (hbase : Grounds base base') (hx : c.Operands x x')
    (hfs : c.Stacks base base' fs fs') :
    c.Settled base base' (reduce level x fs) (reduce level x' fs') := by
  induction hfs generalizing x x' with
  | base =>
    rcases hbase.eq_nil_or_exists with ⟨rfl, rfl⟩ | ⟨name, outer, name', outer', rfl, rfl⟩ <;>
      exact ⟨hx, .base⟩
  | cons hf hfs ih =>
    cases hf with
    | unary hm => exact ih (operands_unary hm hx)
    | @binary y y' op hy =>
      unfold reduce
      by_cases hlevel : level ≤ op.level
      · rw [if_pos hlevel, if_pos hlevel]
        exact ih (operands_binary hy hx)
      · rw [if_neg hlevel, if_neg hlevel]
        exact ⟨hx, .cons (.binary hy) hfs⟩
    | _ => exact ⟨hx, .cons (by constructor <;> assumption) hfs⟩

theorem settled_settle (hbase : Grounds base base') (hx : c.Operands x x')
    (hfs : c.Stacks base base' fs fs') :
    c.Settled base base' (settle x fs) (settle x' fs') := by
  induction hfs generalizing x x' with
  | base =>
    rcases hbase.eq_nil_or_exists with ⟨rfl, rfl⟩ | ⟨name, outer, name', outer', rfl, rfl⟩ <;>
      exact ⟨hx, .base⟩
  | cons hf hfs ih =>
    cases hf with
    | unary hm => exact ih (operands_unary hm hx)
    | binary hy => exact ih (operands_binary hy hx)
    | branch hy hz => exact ih (operands_conditional hy hz hx)
    | _ => exact ⟨hx, .cons (by constructor <;> assumption) hfs⟩

theorem yields_feedDirectiveEnd {trimmed : Bool} {pos pos' : Pos} {d d' : Draft Directive}
    (hbase : Grounds base base') (ht : c.Tokens t t') (hd : Echoes Directive.unplaced d d')
    (hfs : c.Stacks base base' fs fs') :
    c.Yields base base' (closeOperand.feedDirectiveEnd t trimmed pos d fs)
      (closeOperand.feedDirectiveEnd t' trimmed pos' d' fs') := by
  unfold closeOperand.feedDirectiveEnd
  rw [ht.kind]
  split
  · exact yields_inside (.cons (.directiveEnd hd) hfs)
  · exact yields_addTemplateItem hbase (echoes_directiveItem hd) hfs
  · exact yields_none

theorem yields_closeOperand (hbase : Grounds base base') (ht : c.Tokens t t')
    (hnewline : t.kind ≠ .newline) (hparts : Echoes (List.map Part.unplaced) parts parts')
    (hx : c.Operands x x') (hfs : c.Stacks base base' fs fs') :
    c.Yields base base' (closeOperand x fs t parts) (closeOperand x' fs' t' parts') := by
  cases hfs with
  | base =>
    rcases hbase.eq_nil_or_exists with ⟨rfl, rfl⟩ | ⟨name, outer, name', outer', rfl, rfl⟩
    · exact yields_none
    · rw [closeOperand_attribute hnewline rfl]
      exact yields_none
  | @cons f f' fs fs' hf hfs =>
    intro r hr
    unfold closeOperand at hr
    dsimp only at hr
    split at hr
    -- An attribute is none of these, and behind the others nothing else can stand.
    all_goals try
      cases hf
      done
    all_goals try
      cases hr
      done
    -- Most tokens lead on to a construct that holds the operand, or complete one that it is part
    -- of.
    all_goals try
      cases hf
      simp only [closeOperand, ht.kind, ‹t.kind = _›]
      first
      | refine yields_inside (.cons ?_ hfs) r hr
        constructor <;> first | assumption | exact .cons (by assumption) (by assumption)
      | exact yields_after (operands_parens (by assumption) ht.stop hx) hfs r hr
      | exact yields_after (operands_index (by assumption) ht.stop hx.expr) hfs r hr
      | exact yields_after (operands_tuple (by assumption) ht.stop
          (List.rel_reverse (.cons hx (by assumption)))) hfs r hr
      | exact yields_after (operands_call (by assumption) ht.stop
          (List.rel_reverse (.cons hx (by assumption)))) hfs r hr
      | exact yields_after (operands_forTuple (by assumption) ht.stop hx .none) hfs r hr
      | exact yields_after (operands_forTuple (by assumption) ht.stop (by assumption)
          (.some hx)) hfs r hr
      | exact yields_after (operands_forObject (by assumption) ht.stop (by assumption) hx
          .none) hfs r hr
      | exact yields_after (operands_forObject (by assumption) ht.stop (by assumption)
          (by assumption) (.some hx)) hfs r hr
    · next hk =>
      cases hf with | value hm hps hy =>
      simp only [closeOperand, ht.kind, hk]
      exact yields_inside (.cons (.key hm (.cons (pairs_mk hy hx) hps)) hfs) r hr
    · next hk =>
      cases hf with | value hm hps hy =>
      simp only [closeOperand, ht.kind, hk]
      have hpairs := List.rel_reverse (.cons (pairs_mk hy hx) hps)
      exact yields_after (operands_object hm ht.stop hpairs) hfs r hr
    -- The token begins the next key of an object.
    · next hcomma hbrace =>
      cases hf with | value hm hps hy =>
      have hkey := Frames.key hm (.cons (pairs_mk hy hx) hps)
      have hbegin := yields_beginOperand ht hparts (.cons hkey hfs) r hr
      simpa [closeOperand, ht.kind, hcomma, hbrace] using hbegin
    · next hk =>
      cases hf with | loopOver ho =>
      cases ho with | tuple hm =>
      simp only [closeOperand, ht.kind, hk]
      exact yields_inside (.cons (.elements (heads_mk hm hx)) hfs) r hr
    · next hk =>
      cases hf with | loopOver ho =>
      cases ho with | object hm =>
      simp only [closeOperand, ht.kind, hk]
      exact yields_inside (.cons (.keys (heads_mk hm hx)) hfs) r hr
    · cases hf with | loopOver ho =>
      cases ho with | directive =>
      refine yields_feedDirectiveEnd hbase ht (hx.expr.map fun e e' he => ?_) hfs r hr
      simp only [Directive.unplaced, he]
    · next hk =>
      cases hf with | interp =>
      simp only [closeOperand, ht.kind, hk]
      exact yields_addTemplateItem hbase (echoes_interpItem hx) hfs r hr
    · cases hf with | directiveIf =>
      refine yields_feedDirectiveEnd hbase ht (hx.expr.map fun e e' he => ?_) hfs r hr
      simp only [Directive.unplaced, he]

/-- An expression does not stand in a header without quotes. -/
theorem Stacks.not_header (hfs : c.Stacks base base' fs fs') (hbase : Grounds base base')
    (type : Token) (labels : List Label) (outer : List Frame) :
    fs ≠ .header type labels :: outer ∧ fs' ≠ .header type labels :: outer := by
  cases hfs with
  | base =>
    rcases hbase.eq_nil_or_exists with ⟨rfl, rfl⟩ | ⟨name, outer, name', outer', rfl, rfl⟩ <;>
      exact ⟨nofun, nofun⟩
  | cons hf hfs => cases hf <;> exact ⟨nofun, nofun⟩

theorem yields_feedAfter (hbase : Grounds base base') (ht : c.Tokens t t')
    (hnewline : t.kind ≠ .newline) (hparts : Echoes (List.map Part.unplaced) parts parts')
    (hx : c.Operands x x') (hfs : c.Stacks base base' fs fs') :
    c.Yields base base' (feedAfter x fs t parts) (feedAfter x' fs' t' parts') := by
  -- Neither reader stands in the header of a block, so both close or extend an operand.
  have hnot := hfs.not_header hbase
  intro r hr
  unfold feedAfter at hr
  split at hr
  · next type labels outer => exact absurd rfl (hnot type labels outer).1
  · unfold feedAfter
    rw [ht.kind]
    split
    · next type labels outer => exact absurd rfl (hnot type labels outer).2
    · split at hr
      · exact yields_inside (.cons (.access hx) hfs) r hr
      · exact yields_inside (.cons (.subscript hx) hfs) r hr
      · obtain ⟨hx, hfs⟩ := settled_reduce 0 hbase hx hfs
        exact yields_inside (.cons (.test hx) hfs) r hr
      · split at hr
        · next op hop =>
          obtain ⟨hx, hfs⟩ := settled_reduce op.level hbase hx hfs
          exact yields_inside (.cons (.binary hx) hfs) r hr
        · obtain ⟨hx, hfs⟩ := settled_settle hbase hx hfs
          exact yields_closeOperand hbase ht hnewline hparts hx hfs r hr

/-- Where the first reader takes a token, the second takes the corresponding one. -/
theorem yields_feed {r r' : Reader} (hbase : Grounds base base') (ht : c.Tokens t t')
    (hnewline : t.kind ≠ .newline) (hparts : Echoes (List.map Part.unplaced) parts parts')
    (hr : c.Readers base base' r r') : c.Yields base base' (r.feed parts t) (r'.feed parts' t') := by
  obtain ⟨operand, fs⟩ := r
  obtain ⟨operand', fs'⟩ := r'
  obtain ⟨hoperand, hfs⟩ := hr
  cases hoperand with
  | none => exact yields_feedOpen hbase ht hparts hfs
  | some hx => exact yields_feedAfter hbase ht hnewline hparts hx hfs

end Steps

end Copies

end ResourceTables.Native
