import ResourceTables.Native.Document
import ResourceTables.Proofs.Ensures
import ResourceTables.Proofs.Newlines

/-!
# Places in native files

Whatever is read from a file carries the path of that file: no place that the reader keeps comes
from anywhere else than the marks it has been given.

* `Item.In file item`: the item and all items inside of it have their places in the file;
* `Reader.In`: so do the items, the block types and the attribute names of the open constructs;
* `Reader.stays_feed`: one token keeps this;
* `ensures_parseItems`: so the items of a whole file have their places in the file.
-/

namespace ResourceTables

/-- The item and the items inside of it have their places in the file. -/
inductive Item.In (file : String) : Item → Prop
  | attribute {a : Attribute} (h : a.pos.file = file) : In file (.attribute a)
  | block {type : String} {labels : List String} {pos : Pos} {items : List Item}
      (hpos : pos.file = file) (hitems : ∀ item ∈ items, In file item) :
      In file (.block type labels pos items)

namespace Native

variable {file : String}

/-! ## Marks and tokens -/

theorem Mark.advance_file (n : Nat) (m : Mark) : (m.advance n).pos.file = m.pos.file := by
  induction n generalizing m with
  | zero => rfl
  | succ n ih =>
    rw [Mark.advance]
    split
    · rfl
    · rw [ih]
      unfold Pos.next
      split <;> rfl

/-- The token begins in the file. -/
def Token.In (file : String) (t : Token) : Prop :=
  t.start.pos.file = file

/-- A token begins where it was looked for. -/
theorem start_of_nextToken? {accepted : List Kind} {m : Mark} {t : Token}
    (h : nextToken? accepted m = some t) : t.start = m := by
  obtain ⟨⟨k, n⟩, -, rfl⟩ := Option.map_eq_some_iff.1 h
  rfl

/-! ## Newlines -/

section Last

variable {P : Token → Prop} {s : Newlines} {t : Token}

/-- The token let through last, if there is one, has the property. -/
def Newlines.LastHas (P : Token → Prop) (s : Newlines) : Prop :=
  ∀ l, s.last = some l → P l

/-- The tokens let through are `t` and newlines at the place of `t` or of the token before, so they
have a property that newlines take over from the tokens at whose places they stand. -/
theorem Newlines.step_has (hP : ∀ u, P u → P u.newlineAt) (hs : s.LastHas P) (ht : P t) :
    (∀ u ∈ (s.step t).1, P u) ∧ (s.step t).2.LastHas P := by
  have hlast : ∀ brackets u, P u → Newlines.LastHas P ⟨brackets, some u⟩ := by
    rintro brackets u hu l ⟨⟩
    exact hu
  have hemits := s.emits_step t
  generalize (s.step t).1 = through, (s.step t).2 = s' at hemits ⊢
  cases hemits with
  | drop => exact ⟨by simp, hs⟩
  | keep | opening | closing | other => exact ⟨by simpa using ht, hlast _ _ ht⟩
  | emptying => exact ⟨by simpa using ⟨ht, hP t ht⟩, hlast _ _ (hP t ht)⟩
  | ending _ _ hl => exact ⟨by simpa using ⟨hP _ (hs _ hl), ht, hP t ht⟩, hlast _ _ (hP t ht)⟩

theorem Newlines.finish_has (hP : ∀ u, P u → P u.newlineAt) (hs : s.LastHas P) :
    ∀ u ∈ s.finish, P u := by
  intro u hu
  unfold finish at hu
  split at hu
  · next l hl =>
    split at hu
    · cases hu
    · obtain rfl := List.mem_singleton.1 hu
      exact hP l (hs l hl)
  · cases hu

end Last

/-! ## Readers -/

/-- What the drafts of items say has its places in the file. -/
def DraftsIn (file : String) (items : List (Draft Item)) : Prop :=
  ∀ d ∈ items, Ensures (Item.In file) d

theorem DraftsIn.cons {d : Draft Item} {items : List (Draft Item)} (hd : Ensures (Item.In file) d)
    (h : DraftsIn file items) : DraftsIn file (d :: items) := by
  intro d' hd'
  rcases List.mem_cons.1 hd' with rfl | hmem
  · exact hd
  · exact h d' hmem

theorem DraftsIn.reverse {items : List (Draft Item)} (h : DraftsIn file items) :
    DraftsIn file items.reverse :=
  fun d hd => h d (List.mem_reverse.1 hd)

/-- What an open construct keeps for the items of its file has its places in the file. -/
def Frame.In (file : String) : Frame → Prop
  | .file items => DraftsIn file items
  | .header type _ => type.In file
  | .block type _ items => type.In file ∧ DraftsIn file items
  | .attribute name => name.In file
  | _ => True

/-- All that the open constructs keep has its places in the file. -/
def FramesIn (file : String) (frames : List Frame) : Prop :=
  ∀ f ∈ frames, f.In file

/-- All that the reader keeps has its places in the file. -/
def Reader.In (file : String) (r : Reader) : Prop :=
  FramesIn file r.frames

@[simp]
theorem draftsIn_nil : DraftsIn file [] := by
  simp [DraftsIn]

@[simp]
theorem framesIn_nil : FramesIn file [] := by
  simp [FramesIn]

@[simp]
theorem framesIn_cons {f : Frame} {frames : List Frame} :
    FramesIn file (f :: frames) ↔ f.In file ∧ FramesIn file frames := by
  simp [FramesIn]

namespace Reader

/-- If there is a reader, all that it keeps has its places in the file. -/
def StaysIn (file : String) (r : Option Reader) : Prop :=
  ∀ r', r = some r' → r'.In file

section Steps

variable {frames outer : List Frame} {t : Token} {heredoc : Draft (List Part)} {x : Operand}

@[simp]
theorem stays_none : StaysIn file none := by
  simp [StaysIn]

@[simp]
theorem stays_after : StaysIn file (after x frames) ↔ FramesIn file frames := by
  simp [StaysIn, after, Reader.In]

@[simp]
theorem stays_inside : StaysIn file (inside frames) ↔ FramesIn file frames := by
  simp [StaysIn, inside, Reader.In]

theorem stays_addItem {d : Draft Item} (hd : Ensures (Item.In file) d)
    (h : FramesIn file frames) : StaysIn file (addItem d frames) := by
  unfold addItem
  split
  · rw [framesIn_cons] at h
    simpa [Frame.In, h.2] using h.1.cons hd
  · rw [framesIn_cons] at h
    simpa [Frame.In, h.2, h.1.1] using h.1.2.cons hd
  · exact stays_none

theorem stays_addTemplateItem {d : Draft TemplateItem} (h : FramesIn file frames) :
    StaysIn file (addTemplateItem d frames) := by
  unfold addTemplateItem
  split <;> simp_all [Frame.In]

/-- A block has its place where its type stands. -/
theorem ensures_blockItem {type : Token} (labels : List Label) {items : List (Draft Item)}
    (htype : type.In file) (hitems : DraftsIn file items) :
    Ensures (Item.In file) (blockItem type labels items) := by
  refine .bind .trivial fun found _ => ?_
  refine .bind (.mapM hitems) fun inner hinner => ?_
  exact .bind .trivial fun texts _ => .ok (.block htype hinner)

theorem stays_beginOperand (h : FramesIn file frames) :
    StaysIn file (beginOperand frames t heredoc) := by
  unfold beginOperand
  split <;> simp_all [Frame.In]

theorem stays_feedDirective {before : Bool} (h : FramesIn file outer) :
    StaysIn file (feedDirective before outer t) := by
  unfold feedDirective
  split <;> try split
  all_goals simp_all [Frame.In]

theorem stays_feedTemplate (h : FramesIn file frames) : StaysIn file (feedTemplate frames t) := by
  unfold feedTemplate
  split
  · exact stays_addTemplateItem h
  · exact stays_addTemplateItem h
  all_goals simp_all [Frame.In]

theorem stays_feedOpen (ht : t.In file) (h : FramesIn file frames) :
    StaysIn file (feedOpen frames t heredoc) := by
  unfold feedOpen
  split
  · exact stays_none
  · next frame outer =>
    obtain ⟨hframe, houter⟩ := framesIn_cons.1 h
    split
    rotate_right
    -- Any other token is the first one of an operand, or cannot stand there.
    · split
      · exact stays_beginOperand h
      · exact stays_none
    -- Most tokens lead on to a construct that keeps nothing for items, or the token itself.
    all_goals try
      simp_all [Frame.In, stays_addTemplateItem, stays_feedDirective, stays_feedTemplate]
      done
    · exact stays_addItem (ensures_blockItem _ hframe.1 hframe.2.reverse) houter

/-- Putting operators together takes constructs away and keeps the others as they are. -/
theorem framesIn_reduce (level : Nat) (h : FramesIn file frames) :
    FramesIn file (reduce level x frames).2 := by
  fun_induction reduce level x frames with
  | case1 x start op outer ih => exact ih (framesIn_cons.1 h).2
  | case2 x left op outer hlevel ih => exact ih (framesIn_cons.1 h).2
  | case3 x left op outer hlevel => exact h
  | case4 x frames => exact h

theorem framesIn_settle (h : FramesIn file frames) : FramesIn file (settle x frames).2 := by
  fun_induction settle x frames with
  | case1 x start op outer ih => exact ih (framesIn_cons.1 h).2
  | case2 x left op outer ih => exact ih (framesIn_cons.1 h).2
  | case3 x cond yes outer ih => exact ih (framesIn_cons.1 h).2
  | case4 x frames => exact h

theorem stays_feedDirectiveEnd {before : Bool} {pos : Pos} {d : Draft Directive}
    (h : FramesIn file outer) :
    StaysIn file (closeOperand.feedDirectiveEnd t before pos d outer) := by
  unfold closeOperand.feedDirectiveEnd
  split
  · simpa [Frame.In] using h
  · exact stays_addTemplateItem h
  · exact stays_none

theorem stays_closeOperand (h : FramesIn file frames) :
    StaysIn file (closeOperand x frames t heredoc) := by
  unfold closeOperand
  split
  · exact stays_none
  · next frame outer =>
    obtain ⟨hframe, houter⟩ := framesIn_cons.1 h
    split
    rotate_right
    -- Any other token cannot stand there.
    · exact stays_none
    all_goals try
      simp_all [Frame.In, stays_addTemplateItem, stays_beginOperand, stays_feedDirectiveEnd]
      done
    -- An attribute has its place where its name stands.
    · exact stays_addItem (.map .trivial fun _ _ => .attribute hframe) houter

theorem stays_feedAfter (ht : t.In file) (h : FramesIn file frames) :
    StaysIn file (feedAfter x frames t heredoc) := by
  unfold feedAfter
  split
  · next type labels outer => exact stays_feedOpen ht (by simpa [Frame.In] using h)
  · split
    · simpa [Frame.In] using h
    · simpa [Frame.In] using h
    · simpa [Frame.In] using framesIn_reduce 0 h
    · split
      · next op _ => simpa [Frame.In] using framesIn_reduce op.level h
      · exact stays_closeOperand (framesIn_settle h)

/-- What a reader keeps has its places in the file after a token of the file as it had before. -/
theorem stays_feed {r : Reader} (hr : r.In file) (ht : t.In file) :
    StaysIn file (r.feed heredoc t) := by
  unfold feed
  split
  · exact stays_feedAfter ht hr
  · exact stays_feedOpen ht hr

end Steps

theorem ensures_feedAll {r : Reader} {ts : List Token} (heredoc : Draft (List Part))
    (hr : r.In file) (hts : ∀ t ∈ ts, t.In file) :
    Ensures (Reader.In file) (r.feedAll heredoc ts) := by
  induction ts generalizing r with
  | nil => exact .ok hr
  | cons t ts ih =>
    rw [feedAll]
    cases hfeed : r.feed heredoc t with
    | none => exact .error
    | some r' =>
      have hr' : r'.In file := stays_feed hr (hts t (by simp)) r' hfeed
      exact ih hr' fun u hu => hts u (by simp [hu])

end Reader

/-! ## Files -/

theorem ensures_finish {form : Form} {first : Pos} {s : Newlines} {r : Reader}
    (hs : s.LastHas (Token.In file)) (hr : r.In file) :
    Ensures (Reader.In file) (finish form first s r) := by
  unfold finish
  refine .bind (r.ensures_feedAll _ hr ?_) fun r' hr' => ?_
  · cases form with
    | file => exact Newlines.finish_has (fun _ hu => hu) hs
    | template => simp
  · dsimp only
    split
    · exact .ok hr'
    · exact .error

/-- Reading on from a mark of the file keeps the places of what is read in the file. -/
theorem ensures_readFrom {fuel : Nat} {form : Form} {first : Pos} {s : Newlines} {r : Reader}
    {m : Mark} (hs : s.LastHas (Token.In file)) (hr : r.In file) (hm : m.pos.file = file) :
    Ensures (Reader.In file) (readFrom fuel form first s r m) := by
  induction fuel generalizing s r m with
  | zero => exact .error
  | succ fuel ih =>
    rw [readFrom]
    split
    · exact ensures_finish hs hr
    · split
      · exact .error
      · next t ht =>
        have htoken : t.In file := by
          rw [Token.In, start_of_nextToken? ht]
          exact hm
        have hnext : ∀ n, (m.advance n).pos.file = file := fun n => by
          rw [Mark.advance_file]
          exact hm
        -- A blank or a comment is passed over, any other token is taken.
        dsimp only
        split
        · exact ih hs hr (hnext _)
        · obtain ⟨hthrough, hs'⟩ := Newlines.step_has (fun _ hu => hu) hs htoken
          split
          · next r' hr' => exact ih hs' (r.ensures_feedAll _ hr hthrough r' hr') (hnext _)
          · exact .error

/-- All items of a file, at any depth, have their places in the file. -/
theorem ensures_parseItems (file text : String) :
    Ensures (fun items => ∀ item ∈ items, item.In file) (parseItems file text) := by
  have hstart : Reader.In file .file := by simp [Reader.In, Reader.file, Frame.In]
  have hlast : Newlines.LastHas (Token.In file) {} := fun l hl => nomatch hl
  refine .bind (ensures_readFrom hlast hstart rfl) fun r hr => ?_
  unfold Reader.items?
  split
  · next items =>
    rw [Reader.In, framesIn_cons] at hr
    exact .mapM hr.1.reverse
  · exact .ok (by simp)

end Native

end ResourceTables
