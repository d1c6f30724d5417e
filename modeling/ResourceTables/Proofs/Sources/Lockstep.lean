import ResourceTables.Proofs.Sources.Cuts
import ResourceTables.Proofs.Sources.Stacks

/-!
# Reading on in two copies of a text

Where two readers have read the same characters and the same characters come next, they read on in
step. Newlines are dropped in the same places, and a heredoc says the same in both copies.

* `Copies.At.advance`, `Copies.At.tokens`: the next place and the next token;
* `Newlines.Like`, `Newlines.step_like`: the same newlines are dropped;
* `Copies.feeds_step`: both readers take what is let through for a token;
* `Heredoc.length_content_lt`: the template of a heredoc is shorter than the heredoc;
* `Copies.Repeats.echoes_heredocParts`: heredocs with the same characters say the same;
* `echoes_parseTemplate`: a template says the same wherever it stands.
-/

namespace ResourceTables.Native

/-! ## Places and tokens -/

namespace Copies

open Reader

variable {c : Copies} {k n : Nat} {m m' : Mark} {t : Token} {accepted : List Kind}

theorem At.advance (h : c.At k m m') (hn : k + n ≤ c.text.length) :
    c.At (k + n) (m.advance n) (m'.advance n) := by
  have hdrop : n ≤ (c.text.drop k).length := by
    rw [List.length_drop]
    omega
  have hlength : ∀ behind : List Char, n ≤ (c.text.drop k ++ behind).length := by
    intro behind
    rw [List.length_append]
    omega
  refine ⟨hn, ?_, ?_, ?_, ?_⟩
  · rw [Mark.advance_offset (h.rest ▸ hlength _), h.offset, Nat.add_assoc]
  · rw [Mark.advance_rest, h.rest, List.drop_append_of_le_length hdrop, List.drop_drop]
  · rw [Mark.advance_offset (h.rest' ▸ hlength _), h.offset', Nat.add_assoc]
  · rw [Mark.advance_rest, h.rest', List.drop_append_of_le_length hdrop, List.drop_drop]

/-- A token that ends within the text is the same in both copies. -/
theorem At.tokens (h : c.At k m m') (ht : nextToken? accepted m = some t)
    (hstop : t.stop ≤ c.before + c.text.length) : c.Tokens t (t.movedTo m') := by
  obtain ⟨n, htoken, -, -⟩ := exists_length ht
  have hlast : t.stop = m.offset + n := by rw [htoken]; rfl
  have hstart : t.start = m := start_of_nextToken? ht
  refine ⟨rfl, rfl, ⟨k, hstart ▸ h⟩, k + n, ?_, ?_, ?_⟩
  · rw [hlast, h.offset] at hstop
    omega
  · rw [hlast, h.offset, Nat.add_assoc]
  · rw [Token.movedTo, hstart, hlast, Nat.add_sub_cancel_left, h.offset', Nat.add_assoc]

theorem stop_movedTo (ht : nextToken? accepted m = some t) (m' : Mark) :
    (t.movedTo m').stop - m'.offset = t.stop - m.offset := by
  rw [Token.movedTo, start_of_nextToken? ht, Nat.add_sub_cancel_left]

/-- Behind a token fewer characters are left. -/
theorem length_rest_advance_lt (ht : nextToken? accepted m = some t) :
    (m.advance (t.stop - m.offset)).rest.length < m.rest.length := by
  obtain ⟨n, htoken, hpos, hn⟩ := exists_length ht
  rw [htoken, Mark.stop_token, Mark.advance_rest, List.length_drop]
  omega

/-- Behind a token both places are behind the same characters. -/
theorem At.next (h : c.At k m m') (ht : nextToken? accepted m = some t)
    (hstop : t.stop ≤ c.before + c.text.length) :
    c.At (k + (t.stop - m.offset)) (m.advance (t.stop - m.offset))
        (m'.advance ((t.movedTo m').stop - m'.offset)) ∧
      (m'.advance ((t.movedTo m').stop - m'.offset)).rest.length < m'.rest.length := by
  obtain ⟨n, htoken, hpos, -⟩ := exists_length ht
  have hlast : t.stop - m.offset = n := by rw [htoken, Mark.stop_token]
  have hlast' : (t.movedTo m').stop - m'.offset = n := (stop_movedTo ht m').trans hlast
  have hn : k + n ≤ c.text.length := by
    have hoffset := h.offset
    have hstop' : t.stop = m.offset + n := by rw [htoken]; rfl
    omega
  rw [hlast, hlast']
  refine ⟨h.advance hn, ?_⟩
  rw [Mark.advance_rest, List.length_drop, h.rest', List.length_append, List.length_drop]
  omega

theorem Frames.accepts {f f' : Frame} (hf : c.Frames f f') : f'.accepts = f.accepts := by
  cases hf with
  | tuple hm hxs => cases hxs <;> rfl
  | key hm hps => cases hps <;> rfl
  | @directiveEnd trim pos pos' d d' settled hd => cases settled <;> rfl
  | _ => rfl

/-- Both readers accept the same kinds. -/
theorem Readers.accepts {base base' : List Frame} {r r' : Reader} (hbase : Grounds base base')
    (hr : c.Readers base base' r r') : r'.accepts = r.accepts := by
  obtain ⟨operand, fs⟩ := r
  obtain ⟨operand', fs'⟩ := r'
  obtain ⟨hoperand, hfs⟩ := hr
  cases hoperand with
  | some hx => rfl
  | none =>
    cases hfs with
    | base =>
      rcases hbase.eq_nil_or_exists with ⟨rfl, rfl⟩ | ⟨name, outer, name', outer', rfl, rfl⟩ <;>
        rfl
    | cons hf hfs => exact hf.accepts

end Copies

/-! ## Newlines -/

namespace Newlines

variable {outer : List Bracket} {s s' : Newlines} {t t' : Token}

/-- Both have let through a token of the same kind last, and have the same open brackets, apart from
those in `outer` around the first. -/
structure Like (outer : List Bracket) (s s' : Newlines) : Prop where
  /-- The open brackets. -/
  brackets : s.brackets = s'.brackets ++ outer
  /-- The kind of the last token. -/
  last : s'.last.map Token.kind = s.last.map Token.kind

theorem Like.symm (h : Like [] s s') : Like [] s' s :=
  ⟨by simpa using h.brackets.symm, h.last.symm⟩

theorem Like.lastIs (h : Like outer s s') (k : Kind) : s'.lastIs k = s.lastIs k := by
  have hany : ∀ s : Newlines, s.lastIs k = (s.last.map Token.kind).any (· == k) := by
    rintro ⟨brackets, _ | last⟩ <;> rfl
  rw [hany, hany, h.last]

theorem Like.endsItem (h : Like outer s s') (houter : ∀ b ∈ outer, b = .block) :
    s'.endsItem = s.endsItem := by
  have hsome : s'.last.isSome = s.last.isSome := by
    rw [← Option.isSome_map (f := Token.kind), h.last, Option.isSome_map]
  have hhead : s'.brackets.head?.all (· == .block) = s.brackets.head?.all (· == .block) := by
    rw [h.brackets]
    cases s'.brackets with
    | cons b inner => rfl
    | nil =>
      cases outer with
      | nil => rfl
      | cons b outer => simp [houter b (by simp)]
  rw [Newlines.endsItem, Newlines.endsItem, hhead, hsome, h.lastIs]

theorem Like.opens (h : Like outer s s') (k : Kind) : s'.opens k = s.opens k := by
  unfold Newlines.opens
  rw [h.lastIs, h.lastIs]

/-- A newline is dropped or let through alone. -/
theorem step_newline (s : Newlines) (ht : t.kind = .newline) :
    (s.step t).1 = [] ∨ (s.step t).1 = [t] := by
  have hemits := s.emits_step t
  generalize (s.step t).1 = through, (s.step t).2 = s' at hemits ⊢
  cases hemits with
  | drop => exact .inl rfl
  | keep | opening | closing | other => exact .inr rfl
  | emptying hcloses | ending hcloses => exact absurd ht (ne_newline_of_closes hcloses)

/-- The same happens to both with tokens of the same kind, unless a bracket is closed that is open
around the first only. What is let through is nothing or the token, or it ends with a newline behind
the end of a block. -/
theorem step_like (h : Like outer s s') (ht : t'.kind = t.kind)
    (houter : ∀ b ∈ outer, b = .block)
    (hcloses : closes t.kind = true → outer = [] ∨ s'.brackets ≠ []) :
    Like outer (s.step t).2 (s'.step t').2 ∧
      ((s.step t).1 = [] ∧ (s'.step t').1 = [] ∨ (s.step t).1 = [t] ∧ (s'.step t').1 = [t'] ∨
        ∃ before, (∀ u ∈ before, u.kind = .newline) ∧
          (s.step t).1 = before ++ [t, t.newlineAt]) := by
  have hlast : (some t').map Token.kind = (some t).map Token.kind := congrArg some ht
  unfold step
  rw [ht, h.endsItem houter, h.opens]
  split
  · split
    · exact ⟨⟨h.brackets, hlast⟩, .inr (.inl ⟨rfl, rfl⟩)⟩
    · exact ⟨h, .inl ⟨rfl, rfl⟩⟩
  · split
    · exact ⟨⟨congrArg _ h.brackets, hlast⟩, .inr (.inl ⟨rfl, rfl⟩)⟩
    · split
      · next hclose =>
        obtain ⟨brackets, last⟩ := s
        obtain ⟨brackets', last'⟩ := s'
        -- The brackets of the second are innermost, so it is one of these that is closed.
        obtain rfl : brackets = brackets' ++ outer := h.brackets
        rcases brackets' with _ | ⟨_ | _ | _, inner⟩
        · obtain rfl := (hcloses hclose).resolve_right (by simp)
          exact ⟨⟨rfl, hlast⟩, .inr (.inl ⟨rfl, rfl⟩)⟩
        · refine ⟨⟨rfl, rfl⟩, .inr (.inr ⟨_, fun u hu => ?_, rfl⟩)⟩
          split at hu
          · split at hu
            · cases hu
            · obtain rfl := List.mem_singleton.1 hu
              rfl
          · cases hu
        · exact ⟨⟨rfl, hlast⟩, .inr (.inl ⟨rfl, rfl⟩)⟩
        · exact ⟨⟨rfl, hlast⟩, .inr (.inl ⟨rfl, rfl⟩)⟩
      · exact ⟨⟨h.brackets, hlast⟩, .inr (.inl ⟨rfl, rfl⟩)⟩

end Newlines

namespace Copies

open Reader

section Steps

variable {c : Copies} {base base' : List Frame} {outer : List Bracket} {s s' : Newlines}
  {r r' r₁ : Reader} {t t' : Token} {parts parts' : Draft (List Part)}

/-- If the first reader takes what is let through for a token, and that is no newline, then so does
the second. -/
theorem feeds_step (hbase : Grounds base base') (hs : s.Like outer s')
    (hr : c.Readers base base' r r') (ht : c.Tokens t t')
    (hparts : Echoes (List.map Part.unplaced) parts parts') (houter : ∀ b ∈ outer, b = .block)
    (hcloses : Newlines.closes t.kind = true → outer = [] ∨ s'.brackets ≠ [])
    (hnewline : t.kind = .newline → (s.step t).1 = [])
    (hblock : ∀ before, (∀ u ∈ before, u.kind = .newline) →
      (s.step t).1 ≠ before ++ [t, t.newlineAt])
    (h : r.feedAll parts (s.step t).1 = .ok r₁) :
    (s.step t).2.Like outer (s'.step t').2 ∧
      ∃ r₁', r'.feedAll parts' (s'.step t').1 = .ok r₁' ∧ c.Readers base base' r₁ r₁' := by
  obtain ⟨hlike, ⟨hnone, hnone'⟩ | ⟨hone, hone'⟩ | ⟨before, hnewlines, hbefore⟩⟩ :=
    Newlines.step_like hs ht.kind houter hcloses
  · rw [hnone] at h
    cases h
    exact ⟨hlike, r', by rw [hnone']; rfl, hr⟩
  · -- The token is let through alone, so it is no newline.
    have hkind : t.kind ≠ .newline := by
      intro hkind
      rw [hnewline hkind] at hone
      cases hone
    rw [hone] at h
    obtain ⟨r₂, hfeed, hr₂⟩ := of_feedAll_cons h
    cases hr₂
    obtain ⟨r₁', hfeed', hr₁⟩ := yields_feed hbase ht hkind hparts hr r₁ hfeed
    exact ⟨hlike, r₁', by simp only [hone', feedAll, hfeed'], hr₁⟩
  · exact absurd hbefore (hblock before hnewlines)

end Steps

end Copies

/-! ## Templates -/

namespace Heredoc

variable {cs : List Char}

theorem splitLines_ne_nil (cs : List Char) : splitLines cs ≠ [] := by
  cases cs with
  | nil => simp [splitLines]
  | cons c cs =>
    rw [splitLines]
    split
    · simp
    · split <;> simp

theorem joinLines_splitLines (cs : List Char) : joinLines (splitLines cs) = cs := by
  induction cs with
  | nil => rfl
  | cons c cs ih =>
    have hne := splitLines_ne_nil cs
    rw [splitLines]
    generalize splitLines cs = lines at ih hne
    cases lines with
    | nil => exact absurd rfl hne
    | cons line lines =>
      split
      · next hc =>
        rw [joinLines, ih, hc]
        · rfl
        · simp
      · cases lines with
        | nil => exact congrArg (c :: ·) ih
        | cons next lines => exact congrArg (c :: ·) ih

theorem length_joinLines_drop_le (n : Nat) (lines : List (List Char)) :
    (joinLines (lines.map (List.drop n))).length ≤ (joinLines lines).length := by
  match lines with
  | [] => exact Nat.le_refl _
  | [line] => simp [joinLines]
  | line :: next :: lines =>
    have hlines := length_joinLines_drop_le n (next :: lines)
    simp only [List.map_cons, joinLines, List.length_append, List.length_cons, List.length_drop]
      at hlines ⊢
    omega

/-- The template of a heredoc is shorter than the heredoc. -/
theorem length_content_lt (h : cs ≠ []) : (content cs).length < cs.length := by
  unfold content
  split
  · exact List.length_pos_iff.2 h
  · next indented marker n hheader =>
    obtain ⟨header, rest, rfl, rfl, ⟨-, -, gap, eol, -, -, rfl⟩⟩ := exists_header hheader
    rw [List.drop_left]
    have hbody : (completeLines rest).length ≤ rest.length := by
      rw [completeLines, List.length_reverse]
      exact (List.dropWhile_suffix _).length_le.trans_eq List.length_reverse
    have hdedent : (dedent (completeLines rest)).length ≤ (completeLines rest).length := by
      have hjoined := length_joinLines_drop_le (sharedIndentation (splitLines (completeLines rest)))
        (splitLines (completeLines rest))
      rwa [joinLines_splitLines] at hjoined
    simp only [List.length_append, List.length_cons]
    split <;> omega

end Heredoc

/-- So it is shorter than the token. -/
theorem length_content_lt_of_nextToken? {accepted : List Kind} {m : Mark} {t : Token}
    (ht : nextToken? accepted m = some t) :
    (Heredoc.content t.text.toList).length < t.stop - m.offset := by
  obtain ⟨n, htoken, hpos, hn⟩ := exists_length ht
  have htext : t.text.toList.length = n := by
    rw [htoken, Mark.token, String.toList_ofList, List.length_take_of_le hn]
  have hne : t.text.toList ≠ [] := by
    rw [← List.length_pos_iff, htext]
    exact hpos
  rw [htoken, Mark.stop_token, ← htoken, ← htext]
  exact Heredoc.length_content_lt hne

namespace Copies

open Reader

section Templates

variable {c : Copies} {k : Nat} {s s' : Newlines} {r r' r₁ : Reader} {t t' : Token} {m m' : Mark}
  {first first' : Pos} {fuel fuel' : Nat} {parts parts' : Draft (List Part)}

/-- In a template no newline is let through. -/
theorem Readers.feed_newline (hr : c.Readers [] [] r r') (ht : t.kind = .newline) :
    r.feed parts t = none := by
  -- A construct in a template is no body of a file or a block.
  have hnot : ∀ {f fs fs'}, c.Stacks [] [] (f :: fs) fs' → f.isInner = true ∨
      ∃ items, f = .template items := by
    rintro f fs fs' (_ | ⟨hf, -⟩)
    cases hf <;> simp [Frame.isInner]
  cases hfeed : r.feed parts t with
  | none => rfl
  | some r₁ =>
    rcases of_feed_newline ht hfeed with ⟨-, hbody, -⟩ | ⟨x, y, name, outer, hx, hsettle, -⟩
    · have hframes := hr.frames
      generalize r.frames = frames at hbody hframes
      unfold inBody at hbody
      split at hbody
      · rcases hnot hframes with hinner | ⟨_, ⟨⟩⟩
        cases hinner
      · rcases hnot hframes with hinner | ⟨_, ⟨⟩⟩
        cases hinner
      · cases hbody
    · have hoperand := hr.operand
      rw [hx] at hoperand
      generalize hx' : r'.operand = operand' at hoperand
      cases hoperand with
      | some hsame =>
        have hsettled := (settled_settle (.inl ⟨rfl, rfl⟩) hsame hr.frames).2
        rw [hsettle] at hsettled
        rcases hnot hsettled with hinner | ⟨_, ⟨⟩⟩
        cases hinner

/-- No newline is let through for a token that is read in a template. -/
theorem Readers.through (hr : c.Readers [] [] r r') (ht : c.Tokens t t')
    (hparts : Echoes (List.map Part.unplaced) parts parts')
    (h : r.feedAll parts (s.step t).1 = .ok r₁) :
    (t.kind = .newline → (s.step t).1 = []) ∧
      ∀ before, (∀ u ∈ before, u.kind = .newline) →
        (s.step t).1 ≠ before ++ [t, t.newlineAt] := by
  -- In a template the reader takes no newline.
  have hnone : ∀ {r₂ r₂' : Reader} {u ts}, c.Readers [] [] r₂ r₂' → u.kind = .newline →
      r₂.feedAll parts (u :: ts) ≠ .ok r₁ := by
    intro r₂ r₂' u ts hr₂ hu hfeed
    obtain ⟨r₃, hr₃, -⟩ := of_feedAll_cons hfeed
    rw [hr₂.feed_newline hu] at hr₃
    cases hr₃
  constructor
  · intro hk
    rcases Newlines.step_newline s hk with hstep | hstep
    · exact hstep
    · rw [hstep] at h
      exact absurd h (hnone hr hk)
  · -- The newline behind the token, or in front of it, could not be taken.
    intro before hbefore hstep
    rw [hstep] at h
    cases before with
    | cons u before => exact hnone hr (hbefore u (by simp)) h
    | nil =>
      by_cases hk : t.kind = .newline
      · exact hnone hr hk h
      · obtain ⟨r₂, hfeed, hr₂⟩ := of_feedAll_cons h
        obtain ⟨r₂', -, hsame⟩ := yields_feed (.inl ⟨rfl, rfl⟩) ht hk hparts hr r₂ hfeed
        exact hnone hsame rfl hr₂

/-- A text that is read twice as a whole. -/
def whole (text : List Char) : Copies :=
  ⟨text, 0, [], 0, []⟩

theorem whole_at (text : List Char) (file file' : String) (line line' : Nat) :
    (whole text).At 0 (.start file line text) (.start file' line' text) :=
  ⟨Nat.zero_le _, rfl, (List.append_nil text).symm, rfl, (List.append_nil text).symm⟩

theorem whole_template (text : List Char) :
    (whole text).Readers [] [] Reader.template Reader.template :=
  ⟨.none, .cons (.template .nil) .base⟩

/-- What cannot be fed is at fault. -/
theorem isMalformed_of_feedAll {ts : List Token} {e : ReadError}
    (h : r.feedAll parts ts = .error e) : e.isMalformed = true := by
  induction ts generalizing r with
  | nil => cases h
  | cons t ts ih =>
    unfold feedAll at h
    split at h
    · exact ih h
    · cases h
      rfl

/-- Both readers take what is let through for a token that is read in a template, or none does. -/
theorem Readers.matches_feedAll {text : List Char} (hs : s.Like [] s')
    (hr : (whole text).Readers [] [] r r')
    (ht : (whole text).Tokens t t') (hparts : Echoes (List.map Part.unplaced) parts parts') :
    Matches ReadError.isMalformed ((whole text).Readers [] []) (r.feedAll parts (s.step t).1)
      (r'.feedAll parts' (s'.step t').1) := by
  have hstep : ∀ {s s' : Newlines} {r r' r₁ t t' parts parts'}, s.Like [] s' →
      (whole text).Readers [] [] r r' → (whole text).Tokens t t' →
      Echoes (List.map Part.unplaced) parts parts' → r.feedAll parts (s.step t).1 = .ok r₁ →
      ∃ r₁', r'.feedAll parts' (s'.step t').1 = .ok r₁' ∧ (whole text).Readers [] [] r₁ r₁' := by
    intro s s' r r' r₁ t t' parts parts' hs hr ht hparts h
    obtain ⟨hnewline, hblock⟩ := hr.through ht hparts h
    exact (feeds_step (.inl ⟨rfl, rfl⟩) hs hr ht hparts (by simp) (fun _ => .inl rfl) hnewline
      hblock h).2
  cases hfeed : r.feedAll parts (s.step t).1 with
  | ok r₁ =>
    obtain ⟨r₁', hfeed', hr₁⟩ := hstep hs hr ht hparts hfeed
    rw [hfeed']
    exact .ok hr₁
  -- What the second takes the first does, as the relation can be turned around.
  | error e =>
    cases hfeed' : r'.feedAll parts' (s'.step t').1 with
    | error e' =>
      exact .error ((isMalformed_of_feedAll hfeed).trans (isMalformed_of_feedAll hfeed').symm)
    | ok r₁' =>
      obtain ⟨r₁, hfeed₁, -⟩ := hstep hs.symm hr.swap ht.swap hparts.symm hfeed'
      rw [hfeed] at hfeed₁
      cases hfeed₁

/-- Both readers have read their template to its end, or none of them has. -/
theorem Readers.template_cases (hr : c.Readers [] [] r r') :
    (∃ items items', r = ⟨none, [.template items]⟩ ∧ r' = ⟨none, [.template items']⟩ ∧
        Items items items') ∨ r.parts? = none ∧ r'.parts? = none := by
  obtain ⟨operand, fs⟩ := r
  obtain ⟨operand', fs'⟩ := r'
  obtain ⟨hoperand, hfs⟩ := hr
  cases hoperand with
  | some hx => exact .inr ⟨rfl, rfl⟩
  | none =>
    cases hfs with
    | base => exact .inr ⟨rfl, rfl⟩
    | cons hf hfs =>
      cases hfs with
      | base =>
        cases hf with
        | template hds => exact .inl ⟨_, _, rfl, rfl, hds⟩
        | _ => exact .inr ⟨rfl, rfl⟩
      | cons hf' hfs => cases hf <;> exact .inr ⟨rfl, rfl⟩

theorem unplaced_decodeTemplateItem (i : TemplateItem) :
    (decodeTemplateItem i).unplaced = decodeTemplateItem i.unplaced := by
  cases i <;> rfl

/-- The templates say the same. -/
theorem Readers.echoes_parts? (hr : c.Readers [] [] r r') :
    Echoes (List.map Part.unplaced) ((r.parts?).getD (.ok [])) ((r'.parts?).getD (.ok [])) := by
  rcases hr.template_cases with ⟨items, items', rfl, rfl, hitems⟩ | ⟨hnone, hnone'⟩
  · refine .bind (.mapM (F := id) (G := id) (List.rel_reverse hitems)) fun is is' his => ?_
    refine Part.echoes_ofItems ?_
    simp only [List.map_map, Function.comp_def, unplaced_decodeTemplateItem]
    simpa only [List.map_map, Function.comp_def] using congrArg (List.map decodeTemplateItem) his
  · rw [hnone, hnone']
    exact .ok rfl

/-- What is read of a template with enough fuel in one place is read in any other, with whatever
fuel is enough there. -/
def Repeats (fuel : Nat) : Prop :=
  ∀ fuel' text first first' s s' r r' m m' k, s.Like [] s' → (whole text).Readers [] [] r r' →
    (whole text).At k m m' → m.rest.length < fuel → m'.rest.length < fuel' →
      Matches ReadError.isMalformed ((whole text).Readers [] [])
        (readFrom fuel .template first s r m) (readFrom fuel' .template first' s' r' m')

/-- A heredoc says the same in another place if its template is read there. -/
theorem echoes_heredocParts_of {read read' : Mark → Except ReadError Reader}
    (hkind : t'.kind = t.kind) (htext : t'.text = t.text)
    (h : ∀ file line file' line', Matches ReadError.isMalformed
      ((whole (Heredoc.content t.text.toList)).Readers [] [])
      (read (.start file line (Heredoc.content t.text.toList)))
      (read' (.start file' line' (Heredoc.content t.text.toList)))) :
    Echoes (List.map Part.unplaced) (heredocParts read t) (heredocParts read' t') := by
  unfold heredocParts
  rw [hkind, htext]
  split
  · exact (h _ _ _ _).bind fun r r' hr => hr.echoes_parts?
  · exact .ok rfl

theorem Repeats.echoes_heredocParts (h : Repeats fuel) (m' : Mark)
    (ht : nextToken? accepted m = some t) (hfuel : t.stop - m.offset ≤ fuel)
    (hfuel' : t.stop - m.offset ≤ fuel') :
    Echoes (List.map Part.unplaced)
      (heredocParts (fun m => readFrom fuel .template m.pos {} Reader.template m) t)
      (heredocParts (fun m => readFrom fuel' .template m.pos {} Reader.template m)
        (t.movedTo m')) := by
  have hcontent := length_content_lt_of_nextToken? ht
  refine echoes_heredocParts_of rfl rfl fun file line file' line' => ?_
  exact h _ _ _ _ _ _ _ _ _ _ _ ⟨rfl, rfl⟩ (whole_template _) (whole_at _ _ _ _ _)
    (hcontent.trans_le hfuel) (hcontent.trans_le hfuel')

theorem Readers.matches_finish (hr : c.Readers [] [] r r') :
    Matches ReadError.isMalformed (c.Readers [] []) (finish .template first s r)
      (finish .template first' s' r') := by
  have hfinish : ∀ first s r, finish .template first s r =
      if r.parts?.isSome then .ok r else .error (endOfFile first s) := fun _ _ _ => rfl
  rw [hfinish, hfinish]
  rcases hr.template_cases with ⟨items, items', rfl, rfl, -⟩ | ⟨hnone, hnone'⟩
  · exact .ok hr
  · rw [hnone, hnone']
    exact .error rfl

/-- A template that is read in one place is read in the other. The induction is on the fuel, which
the templates of heredocs use as well. -/
theorem repeats (fuel : Nat) : Repeats fuel := by
  induction fuel with
  | zero =>
    intro _ _ _ _ _ _ _ _ _ _ _ _ _ _ hfuel
    cases hfuel
  | succ fuel ih =>
    intro fuel' text first first' s s' r r' m m' k hs hr hm hfuel hfuel'
    cases fuel' with
    | zero => cases hfuel'
    | succ fuel' =>
      have hsame : m'.rest = m.rest := hm.rest'.trans hm.rest.symm
      rw [readFrom, readFrom, hsame, hr.accepts (.inl ⟨rfl, rfl⟩)]
      split
      · exact hr.matches_finish
      · cases ht : nextToken? r.accepts m with
        | none =>
          cases ht' : nextToken? r.accepts m' with
          | none => exact .error rfl
          | some t' => simp [nextToken?_movedTo ht' hsame.symm] at ht
        | some t =>
          have hstop : t.stop ≤ (whole text).before + (whole text).text.length := by
            obtain ⟨n, htoken, -, hn⟩ := exists_length ht
            have hlast : t.stop = m.offset + n := by rw [htoken]; rfl
            have hle := hm.le
            rw [hm.rest, List.length_append, List.length_drop] at hn
            rw [hlast, hm.offset]
            simp only [whole, List.length_nil] at hn hle ⊢
            omega
          obtain ⟨hnext, hlength'⟩ := hm.next ht hstop
          have hlength := (length_rest_advance_lt ht).trans_le (Nat.le_of_lt_succ hfuel)
          have hkind : (t.movedTo m').kind = t.kind := rfl
          rw [nextToken?_movedTo ht hsame]
          dsimp only
          rw [hkind]
          split
          · exact ih _ _ _ _ _ _ _ _ _ _ _ hs hr hnext (by omega) (by omega)
          · have hrest : t.stop - m.offset ≤ fuel := (stop_sub_le ht).trans (by omega)
            have hrest' : t.stop - m.offset ≤ fuel' :=
              (stop_sub_le ht).trans (hsame ▸ Nat.le_of_lt_succ hfuel')
            have htokens := hm.tokens ht hstop
            have hparts := ih.echoes_heredocParts m' ht hrest hrest'
            have hlike := (Newlines.step_like hs htokens.kind (by simp) fun _ => .inl rfl).1
            -- Both go on with the token, or neither can take it.
            rcases (hr.matches_feedAll hs htokens hparts).cases with
              ⟨r₁, r₁', hfeed, hfeed', hr⟩ | ⟨e, e', hfeed, hfeed', he⟩
            · rw [hfeed, hfeed']
              exact ih _ _ _ _ _ _ _ _ _ _ _ hlike hr hnext (by omega) (by omega)
            · rw [hfeed, hfeed']
              exact .error he

end Templates

end Copies

/-- A template says the same wherever it stands. -/
theorem echoes_parseTemplate (file file' : String) (line line' : Nat) (text : String) :
    Echoes (List.map Part.unplaced) (parseTemplate file line text)
      (parseTemplate file' line' text) := by
  refine Matches.bind (Copies.repeats _ _ text.toList _ _ _ _ _ _ _ _ _ ⟨rfl, rfl⟩
    (Copies.whole_template _) (Copies.whole_at _ _ _ _ _) (Nat.lt_succ_self _)
    (Nat.lt_succ_self _)) fun r r' hr => hr.echoes_parts?

end ResourceTables.Native
