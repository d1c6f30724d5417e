import ResourceTables.Proofs.Limits.Readers
import ResourceTables.Proofs.Quotes.Readers
import ResourceTables.Proofs.Sources.Lockstep
import ResourceTables.Proofs.Sources.Values

/-!
# Texts within the limits

A text whose number literals are in range and whose quoted texts name characters is read or refused
in words. What it says is within the limits: a text that a machine can hold writes no list that is
too long.

* `Native.tokens`: the tokens that are met in a text, those of its heredocs among them;
* `Reader.delivers_through`: the token that stands next, with the newlines that the layout adds;
* `delivers_readFrom`: the rest of a text, by induction on the fuel;
* `delivers_parseTemplate`, `delivers_parseItems`: a whole template and a whole file;
* `isSome_heredocHeader?`: what is taken for a heredoc has the header that its template is read by.
-/

namespace ResourceTables.Native

/-! ## Tokens -/

/-- A number literal is in range, and between quotes the escapes are. -/
structure Token.InRange (t : Token) : Prop where
  /-- So it is with a number. -/
  number : t.kind = .number ∨ t.kind = .digits → (Decimal.ofLiteral false t.text.toList).InRange
  /-- And with the characters between quotes. -/
  escapes : t.kind = .textChars → EscapesInRange t.text.toList

instance (cs : List Char) : Decidable (EscapesInRange cs) :=
  inferInstanceAs (Decidable (∀ n ∈ codePoints cs, n < 0x110000))

instance (t : Token) : Decidable t.InRange :=
  decidable_of_iff
    ((t.kind = .number ∨ t.kind = .digits → (Decimal.ofLiteral false t.text.toList).InRange) ∧
      (t.kind = .textChars → EscapesInRange t.text.toList))
    ⟨fun h => ⟨h.1, h.2⟩, fun h => ⟨h.number, h.escapes⟩⟩

/-- The tokens that are met from a place on, up to the first that cannot stand where it does. Behind
a heredoc come the tokens of its template. -/
def tokensFrom : Nat → Newlines → Reader → Mark → List Token
  | 0, _, _, _ => []
  | fuel + 1, s, r, m =>
    match nextToken? r.accepts m with
    | none => []
    | some t =>
      let next := m.advance (t.stop - m.offset)
      if t.kind.ignored then t :: tokensFrom fuel s r next
      else
        -- The template of a heredoc is read from the line behind its header on.
        let pos := t.start.pos
        let inner :=
          if t.kind = .heredoc then
            tokensFrom fuel {} Reader.template
              (.start pos.file (pos.line + 1) (Heredoc.content t.text.toList))
          else []
        let heredoc :=
          heredocParts (fun m => readFrom fuel .template m.pos {} Reader.template m) t
        let (through, s) := s.step t
        t :: inner ++
          match r.feedAll heredoc through with
          | .ok r => tokensFrom fuel s r next
          | .error _ => []

/-- The tokens of a text that begins on the given line of a file. -/
def tokens (r : Reader) (file : String) (line : Nat) (text : String) : List Token :=
  let m := Mark.start file line text.toList
  tokensFrom (m.rest.length + 1) {} r m

section Layout

variable {s : Newlines} {t : Token}

/-- At most three tokens are let through for one. -/
theorem Newlines.length_step_le : (s.step t).1.length ≤ 3 := by
  have hemits := s.emits_step t
  generalize (s.step t).1 = through, (s.step t).2 = s' at hemits ⊢
  cases hemits <;> simp

/-- Literal characters are let through as they are. -/
theorem Newlines.step_templateChars (h : t.kind = .templateChars) :
    (s.step t).1 = [t] := by
  simp [step, opens, closes, h]

theorem Newlines.length_finish_le : s.finish.length ≤ 1 := by
  unfold finish
  split
  · split <;> simp
  · simp

end Layout

/-! ## Readers -/

namespace Reader

variable {k j : Nat} {r : Reader} {s : Newlines} {t : Token} {ts : List Token} {m : Mark}
  {heredoc : Draft (List Part)}

theorem Bounded.mono (h : r.Bounded k) (hk : k ≤ j) : r.Bounded j :=
  ⟨h.frames.mono hk, h.operand⟩

theorem bounded_file : file.Bounded 0 :=
  ⟨by simp [file, FramesBounded, Frame.Bounded], by rintro _ ⟨⟩⟩

theorem bounded_template : template.Bounded 0 :=
  ⟨by simp [template, FramesBounded, Frame.Bounded], by rintro _ ⟨⟩⟩

/-- A newline brings nothing in. -/
theorem admits_newline (ht : t.kind = .newline)
    (hheredoc : Delivers (fun parts => ∀ p ∈ parts, p.Bounded) ReadError.Worded heredoc) :
    Admits r t heredoc where
  number := by simp [ht]
  escapes := by simp [ht]
  heredoc := hheredoc

/-- A token in range can be taken in where literal characters outside of quotes are not accepted. -/
theorem admits_of_inRange (ht : t.InRange) (hkind : t.kind ≠ .templateChars)
    (hheredoc : Delivers (fun parts => ∀ p ∈ parts, p.Bounded) ReadError.Worded heredoc) :
    Admits r t heredoc where
  number := ht.number
  escapes := fun _ _ _ _ h => ht.escapes (h.resolve_right hkind)
  heredoc := hheredoc

/-- A token in range can be taken in where it stands: between quotes the literal characters are
those of a quoted text. -/
theorem admits_next (hnext : nextToken? r.accepts m = some t) (ht : t.InRange)
    (hheredoc : Delivers (fun parts => ∀ p ∈ parts, p.Bounded) ReadError.Worded heredoc) :
    Admits r t heredoc where
  number := ht.number
  escapes := by
    rintro start items outer rfl hkind
    rcases nextToken?_quoted hnext with ⟨hchars, -⟩ | ⟨-, -, hchars, htemplate⟩
    · exact ht.escapes hchars
    · exact absurd hkind (by simp [hchars, htemplate])
  heredoc := hheredoc

/-- Each of the tokens makes the lists longer by one item at most. -/
theorem delivers_feedAll (hr : r.Bounded k) (hts : ∀ u ∈ ts, ∀ r, Admits r u heredoc)
    (hk : k + ts.length ≤ itemLimit) :
    Delivers (Reader.Bounded (k + ts.length)) ReadError.Worded (r.feedAll heredoc ts) := by
  induction ts generalizing r k with
  | nil => exact .ok hr
  | cons t ts ih =>
    have hlength : k + (t :: ts).length = k + 1 + ts.length := by
      rw [List.length_cons, Nat.add_right_comm, Nat.add_assoc]
    rw [hlength] at hk ⊢
    have hfed := bounds_feed hr (hts t (by simp) r) (by omega)
    rw [feedAll]
    cases hfeed : r.feed heredoc t with
    | none => exact .error ReadError.worded_malformed
    | some r' => exact ih (hfed r' hfeed) (fun u hu => hts u (by simp [hu])) hk

/-- What is let through for the next token makes the lists longer by three items at most. -/
theorem delivers_through (hr : r.Bounded k) (hnext : nextToken? r.accepts m = some t)
    (ht : t.InRange) (hk : k + 3 ≤ itemLimit)
    (hheredoc : Delivers (fun parts => ∀ p ∈ parts, p.Bounded) ReadError.Worded heredoc) :
    Delivers (Reader.Bounded (k + 3)) ReadError.Worded (r.feedAll heredoc (s.step t).1) := by
  by_cases hkind : t.kind = .templateChars
  · -- These come alone, so the reader is the one that they were cut off for.
    have hfed := bounds_feed hr (admits_next hnext ht hheredoc) (by omega)
    rw [Newlines.step_templateChars hkind, feedAll]
    cases hfeed : r.feed heredoc t with
    | none => exact .error ReadError.worded_malformed
    | some r' => exact .ok ((hfed r' hfeed).mono (by omega))
  · have hlength := s.length_step_le (t := t)
    refine (delivers_feedAll hr (fun u hu r => ?_) (by omega)).mono
      fun r' hr' => hr'.mono (by omega)
    rcases s.step_eq t with ⟨-, hnone⟩ | ⟨before, after, hstep, hbefore, hafter⟩
    · rw [hnone] at hu
      cases hu
    · rw [hstep] at hu
      rcases List.mem_append.1 hu with hu | hu
      · exact admits_newline (hbefore u hu) hheredoc
      · rcases List.mem_cons.1 hu with rfl | hu
        · exact admits_of_inRange ht hkind hheredoc
        · exact admits_newline (hafter u hu) hheredoc

/-- What a template says is bounded. -/
theorem delivers_parts? (hr : r.Bounded k) :
    Delivers (fun parts => ∀ p ∈ parts, p.Bounded) ReadError.Worded ((r.parts?).getD (.ok [])) := by
  unfold parts?
  split
  · next items =>
    obtain ⟨hitems, -⟩ := framesBounded_cons.1 hr.frames
    refine .bind (.mapM fun d hd => hitems d (List.mem_reverse.1 hd)) fun read hread => ?_
    refine Part.delivers_ofItems fun i hi => ?_
    obtain ⟨j, hj, rfl⟩ := List.mem_map.1 hi
    have hitem := hread.2 j hj
    cases j with
    | text s => exact True.intro
    | _ => exact hitem
  · exact .ok (by simp)

/-- What a file says is bounded. -/
theorem delivers_items? (hr : r.Bounded k) :
    Delivers (fun items => ∀ i ∈ items, i.Bounded) ReadError.Worded ((r.items?).getD (.ok [])) := by
  unfold items?
  split
  · next items =>
    obtain ⟨hitems, -⟩ := framesBounded_cons.1 hr.frames
    exact (Delivers.mapM fun d hd => hitems d (List.mem_reverse.1 hd)).mono fun _ h => h.2
  · exact .ok (by simp)

end Reader

/-! ## Texts -/

section Texts

variable {k fuel : Nat} {r : Reader} {s : Newlines} {t : Token} {m : Mark} {form : Form}
  {first : Pos}

theorem worded_endOfFile : (endOfFile first s).Worded :=
  ReadError.worded_malformed

theorem delivers_finish (hr : r.Bounded k) (hk : k + 1 ≤ itemLimit) :
    Delivers (Reader.Bounded itemLimit) ReadError.Worded (finish form first s r) := by
  have hlast : ∀ ts : List Token, (∀ u ∈ ts, u.kind = .newline) → ts.length ≤ 1 →
      Delivers (Reader.Bounded itemLimit) ReadError.Worded (r.feedAll (.ok []) ts) := by
    intro ts hts hlength
    refine (Reader.delivers_feedAll hr (fun u hu _ => ?_) (by omega)).mono
      fun _ h => h.mono (by omega)
    exact Reader.admits_newline (hts u hu) (.ok (by simp))
  have hend : ∀ (s : Newlines) (r : Reader), r.Bounded itemLimit →
      Delivers (Reader.Bounded itemLimit) ReadError.Worded
        (if r.isComplete form then .ok r else .error (endOfFile first s)) := by
    intro s r hr
    split
    · exact .ok hr
    · exact .error worded_endOfFile
  cases form with
  | file =>
    exact .bind (hlast _ (fun _ => Newlines.kind_of_mem_finish) Newlines.length_finish_le) (hend _)
  | template => exact .bind (hlast [] (by simp) (by simp)) (hend _)

/-- The rest of a text, whose characters bound the lists that it writes. The induction is on the
fuel, which reading on uses as well as the templates of heredocs. -/
theorem delivers_readFrom (hr : r.Bounded k) (hk : k + 3 * m.rest.length + 1 ≤ itemLimit)
    (ht : ∀ t ∈ tokensFrom fuel s r m, t.InRange) :
    Delivers (Reader.Bounded itemLimit) ReadError.Worded (readFrom fuel form first s r m) := by
  induction fuel generalizing form first s r m k with
  | zero => exact .error worded_endOfFile
  | succ fuel ih =>
    rw [readFrom]
    split
    · exact delivers_finish hr (by omega)
    · rw [tokensFrom] at ht
      split
      · exact .error ReadError.worded_malformed
      · next t hnext =>
        rw [hnext] at ht
        obtain ⟨v, hv, hrest, -, -⟩ := exists_rest hnext
        have hlength : m.rest.length = v.length + (m.advance (t.stop - m.offset)).rest.length := by
          rw [← List.length_append, ← hrest]
        have hpos := List.length_pos_iff.2 hv
        dsimp only at ht ⊢
        split
        · next hignored =>
          rw [if_pos hignored] at ht
          exact ih hr (by omega) fun u hu => ht u (by simp [hu])
        · next hignored =>
          rw [if_neg hignored] at ht
          have hheredoc : Delivers (fun parts => ∀ p ∈ parts, p.Bounded) ReadError.Worded
              (heredocParts (fun m => readFrom fuel .template m.pos {} Reader.template m) t) := by
            unfold heredocParts
            split
            · next hkind =>
              rw [if_pos hkind] at ht
              refine .bind (ih Reader.bounded_template ?_ fun u hu => ht u (by simp [hu]))
                fun r' hr' => Reader.delivers_parts? hr'
              have hshorter := (length_content_lt_of_nextToken? hnext).trans_le (stop_sub_le hnext)
              show 0 + 3 * (Heredoc.content t.text.toList).length + 1 ≤ itemLimit
              omega
            · exact .ok (by simp)
          have hthrough :=
            Reader.delivers_through (s := s) hr hnext (ht t (by simp)) (by omega) hheredoc
          split
          · next r' hr' =>
            -- The token took a character at least, and that makes room for its three items.
            rw [hr'] at ht hthrough
            exact ih hthrough (by omega) fun u hu => ht u (by simp [hu])
          · next e he =>
            exact .error (hthrough.failsWith e he)

/-- A text that is held in memory has fewer characters than this. -/
def textLimit : Nat := 2 ^ 63

/-- Such a text does not write a list that is too long. -/
theorem length_within {n : Nat} (h : n < textLimit) : 3 * n + 1 ≤ itemLimit := by
  have hlimit : 10 ^ 20 ≤ itemLimit := Nat.pow_le_pow_right (by decide) (by decide)
  rw [textLimit] at h
  omega

variable {file text : String} {line : Nat}

theorem delivers_read (hr : r.Bounded 0) (htext : text.length < textLimit)
    (ht : ∀ t ∈ tokens r file line text, t.InRange) :
    Delivers (Reader.Bounded itemLimit) ReadError.Worded (read form r file line text) := by
  refine delivers_readFrom hr ?_ ht
  rw [Nat.zero_add]
  exact length_within htext

/-- A template whose tokens are in range says what is within the limits, or is refused in words. -/
theorem delivers_parseTemplate (htext : text.length < textLimit)
    (ht : ∀ t ∈ tokens .template file line text, t.InRange) :
    Delivers (fun parts => ∀ p ∈ parts, p.Bounded) ReadError.Worded
      (parseTemplate file line text) :=
  .bind (delivers_read Reader.bounded_template htext ht) fun _ hr => Reader.delivers_parts? hr

/-- A file whose tokens are in range says what is within the limits, or is refused in words. -/
theorem delivers_parseItems (htext : text.length < textLimit)
    (ht : ∀ t ∈ tokens .file file 1 text, t.InRange) :
    Delivers (fun items => ∀ i ∈ items, i.Bounded) ReadError.Worded (parseItems file text) :=
  .bind (delivers_read Reader.bounded_file htext ht) fun _ hr => Reader.delivers_items? hr

/-! ## Heredocs -/

/-- A heredoc that is cut off has a header of its own. -/
theorem isSome_heredocHeader? {accepted : List Kind} (h : nextToken? accepted m = some t)
    (hkind : t.kind = .heredoc) : (heredocHeader? t.text.toList).isSome := by
  obtain ⟨htoken, hlength, -⟩ := length_of_nextToken? h (by rw [hkind]; rfl)
  rw [hkind] at htoken hlength
  have hpos : heredocLength m.rest ≠ 0 := hlength
  unfold heredocLength at hpos
  split at hpos
  · exact absurd rfl hpos
  · next indented marker n hheader =>
    obtain ⟨header, rest, hrest, rfl, hheads⟩ := exists_header hheader
    split at hpos
    · next k hk =>
      have hwhole : heredocLength m.rest = header.length + k := by
        simp only [heredocLength, hheader, hk]
      -- The token is the header with the lines up to the one that closes it.
      have htext : t.text.toList = header ++ rest.take k := by
        rw [htoken]
        show (String.ofList (m.rest.take (heredocLength m.rest))).toList = _
        rw [String.toList_ofList, hwhole, hrest, List.take_length_add_append]
      rw [htext, hheads.heredocHeader?]
      rfl
    · exact absurd rfl hpos

/-- The tokens that are met are cut off where they stand. -/
theorem exists_nextToken? {u : Token} (hu : u ∈ tokensFrom fuel s r m) :
    ∃ accepted m, nextToken? accepted m = some u := by
  induction fuel generalizing s r m with
  | zero => cases hu
  | succ fuel ih =>
    -- The token is the one that is cut off here, or it is met further on.
    rw [tokensFrom] at hu
    split at hu
    · cases hu
    · next t ht =>
      dsimp only at hu
      split at hu
      · rcases List.mem_cons.1 hu with rfl | hu
        · exact ⟨_, _, ht⟩
        · exact ih hu
      · rcases List.mem_append.1 hu with hu | hu
        · rcases List.mem_cons.1 hu with rfl | hu
          · exact ⟨_, _, ht⟩
          · split at hu
            · exact ih hu
            · cases hu
        · split at hu
          · exact ih hu
          · cases hu

end Texts

end ResourceTables.Native
