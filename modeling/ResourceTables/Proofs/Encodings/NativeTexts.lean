import ResourceTables.Native.Escape
import ResourceTables.Native.Lexer

/-!
# Texts in the native notation

How a text is written so that reading gives it back: in templates `$` and `%` are doubled before a
brace, and between quotes some characters are escaped.

* `doubled`: the template that stands for a text;
* `escaped`: the template as it is written between quotes;
* `textLength_escaped`, `templateLength_doubled`: the lexer takes what is written and nothing behind
  it, since the doubled markers begin no interpolation and no directive;
* `decodeQuoted_escaped`, `decodeTemplate_doubled`: reading gives the text back.
-/

namespace ResourceTables.Native

/-- The template that stands for the characters: `$` and `%` are doubled before a brace. -/
def doubled : List Char → List Char
  | '$' :: '\x7b' :: rest => '$' :: '$' :: '\x7b' :: doubled rest
  | '%' :: '\x7b' :: rest => '%' :: '%' :: '\x7b' :: doubled rest
  | c :: rest => c :: doubled rest
  | [] => []

/-- A character between quotes. -/
def escapeChar (c : Char) : List Char :=
  if c = '"' then ['\\', '"']
  else if c = '\\' then ['\\', '\\']
  else if c = '\n' then ['\\', 'n']
  else if c = '\r' then ['\\', 'r']
  else if c = '\t' then ['\\', 't']
  else [c]

/-- The template that stands for the characters, as it is written between quotes. -/
def escaped (cs : List Char) : List Char :=
  (doubled cs).flatMap escapeChar

/-- A text as it is written in the native notation, with its quotes. -/
def quoted (s : String) : List Char :=
  '"' :: escaped s.toList ++ ['"']

/-! ## Where sequences begin -/

/-- The character is part of what begins an interpolation or a directive. -/
def IsMarker (c : Char) : Prop :=
  c = '$' ∨ c = '%' ∨ c = '\x7b'

/-- Writing characters this way leaves the markers as they are and makes no others. -/
structure KeepsMarkers (f : Char → List Char) : Prop where
  /-- A marker stays. -/
  marker : ∀ c, IsMarker c → f c = [c]
  /-- No other character is written with a marker in front. -/
  other : ∀ c, ¬ IsMarker c → ∃ h t, f c = h :: t ∧ ¬ IsMarker h

/-- A character is escaped with a backslash, or it may stand between quotes as it is. -/
theorem escapeChar_cases (c : Char) :
    (∃ e, escapeChar c = ['\\', e] ∧ simpleEscape? e = some c ∧ ¬ IsMarker c) ∨
      (escapeChar c = [c] ∧ c ≠ '"' ∧ c ≠ '\\' ∧ c ≠ '\n' ∧ c ≠ '\r') := by
  -- None of the characters with an escape is a dollar sign, a percent sign or a brace.
  by_cases hquote : c = '"'
  · exact .inl ⟨'"', by simp [escapeChar, hquote], by simp [simpleEscape?, hquote],
      by simp [IsMarker, hquote]⟩
  by_cases hslash : c = '\\'
  · exact .inl ⟨'\\', by simp [escapeChar, hslash], by simp [simpleEscape?, hslash],
      by simp [IsMarker, hslash]⟩
  by_cases hnewline : c = '\n'
  · exact .inl ⟨'n', by simp [escapeChar, hnewline], by simp [simpleEscape?, hnewline],
      by simp [IsMarker, hnewline]⟩
  by_cases hreturn : c = '\r'
  · exact .inl ⟨'r', by simp [escapeChar, hreturn], by simp [simpleEscape?, hreturn],
      by simp [IsMarker, hreturn]⟩
  by_cases htab : c = '\t'
  · exact .inl ⟨'t', by simp [escapeChar, htab], by simp [simpleEscape?, htab],
      by simp [IsMarker, htab]⟩
  exact .inr ⟨by simp [escapeChar, hquote, hslash, hnewline, hreturn, htab], hquote, hslash,
    hnewline, hreturn⟩

theorem keepsMarkers_escapeChar : KeepsMarkers escapeChar where
  marker := by
    rintro c (rfl | rfl | rfl) <;> rfl
  other := by
    intro c hc
    rcases escapeChar_cases c with ⟨e, he, -, -⟩ | ⟨he, -⟩
    · exact ⟨'\\', [e], he, by simp [IsMarker]⟩
    · exact ⟨c, [], he, hc⟩

theorem keepsMarkers_singleton : KeepsMarkers fun c => [c] where
  marker := fun _ _ => rfl
  other := fun c hc => ⟨c, [], rfl, hc⟩

/-- An interpolation or a directive begins here, or its doubled form. -/
def Sequence (cs : List Char) : Prop :=
  ∃ m t, (m = '$' ∨ m = '%') ∧ (cs = m :: '\x7b' :: t ∨ cs = m :: m :: '\x7b' :: t)

section Sequences

variable {f : Char → List Char} {tail : List Char}

/-- The first character of what is written is a marker only if that marker was to be written. -/
theorem KeepsMarkers.head (hf : KeepsMarkers f) (c : Char) :
    ∃ h t, f c = h :: t ∧ (IsMarker h → h = c ∧ t = []) := by
  by_cases hc : IsMarker c
  · exact ⟨c, [], hf.marker c hc, fun _ => ⟨rfl, rfl⟩⟩
  · obtain ⟨h, t, heq, hh⟩ := hf.other c hc
    exact ⟨h, t, heq, fun hmarker => absurd hmarker hh⟩

/-- What is written begins with a brace only if the text does. -/
theorem brace_of_written (hf : KeepsMarkers f)
    (htail : ∀ c, tail.head? = some c → ¬ IsMarker c) {cs t : List Char}
    (h : (doubled cs).flatMap f ++ tail = '\x7b' :: t) : ∃ rest, cs = '\x7b' :: rest := by
  revert h
  fun_cases doubled cs with
  | case1 rest =>
    rw [List.flatMap_cons, hf.marker '$' (.inl rfl)]
    rintro ⟨⟩
  | case2 rest =>
    rw [List.flatMap_cons, hf.marker '%' (.inr (.inl rfl))]
    rintro ⟨⟩
  -- A brace is written as it is, and no other character with a brace in front.
  | case3 c rest hdollar hpercent =>
    obtain ⟨first, more, hc, hmarker⟩ := hf.head c
    rw [List.flatMap_cons, hc]
    rintro ⟨⟩
    obtain ⟨rfl, rfl⟩ := hmarker (.inr (.inr rfl))
    exact ⟨rest, rfl⟩
  | case4 =>
    intro h
    rw [List.flatMap_nil, List.nil_append] at h
    exact absurd (.inr (.inr rfl)) (htail '\x7b' (by rw [h]; rfl))

/-- What is written does not begin with an interpolation or a directive. -/
theorem written_ne_sequence (hf : KeepsMarkers f)
    (htail : ∀ c, tail.head? = some c → ¬ IsMarker c) (cs : List Char) {m : Char}
    (hm : m = '$' ∨ m = '%') (t : List Char) :
    (doubled cs).flatMap f ++ tail ≠ m :: '\x7b' :: t := by
  -- A doubled marker has its own double behind it; any other marker has no brace behind it.
  have hmarker : IsMarker m := hm.elim .inl fun h => .inr (.inl h)
  fun_cases doubled cs with
  | case1 rest =>
    rw [List.flatMap_cons, List.flatMap_cons, hf.marker '$' (.inl rfl)]
    rintro ⟨⟩
  | case2 rest =>
    rw [List.flatMap_cons, List.flatMap_cons, hf.marker '%' (.inr (.inl rfl))]
    rintro ⟨⟩
  | case3 c rest hdollar hpercent =>
    obtain ⟨first, more, hc, hfirst⟩ := hf.head c
    rw [List.flatMap_cons, hc]
    intro h
    obtain rfl : first = m := (List.cons.inj h).1
    obtain ⟨rfl, rfl⟩ := hfirst hmarker
    -- The brace would come from the text, where it would have been doubled.
    obtain ⟨rest', rfl⟩ := brace_of_written hf htail (List.cons.inj h).2
    rcases hm with rfl | rfl
    · exact hdollar rest' rfl rfl
    · exact hpercent rest' rfl rfl
  | case4 =>
    intro h
    rw [List.flatMap_nil, List.nil_append] at h
    exact absurd hmarker (htail m (by rw [h]; rfl))

/-- No sequence begins at a character that is not doubled. -/
theorem not_sequence_cons (hf : KeepsMarkers f)
    (htail : ∀ c, tail.head? = some c → ¬ IsMarker c) {c : Char} {cs : List Char}
    (hdollar : ∀ rest, c = '$' → cs = '\x7b' :: rest → False)
    (hpercent : ∀ rest, c = '%' → cs = '\x7b' :: rest → False) :
    ¬ Sequence (c :: ((doubled cs).flatMap f ++ tail)) := by
  rintro ⟨m, t, hm, h | h⟩
  · obtain ⟨rfl, hrest⟩ := List.cons.inj h
    obtain ⟨rest, rfl⟩ := brace_of_written hf htail hrest
    rcases hm with rfl | rfl
    · exact hdollar rest rfl rfl
    · exact hpercent rest rfl rfl
  · exact written_ne_sequence hf htail cs hm t (List.cons.inj h).2

end Sequences

/-! ## Between the quotes of the native notation -/

section Quoted

variable {c : Char} {cs : List Char}

theorem textLength_escape (h : c ≠ '\n') :
    textLength ('\\' :: c :: cs) = textLength cs + 2 := by
  rw [textLength, if_neg h]

theorem textLength_plain (hquote : c ≠ '"') (hslash : c ≠ '\\') (hnewline : c ≠ '\n')
    (h : ¬ Sequence (c :: cs)) : textLength (c :: cs) = textLength cs + 1 := by
  rw [textLength.eq_6]
  · rw [if_neg (by simp [hquote, hslash, hnewline])]
  · rintro _ _ rfl
    exact absurd rfl hslash
  · rintro t rfl rfl
    exact h ⟨'$', t, .inl rfl, .inr rfl⟩
  · rintro t rfl rfl
    exact h ⟨'%', t, .inr rfl, .inr rfl⟩
  · rintro t rfl rfl
    exact h ⟨'$', t, .inl rfl, .inl rfl⟩
  · rintro t rfl rfl
    exact h ⟨'%', t, .inr rfl, .inl rfl⟩

theorem decodeQuotedFrom_escape {e : Char} (h : simpleEscape? e = some c) (fuel : Nat) :
    decodeQuotedFrom (fuel + 1) ('\\' :: e :: cs) = (decodeQuotedFrom fuel cs).map (c :: ·) := by
  have hu : e ≠ 'u' := by
    rintro rfl
    cases h
  have hU : e ≠ 'U' := by
    rintro rfl
    cases h
  rw [decodeQuotedFrom]
  simp [hu, hU, h]

theorem decodeQuotedFrom_plain (hslash : c ≠ '\\') (h : ¬ Sequence (c :: cs)) (fuel : Nat) :
    decodeQuotedFrom (fuel + 1) (c :: cs) = (decodeQuotedFrom fuel cs).map (c :: ·) := by
  rw [decodeQuotedFrom.eq_6]
  · rintro _ _ rfl
    exact absurd rfl hslash
  · rintro t rfl rfl
    exact h ⟨'$', t, .inl rfl, .inr rfl⟩
  · rintro t rfl rfl
    exact h ⟨'%', t, .inr rfl, .inr rfl⟩

theorem not_isMarker_of_quote {rest : List Char} :
    ∀ c, ('"' :: rest).head? = some c → ¬ IsMarker c := by
  rintro c ⟨⟩
  simp [IsMarker]

/-- Where no sequence begins, a character is written by itself. -/
theorem escaped_cons (hdollar : ∀ rest, c = '$' → cs = '\x7b' :: rest → False)
    (hpercent : ∀ rest, c = '%' → cs = '\x7b' :: rest → False) :
    escaped (c :: cs) = escapeChar c ++ escaped cs := by
  rw [escaped, doubled.eq_3 c cs hdollar hpercent, List.flatMap_cons, escaped]

/-- The characters between the quotes are one token, up to the closing quote. -/
theorem textLength_escaped (cs rest : List Char) :
    textLength (escaped cs ++ '"' :: rest) = (escaped cs).length := by
  -- The induction follows `doubled`: the lexer passes over each doubled sequence as a whole.
  induction cs using doubled.induct with
  | case1 cs ih =>
    have hcs : escaped ('$' :: '\x7b' :: cs) = '$' :: '$' :: '\x7b' :: escaped cs := rfl
    rw [hcs, List.cons_append, List.cons_append, List.cons_append, textLength, ih]
    rfl
  | case2 cs ih =>
    have hcs : escaped ('%' :: '\x7b' :: cs) = '%' :: '%' :: '\x7b' :: escaped cs := rfl
    rw [hcs, List.cons_append, List.cons_append, List.cons_append, textLength, ih]
    rfl
  | case3 c cs hdollar hpercent ih =>
    rw [escaped_cons hdollar hpercent, List.append_assoc]
    rcases escapeChar_cases c with ⟨e, he, hmeans, -⟩ | ⟨hc, hquote, hslash, hnewline, -⟩
    · have hne : e ≠ '\n' := by
        rintro rfl
        cases hmeans
      rw [he, List.cons_append, List.cons_append, List.nil_append, textLength_escape hne, ih,
        List.length_append, Nat.add_comm]
      rfl
    · have hplain : ¬ Sequence (c :: (escaped cs ++ '"' :: rest)) :=
        not_sequence_cons keepsMarkers_escapeChar not_isMarker_of_quote hdollar hpercent
      rw [hc, List.cons_append, List.nil_append, textLength_plain hquote hslash hnewline hplain, ih,
        List.length_append, Nat.add_comm]
      rfl
  | case4 => rfl

/-- Fuel for all characters is enough, if each step takes at least one of them. -/
theorem decodeQuotedFrom_append (written read : List Char) {after : List Char} (hne : written ≠ [])
    (hstep : ∀ fuel, decodeQuotedFrom (fuel + 1) (written ++ after) =
      (decodeQuotedFrom fuel after).map (read ++ ·))
    (hafter : ∀ {fuel}, after.length ≤ fuel → decodeQuotedFrom fuel after = .ok cs) {fuel : Nat}
    (h : (written ++ after).length ≤ fuel) :
    decodeQuotedFrom fuel (written ++ after) = .ok (read ++ cs) := by
  have hpos := List.length_pos_iff.2 hne
  rw [List.length_append] at h
  cases fuel with
  | zero => omega
  | succ fuel =>
    rw [hstep, hafter (by omega)]
    rfl

/-- What stands between the quotes means the text. -/
theorem decodeQuotedFrom_escaped (cs : List Char) {fuel : Nat} (h : (escaped cs).length ≤ fuel) :
    decodeQuotedFrom fuel (escaped cs) = .ok cs := by
  induction cs using doubled.induct generalizing fuel with
  | case1 cs ih =>
    exact decodeQuotedFrom_append ['$', '$', '\x7b'] ['$', '\x7b'] (by simp) (fun _ => rfl) ih h
  | case2 cs ih =>
    exact decodeQuotedFrom_append ['%', '%', '\x7b'] ['%', '\x7b'] (by simp) (fun _ => rfl) ih h
  | case3 c cs hdollar hpercent ih =>
    rw [escaped_cons hdollar hpercent] at h ⊢
    rcases escapeChar_cases c with ⟨e, he, hmeans, -⟩ | ⟨hc, -, hslash, -⟩
    · rw [he] at h ⊢
      exact decodeQuotedFrom_append _ [c] (by simp) (decodeQuotedFrom_escape hmeans) ih h
    · have hplain : ¬ Sequence (c :: (escaped cs ++ [])) :=
        not_sequence_cons keepsMarkers_escapeChar (by simp) hdollar hpercent
      rw [List.append_nil] at hplain
      rw [hc] at h ⊢
      exact decodeQuotedFrom_append _ [c] (by simp) (decodeQuotedFrom_plain hslash hplain) ih h
  | case4 => cases fuel <;> rfl

theorem decodeQuoted_escaped (cs : List Char) : decodeQuoted (escaped cs) = .ok cs :=
  decodeQuotedFrom_escaped cs (Nat.le_refl _)

/-- Texts are written without carriage returns. -/
theorem return_not_mem_escaped (cs : List Char) : '\r' ∉ escaped cs := by
  intro h
  obtain ⟨c, -, hc⟩ := List.mem_flatMap.1 h
  rcases escapeChar_cases c with ⟨e, he, hmeans, -⟩ | ⟨he, -, -, -, hreturn⟩
  · rw [he] at hc
    obtain rfl : '\r' = e := by simpa using hc
    cases hmeans
  · rw [he] at hc
    exact hreturn (List.mem_singleton.1 hc).symm

end Quoted

/-! ## Templates that stand on their own -/

section Templates

variable {c : Char} {cs : List Char}

theorem not_sequence_doubled (hdollar : ∀ rest, c = '$' → cs = '\x7b' :: rest → False)
    (hpercent : ∀ rest, c = '%' → cs = '\x7b' :: rest → False) :
    ¬ Sequence (c :: doubled cs) := by
  have hplain : ¬ Sequence (c :: ((doubled cs).flatMap (fun c => [c]) ++ [])) :=
    not_sequence_cons keepsMarkers_singleton (by simp) hdollar hpercent
  simpa using hplain

/-- The whole template is one token. -/
theorem templateLength_doubled (cs : List Char) :
    templateLength (doubled cs) = (doubled cs).length := by
  induction cs using doubled.induct with
  | case1 cs ih =>
    rw [doubled, templateLength, ih]
    rfl
  | case2 cs ih =>
    rw [doubled, templateLength, ih]
    rfl
  | case3 c cs hdollar hpercent ih =>
    -- A dollar sign or a percent sign with a brace behind it would have been doubled.
    have hplain := not_sequence_doubled hdollar hpercent
    rw [doubled.eq_3 c cs hdollar hpercent, templateLength.eq_5, ih, List.length_cons]
    · rintro t rfl heq
      exact hplain ⟨'$', t, .inl rfl, .inr (by rw [heq])⟩
    · rintro t rfl heq
      exact hplain ⟨'%', t, .inr rfl, .inr (by rw [heq])⟩
    · rintro t rfl heq
      exact hplain ⟨'$', t, .inl rfl, .inl (by rw [heq])⟩
    · rintro t rfl heq
      exact hplain ⟨'%', t, .inr rfl, .inl (by rw [heq])⟩
  | case4 => rfl

/-- The template means the text. -/
theorem decodeTemplate_doubled (cs : List Char) : decodeTemplate (doubled cs) = cs := by
  induction cs using doubled.induct with
  | case1 cs ih => rw [doubled, decodeTemplate, ih]
  | case2 cs ih => rw [doubled, decodeTemplate, ih]
  | case3 c cs hdollar hpercent ih =>
    have hplain := not_sequence_doubled hdollar hpercent
    rw [doubled.eq_3 c cs hdollar hpercent, decodeTemplate.eq_3, ih]
    · rintro t rfl heq
      exact hplain ⟨'$', t, .inl rfl, .inr (by rw [heq])⟩
    · rintro t rfl heq
      exact hplain ⟨'%', t, .inr rfl, .inr (by rw [heq])⟩
  | case4 => rfl

theorem doubled_eq_nil_iff : doubled cs = [] ↔ cs = [] := by
  fun_cases doubled cs <;> simp

end Templates

end ResourceTables.Native
