import ResourceTables.Proofs.Encodings.JsonFiles
import ResourceTables.Proofs.Ensures
import ResourceTables.Proofs.Writing.Heredocs

/-!
# Texts read back

Every text can be written in quotes, as a member of a JSON object and, if its last line is complete,
as a heredoc, and is read back unchanged.

* `Json.Passes`, `Json.ensures_decodeFrom`: a JSON string that decodes is one token,
  however its characters are escaped;
* `SetsText`: a body that sets `x` to a text and does nothing else;
* `setsText_parse`: what is read of a text in each of the three notations.
-/

namespace ResourceTables

namespace Text

/-- Only hexadecimal digits are read. -/
theorem isSome_hexValue?_of_readHex? {cs : List Char} {n : Nat} (h : readHex? cs = some n) :
    ∀ c ∈ cs, (hexValue? c).isSome = true := by
  have hfold : ∀ (cs : List Char) (start : Nat),
      cs.foldlM (fun n c => (hexValue? c).map (16 * n + ·)) start = some n →
        ∀ c ∈ cs, (hexValue? c).isSome = true := by
    intro cs
    induction cs with
    | nil => simp
    | cons d cs ih =>
      intro start hread
      rw [List.foldlM_cons, Option.bind_eq_bind, Option.bind_eq_some_iff] at hread
      obtain ⟨next, hd, hread⟩ := hread
      obtain ⟨value, hvalue, -⟩ := Option.map_eq_some_iff.1 hd
      exact List.forall_mem_cons.2 ⟨by rw [hvalue]; rfl, ih next hread⟩
  exact hfold cs 0 h

end Text

/-! ## JSON strings -/

namespace Json

/-- The lexer passes over the characters inside of a string. -/
def Passes (cs : List Char) : Prop :=
  ∀ more, stringLength? (cs ++ more) = (stringLength? more).map (· + cs.length)

section Strings

variable {cs cs' rest text : List Char} {c : Char} {n fuel : Nat}

theorem Passes.nil : Passes [] := by
  intro more
  simp

theorem Passes.append (h : Passes cs) (h' : Passes cs') : Passes (cs ++ cs') := by
  intro more
  rw [List.append_assoc, h, h', Option.map_map, List.length_append]
  refine congrArg (Option.map · (stringLength? more)) (funext fun n => ?_)
  simp only [Function.comp_apply]
  omega

theorem passes_of_isPlain (h : ∀ c ∈ cs, IsPlain c) : Passes cs :=
  fun _ => stringLength?_plain_append h

theorem passes_escape (h : c ≠ '\n') : Passes ['\\', c] :=
  fun _ => stringLength?_escape h

theorem isPlain_of_hexValue? (h : (Text.hexValue? c).isSome = true) : IsPlain c := by
  refine ⟨?_, ?_, ?_, ?_⟩ <;>
  · rintro rfl
    cases h

/-- The digits of a unit escape are characters like any other. -/
theorem exists_passes_of_unit? (h : unit? cs = some (n, rest)) :
    ∃ taken, cs = taken ++ rest ∧ Passes taken := by
  unfold unit? at h
  split at h
  · obtain ⟨value, hread, hpair⟩ := Option.map_eq_some_iff.1 h
    obtain ⟨-, rfl⟩ := Prod.mk.inj hpair
    refine ⟨cs.take 4, (List.take_append_drop 4 cs).symm, passes_of_isPlain fun c hc => ?_⟩
    exact isPlain_of_hexValue? (Text.isSome_hexValue?_of_readHex? hread c hc)
  · cases h

/-- A unit that begins a pair takes the escape of the other unit with it. -/
theorem exists_passes_of_unitChar (h : unitChar n cs = (c, rest)) :
    ∃ taken, cs = taken ++ rest ∧ Passes taken := by
  have hnone : (c, rest) = (unpaired, cs) ∨ (c, rest) = (Char.ofNat n, cs) →
      ∃ taken, cs = taken ++ rest ∧ Passes taken := by
    intro hkept
    refine ⟨[], ?_, .nil⟩
    rcases hkept with hkept | hkept <;> rw [(Prod.mk.inj hkept).2, List.nil_append]
  -- More is taken only where the second half of a pair follows.
  unfold unitChar at h
  split at h
  · split at h
    · next more =>
      split at h
      · next low after hunit =>
        split at h
        · obtain ⟨taken, rfl, htaken⟩ := exists_passes_of_unit? hunit
          obtain ⟨-, rfl⟩ := Prod.mk.inj h
          exact ⟨['\\', 'u'] ++ taken, rfl, (passes_escape (by decide)).append htaken⟩
        · exact hnone (.inl h.symm)
      · exact hnone (.inl h.symm)
    · exact hnone (.inl h.symm)
  · split at h
    · exact hnone (.inl h.symm)
    · exact hnone (.inr h.symm)

/-- Characters of a string that are read up to its closing quote. -/
def EndsAt (cs rest : List Char) : Prop :=
  ∃ taken, cs = taken ++ '"' :: rest ∧ Passes taken

theorem EndsAt.append (h : EndsAt cs' rest) (hcs : Passes cs) : EndsAt (cs ++ cs') rest := by
  obtain ⟨taken, rfl, htaken⟩ := h
  exact ⟨cs ++ taken, (List.append_assoc _ _ _).symm, hcs.append htaken⟩

/-- A string that decodes ends with the quote that the lexer finds. -/
theorem ensures_decodeFrom (fuel : Nat) (cs : List Char) :
    Ensures (fun (_, rest) => EndsAt cs rest) (decodeFrom fuel cs) := by
  induction fuel generalizing cs with
  | zero => exact .error
  | succ fuel ih =>
    cases cs with
    | nil => exact .error
    | cons c cs =>
      unfold decodeFrom
      split
      · next hquote => exact .ok ⟨[], by rw [hquote, List.nil_append], .nil⟩
      split
      · next hslash =>
        obtain rfl := hslash
        -- The lexer passes over a backslash with one character, and over the digits like others.
        split
        · next digits =>
          split
          · next unit after hunit =>
            obtain ⟨taken, rfl, htaken⟩ := exists_passes_of_unit? hunit
            obtain ⟨c, behind, hchar⟩ : ∃ c behind, unitChar unit after = (c, behind) :=
              ⟨_, _, rfl⟩
            obtain ⟨more, hmore, hpasses⟩ := exists_passes_of_unitChar hchar
            rw [hchar]
            have hfirst := (passes_escape (by decide : 'u' ≠ '\n')).append (htaken.append hpasses)
            refine (ih _).map fun result hresult => ?_
            have hends := hresult.append hfirst
            rwa [List.append_assoc, List.append_assoc, ← hmore] at hends
          · exact .error
        · next e after _ =>
          split
          · next hsimple =>
            refine (ih _).map fun result hresult => hresult.append (passes_escape ?_)
            rintro rfl
            cases hsimple
          · exact .error
        · exact .error
      split
      · exact .error
      · next hquote hslash hcontrol =>
        have hnewline := not_control (Nat.not_lt.1 hcontrol)
        rw [not_or] at hnewline
        have hplain : Passes [c] := passes_of_isPlain fun d hd => by
          obtain rfl := List.mem_singleton.1 hd
          exact ⟨hquote, hslash, hnewline⟩
        exact (ih _).map fun result hresult => hresult.append hplain

/-- A string that decodes is a value, however its characters are escaped. -/
theorem Written.literal {file : String} (h : decode cs = .ok (text, [])) :
    Written file ('"' :: cs) true fun node =>
      ∃ o, node = .scalar o (.text (String.ofList text)) := by
  obtain ⟨taken, hcs, htaken⟩ := ensures_decodeFrom cs.length cs _ h
  refine token .string (fun t => (Reader.stringText t).map .text) rfl (by simp)
    (fun rest _ => ?_) ?_ fun t ht => ?_
  · have htoken : tokenAt? ('"' :: cs ++ rest) =
        (stringLength? (cs ++ rest)).map fun n => (.string, n + 1) := rfl
    rw [htoken, hcs, List.append_assoc, htaken]
    simp [stringLength?, Nat.add_comm]
  · intro frames t ht
    simp only [Reader.beginValue, ht]
  · have hread : Reader.stringText t = .ok (String.ofList text) := by
      rw [Reader.stringText, ht, List.tail_cons, h]
    rw [hread]
    exact .ok rfl fun o => ⟨o, rfl⟩

end Strings

end Json

/-! ## Reading back -/

/-- A file was read that sets `x` to the text, whatever is in scope, and does nothing else. -/
def SetsText (s : String) (result : Except ReadError Body) : Prop :=
  ∃ body e pos, result = .ok body ∧ body.justAttributes = .ok [⟨"x", e, pos⟩] ∧
    ∀ scope, e.evaluate scope = .ok (.string s)

namespace Native

theorem valueText_quoted (s : String) : ValueText (quoted s) (Constant.text s).Means := by
  intro first Q state name outer rest m _ hm hnext
  refine .quoted hm (fun _ => rfl) rfl fun x o m₀ m' hx hm' => ?_
  exact hnext x x _ _ _ m' rfl hx (Constant.means_addText s o) (by simp [Mark.token]) hm'

/-- A value that stands for a text sets the attribute to this text. -/
theorem setsText_attributeFile {value : List Char} {s : String} (file : String)
    (hblank : ∀ c, value.head? = some c → isBlankChar c = false)
    (h : ValueText value (Constant.text s).Means) (newline : Bool) :
    SetsText s (parse file (attributeFile value newline)) := by
  obtain ⟨e, hparse, he⟩ := parse_attribute file hblank h newline
  exact ⟨_, e, _, hparse, rfl, he⟩

end Native

/-- The template that stands for a text sets the member to this text. -/
theorem Json.setsText_encodeObject {cs : List Char} {s : String} (file : String)
    (h : decode cs = .ok (Native.doubled s.toList, [])) :
    SetsText s (parse file (String.ofList (encodeObject [encodeMember "x" ('"' :: cs)]))) := by
  have hwritten : Written file _ true _ := .singleton "x" (.literal h)
  have hnode := hwritten.drafted_parseNode
  unfold parse
  generalize parseNode file _ = result at hnode ⊢
  cases hnode with
  | beyondLimits hwithin => cases hwithin
  | ok hwithin hnode =>
    obtain ⟨o, ⟨key, pos, value⟩, rfl, rfl, o', rfl⟩ := hnode
    refine ⟨_, _, pos, rfl, ?_, Constant.means_addText s o'⟩
    simp [Body.justAttributes, Body.addMember, Body.memberAttribute, JsonPair.isComment,
      JsonPair.commentKey, JsonPair.key, JsonPair.pos, JsonPair.value, expr_doubled,
      Except.map]

/-- Every text is read back from what is written for it, in each of the notations. -/
theorem setsText_parse (file s : String) (newline : Bool) :
    SetsText s (Native.parse file (Native.attributeFile (Native.quoted s) newline)) ∧
    (∀ cs, Json.decode cs = .ok (Native.doubled s.toList, []) →
      SetsText s (Json.parse file
        (String.ofList (Json.encodeObject [Json.encodeMember "x" ('"' :: cs)])))) ∧
    (∀ marker, Native.FitsHeredoc marker s →
      SetsText s (Native.parse file (Native.attributeFile (Native.heredoc marker s) newline))) := by
  refine ⟨?_, fun cs => Json.setsText_encodeObject file, fun marker h => ?_⟩
  · refine Native.setsText_attributeFile file ?_ (Native.valueText_quoted s) newline
    rintro c ⟨⟩
    rfl
  · refine Native.setsText_attributeFile file ?_ (Native.valueText_heredoc h) newline
    rintro c ⟨⟩
    rfl

/-- A text with sequences in it, whose JSON string is written with escapes that need not be there,
in a heredoc whose marker also stands in one of its lines. -/
theorem setsText_parse_sequences :
    SetsText "a $\x7bb\x7d\nEND $\n" (Native.parse "t.tf"
      (Native.attributeFile (Native.quoted "a $\x7bb\x7d\nEND $\n") true)) ∧
    SetsText "a $\x7bb\x7d\nEND $\n" (Json.parse "t.tf.json" (String.ofList (Json.encodeObject
      [Json.encodeMember "x" ('"' :: "\\u0061 $$\x7bb\x7d\\nEND $\\n\"".toList)]))) ∧
    SetsText "a $\x7bb\x7d\nEND $\n" (Native.parse "t.tf" (Native.attributeFile
      (Native.heredoc ⟨['E', 'N', 'D'], by simp, rfl⟩ "a $\x7bb\x7d\nEND $\n") true)) := by
  have h := setsText_parse "t.tf" "a $\x7bb\x7d\nEND $\n" true
  have h' := setsText_parse "t.tf.json" "a $\x7bb\x7d\nEND $\n" true
  refine ⟨h.1, h'.2.1 _ ?_, h.2.2 _ ⟨?_, ?_⟩⟩
  · rfl
  · exact .inr rfl
  · decide

end ResourceTables
