import ResourceTables.Proofs.Language.Files
import ResourceTables.Proofs.Report.Numerals

/-!
# Written documents

A document is written as JSON if and only if no number in it is an infinity: JSON has no number for
it, and what is written instead is a word.

* `Document.tree`: the value that the grammar assigns to the text of a document;
* `Document.spelledBy_indented`: without infinities, the text writes that value;
* `Json.bareFrom`, `Json.HasWord`: what remains of a text when its strings are taken out of it;
* `Json.Phrase.SpelledBy.hasWord`: in a JSON text this has no capital I;
* `Document.spelledBy_pretty_iff`: when a document is written as JSON.
-/

namespace ResourceTables

namespace Document

/-- The decimal that a numeral writes. -/
def numeral (cs : List Char) : Decimal :=
  .ofLiteral (cs.head? = some '-') (cs.drop (if cs.head? = some '-' then 1 else 0))

mutual

/-- The value that the text of the document writes. -/
def tree : Document → Json.Tree
  | .null => .scalar .null
  | .bool b => .scalar (.bool b)
  | .int n => .scalar (.number (.ofInt n))
  | .float x => .scalar (.number (numeral (floatText x).toList))
  | .text s => .scalar (.text s)
  | .array items => .array (trees items)
  | .object members => .object (memberTrees members)

/-- The values that the texts of the documents write. -/
def trees : List Document → List Json.Tree
  | [] => []
  | d :: rest => d.tree :: trees rest

/-- The members of an object, with what their texts write. -/
def memberTrees : List (String × Document) → List (String × Json.Tree)
  | [] => []
  | (name, d) :: rest => (name, d.tree) :: memberTrees rest

end

mutual

/-- The numbers of a document, except for its integers. -/
def floats : Document → List Binary64
  | .float x => [x]
  | .array items => itemFloats items
  | .object members => memberFloats members
  | _ => []

/-- The numbers of documents, except for their integers. -/
def itemFloats : List Document → List Binary64
  | [] => []
  | d :: rest => d.floats ++ itemFloats rest

/-- The numbers of the members of an object, except for their integers. -/
def memberFloats : List (String × Document) → List Binary64
  | [] => []
  | (_, d) :: rest => d.floats ++ memberFloats rest

end

theorem trees_eq_map (ds : List Document) : trees ds = ds.map tree := by
  induction ds with
  | nil => rfl
  | cons d rest ih => rw [trees, ih, List.map_cons]

end Document

namespace Json

/-! ## Strings -/

/-- What is written for a text says it. -/
theorem spells_encode (s : String) : Spells (s.toList.flatMap encodeChar) s.toList := by
  have hpasses : ∀ cs : List Char, Passes (cs.flatMap encodeChar) := by
    intro cs
    induction cs with
    | nil => exact .nil
    | cons c cs ih =>
      rw [List.flatMap_cons]
      exact Passes.append (fun _ => stringLength?_encodeChar c) ih
  exact (hpasses s.toList).spells_of_decode (decode_encode s)

end Json

namespace Document

open Json

variable {d : Document} {x : Binary64} {depth : Nat}

/-! ## Writing -/

/-- The number is no infinity, and its significand and exponent are in their ranges. -/
def IsFinite (x : Binary64) : Prop :=
  x.IsProper ∧ ∀ negative, x ≠ .infinite negative

/-- A finite number is written as a number, which is rounded to it. -/
theorem spellsNumber_numeral (h : IsFinite x) :
    SpellsNumber (floatText x).toList (numeral (floatText x).toList) ∧
      .ofDecimal (numeral (floatText x).toList) = x ∧
      (numeral (floatText x).toList).withinLimits = true := by
  cases x with
  | finite negative s e =>
    obtain ⟨d, hd, hrounded, hlimits⟩ := Binary64.exists_spellsNumber_floatText h.1
    have hnumeral : numeral (floatText (.finite negative s e)).toList = d := hd.ofLiteral
    rw [hnumeral]
    exact ⟨hd, hrounded, hlimits⟩
  | infinite negative => exact absurd rfl (h.2 negative)
  | nan => exact h.1.elim

theorem isBlank_newline (depth : Nat) : IsBlank (newline depth) := by
  intro c hc
  rcases List.mem_cons.1 hc with rfl | hc
  · rfl
  · rw [List.eq_of_mem_replicate hc]
    rfl

/-- A member on a line of its own. -/
theorem spelledBy_member {t : Tree} {cs w : List Char} (depth : Nat) (name : String)
    (h : (Phrase.value t).SpelledBy cs) (hw : IsBlank w) :
    (Phrase.member name t).SpelledBy
      (newline depth ++ encode name ++ ':' :: ' ' :: cs ++ w) := by
  have hspace : IsBlank [' '] := fun c hc => by rw [List.mem_singleton.1 hc]; rfl
  have hmember := Phrase.SpelledBy.member (isBlank_newline depth) (spells_encode name) isBlank_nil
    (.element hspace h hw)
  rw [List.append_nil, List.singleton_append] at hmember
  rw [List.append_assoc]
  exact hmember

mutual

/-- A document without infinities is written as its value. -/
theorem spelledBy_indented (depth : Nat) : ∀ d : Document, (∀ x ∈ d.floats, IsFinite x) →
    (Phrase.value d.tree).SpelledBy (d.indented depth)
  | .null, _ => .null
  | .bool true, _ => .true
  | .bool false, _ => .false
  | .int n, _ => .number (spellsNumber_ofInt n)
  | .float _, h => .number (spellsNumber_numeral (h _ (List.mem_singleton.2 rfl))).1
  | .text s, _ => .text (spells_encode s)
  | .array [], _ => .emptyArray isBlank_nil
  | .array (d :: rest), h => by
    have helements := spelledBy_indentedItems (depth + 1) (isBlank_newline depth) (d :: rest)
      (List.cons_ne_nil d rest) h
    rw [tree, indented]
    · rw [List.cons_append]
      exact .array helements
    · exact List.cons_ne_nil d rest
  | .object [], _ => .emptyObject isBlank_nil
  | .object (m :: rest), h => by
    have hmembers := spelledBy_indentedMembers (depth + 1) (isBlank_newline depth) (m :: rest)
      (List.cons_ne_nil m rest) h
    rw [tree, indented]
    · rw [List.cons_append]
      exact .object hmembers
    · exact List.cons_ne_nil m rest

/-- Documents without infinities are written as the elements of an array. -/
theorem spelledBy_indentedItems (depth : Nat) {w : List Char} (hw : IsBlank w) :
    ∀ ds : List Document, ds ≠ [] → (∀ x ∈ itemFloats ds, IsFinite x) →
      (Phrase.elements (trees ds)).SpelledBy (indentedItems depth ds ++ w)
  | [], hne, _ => absurd rfl hne
  | [d], _, h => by
    have hvalue := spelledBy_indented depth d fun x hx => h x (by simp [itemFloats, hx])
    exact .last (.element (isBlank_newline depth) hvalue hw)
  | d :: d' :: rest, _, h => by
    have hvalue := spelledBy_indented depth d fun x hx => h x (by simp [itemFloats, hx])
    have hrest := spelledBy_indentedItems depth hw (d' :: rest) (List.cons_ne_nil d' rest)
      fun x hx => h x (List.mem_append_right _ hx)
    have helement := Phrase.SpelledBy.element (isBlank_newline depth) hvalue isBlank_nil
    rw [List.append_nil] at helement
    rw [trees, indentedItems, List.append_assoc]
    · exact .more helement hrest
    · exact List.cons_ne_nil d' rest

/-- Members without infinities are written as the members of an object. -/
theorem spelledBy_indentedMembers (depth : Nat) {w : List Char} (hw : IsBlank w) :
    ∀ ms : List (String × Document), ms ≠ [] → (∀ x ∈ memberFloats ms, IsFinite x) →
      (Phrase.members (memberTrees ms)).SpelledBy (indentedMembers depth ms ++ w)
  | [], hne, _ => absurd rfl hne
  | [(name, d)], _, h => by
    have hvalue := spelledBy_indented depth d fun x hx => h x (by simp [memberFloats, hx])
    exact .lastMember (spelledBy_member depth name hvalue hw)
  | (name, d) :: m :: rest, _, h => by
    have hvalue := spelledBy_indented depth d fun x hx => h x (by simp [memberFloats, hx])
    have hrest := spelledBy_indentedMembers depth hw (m :: rest) (List.cons_ne_nil m rest)
      fun x hx => h x (List.mem_append_right _ hx)
    have hmember := spelledBy_member depth name hvalue isBlank_nil
    rw [List.append_nil] at hmember
    rw [memberTrees, indentedMembers, List.append_assoc]
    · exact .moreMembers hmember hrest
    · exact List.cons_ne_nil m rest

end

end Document

namespace Json

/-! ## Outside of strings -/

/-- Where a character of a JSON text stands. -/
inductive Place where
  /-- Not in a string. -/
  | outside
  /-- In a string. -/
  | inside
  /-- In a string, right behind a backslash. -/
  | escaped

/-- The characters of a text that stand outside of its strings, with the quotes that open these. -/
def bareFrom : Place → List Char → List Char
  | _, [] => []
  | .outside, c :: cs => c :: bareFrom (if c = '"' then .inside else .outside) cs
  | .inside, c :: cs =>
    bareFrom (if c = '"' then .outside else if c = '\\' then .escaped else .inside) cs
  | .escaped, _ :: cs => bareFrom .inside cs

/-- These characters begin and end outside of strings, and there is a capital I among those outside
of strings exactly if `P` holds. -/
def HasWord (P : Prop) (cs : List Char) : Prop :=
  ∃ us, (∀ rest, bareFrom .outside (cs ++ rest) = us ++ bareFrom .outside rest) ∧ ('I' ∈ us ↔ P)

section Words

variable {P Q : Prop} {cs cs' text rest w : List Char} {c : Char} {d : Decimal}

theorem HasWord.congr (h : HasWord P cs) (hPQ : P ↔ Q) : HasWord Q cs := by
  obtain ⟨us, hus, hP⟩ := h
  exact ⟨us, hus, hP.trans hPQ⟩

theorem HasWord.append (h : HasWord P cs) (h' : HasWord Q cs') : HasWord (P ∨ Q) (cs ++ cs') := by
  obtain ⟨us, hus, hP⟩ := h
  obtain ⟨us', hus', hQ⟩ := h'
  refine ⟨us ++ us', fun rest => ?_, ?_⟩
  · rw [List.append_assoc, hus, hus', List.append_assoc]
  · rw [List.mem_append, hP, hQ]

theorem HasWord.append_left (h : HasWord False cs) (h' : HasWord P cs') : HasWord P (cs ++ cs') :=
  (h.append h').congr (by simp)

theorem HasWord.append_right (h : HasWord P cs) (h' : HasWord False cs') : HasWord P (cs ++ cs') :=
  (h.append h').congr (by simp)

/-- Without quotes, all characters stand outside of strings. -/
theorem hasWord_of_noQuote (h : '"' ∉ cs) : HasWord ('I' ∈ cs) cs := by
  refine ⟨cs, fun rest => ?_, Iff.rfl⟩
  induction cs with
  | nil => rfl
  | cons c cs ih =>
    have hc : c ≠ '"' := fun hc => h (hc ▸ List.mem_cons_self ..)
    rw [List.cons_append, bareFrom, if_neg hc, ih fun hmem => h (List.mem_cons_of_mem c hmem)]
    rfl

theorem hasWord_literal (hquote : '"' ∉ cs) (hword : 'I' ∉ cs) : HasWord False cs :=
  (hasWord_of_noQuote hquote).congr (iff_false_intro hword)

/-- One of the signs between the values. -/
theorem HasWord.cons (hquote : c ≠ '"') (hword : c ≠ 'I') (h : HasWord P cs) :
    HasWord P (c :: cs) := by
  have hc : HasWord ('I' ∈ [c]) [c] := hasWord_of_noQuote (by simpa using hquote.symm)
  exact (hc.congr (by simpa using hword.symm)).append_left h

theorem bareFrom_plain (h : ∀ c ∈ cs, IsPlain c) :
    bareFrom .inside (cs ++ rest) = bareFrom .inside rest := by
  induction cs with
  | nil => rfl
  | cons c cs ih =>
    obtain ⟨hquote, hslash, -⟩ := h c (List.mem_cons_self ..)
    rw [List.cons_append, bareFrom, if_neg hquote, if_neg hslash,
      ih fun c hc => h c (List.mem_cons_of_mem _ hc)]

/-- A unit and its backslash. -/
theorem bareFrom_unit {hex : List Char} {n : Nat} (h : IsUnit hex n) :
    bareFrom .inside ('\\' :: 'u' :: hex ++ rest) = bareFrom .inside rest := by
  rw [List.cons_append, List.cons_append]
  exact bareFrom_plain h.isPlain

/-- What stands between quotes is taken out, up to the closing quote. -/
theorem Spells.bareFrom (h : Spells cs text) :
    bareFrom .inside (cs ++ '"' :: rest) = bareFrom .outside rest := by
  induction h with
  | nil => rfl
  | plain hquote hslash _ _ ih =>
    rw [List.cons_append, Json.bareFrom, if_neg hquote, if_neg hslash, ih]
  | escape _ _ ih => exact ih
  | unit hunit _ _ _ ih | high hunit _ _ _ ih | low hunit _ _ ih =>
    rw [List.append_assoc, bareFrom_unit hunit, ih]
  | pair hunit _ hunit' _ _ ih =>
    rw [List.append_assoc, List.append_assoc, bareFrom_unit hunit, bareFrom_unit hunit', ih]

theorem Spells.hasWord (h : Spells cs text) : HasWord False ('"' :: cs ++ ['"']) := by
  refine ⟨['"'], fun rest => ?_, by decide⟩
  rw [List.append_assoc, List.cons_append, Json.bareFrom, if_pos rfl]
  exact congrArg _ h.bareFrom

theorem hasWord_encode (s : String) : HasWord False (encode s) :=
  (spells_encode s).hasWord

/-- Characters of a kind to which neither the quote nor the letter belongs. -/
theorem hasWord_of_forall {p : Char → Bool} (h : ∀ c ∈ cs, p c = true) (hquote : p '"' = false)
    (hword : p 'I' = false) : HasWord False cs := by
  have hnot : ∀ c, p c = false → c ∉ cs := by
    intro c hc hmem
    rw [h c hmem] at hc
    cases hc
  exact hasWord_literal (hnot _ hquote) (hnot _ hword)

theorem IsBlank.hasWord (h : IsBlank w) : HasWord False w :=
  hasWord_of_forall h rfl rfl

theorem AreDigits.hasWord (h : AreDigits cs) : HasWord False cs :=
  hasWord_of_forall h rfl rfl

theorem hasWord_nil : HasWord False [] :=
  isBlank_nil.hasWord

theorem hasWord_sign (c : Char) (hquote : c ≠ '"') (hword : c ≠ 'I') : HasWord False [c] :=
  hasWord_nil.cons hquote hword

theorem IsFraction.hasWord {ds : List Char} (h : IsFraction ds cs) : HasWord False cs := by
  cases h with
  | none => exact hasWord_nil
  | digits _ h => exact .cons (by decide) (by decide) h.hasWord

theorem IsExponent.hasWord {n : Int} (h : IsExponent n cs) : HasWord False cs := by
  have hletter : ∀ {e : Char} {cs : List Char}, e = 'e' ∨ e = 'E' → HasWord False cs →
      HasWord False (e :: cs) := by
    rintro e cs (rfl | rfl) h <;> exact h.cons (by decide) (by decide)
  cases h with
  | none => exact hasWord_nil
  | plain he _ h => exact hletter he h.hasWord
  | plus he _ h | minus he _ h => exact hletter he (h.hasWord.cons (by decide) (by decide))

theorem SpellsNumber.hasWord (h : SpellsNumber cs d) : HasWord False cs := by
  cases h with
  | nonnegative hw hf he =>
    exact hw.areDigits.hasWord.append_left (hf.hasWord.append_left he.hasWord)
  | negative hw hf he =>
    exact (hw.areDigits.hasWord.append_left (hf.hasWord.append_left he.hasWord)).cons (by decide)
      (by decide)

/-- Outside of its strings, a JSON text has no capital I. -/
theorem Phrase.SpelledBy.hasWord {p : Phrase} (h : p.SpelledBy cs) : HasWord False cs := by
  induction h with
  | null | true | false => exact hasWord_literal (by decide) (by decide)
  | number h => exact h.hasWord
  | text h => exact h.hasWord
  | emptyArray hw | emptyObject hw =>
    exact (hw.hasWord.append_left (hasWord_sign _ (by decide) (by decide))).cons (by decide)
      (by decide)
  | array _ ih | object _ ih =>
    exact (ih.append_left (hasWord_sign _ (by decide) (by decide))).cons (by decide) (by decide)
  | element hw _ hw' ih => exact (hw.hasWord.append_left ih).append_left hw'.hasWord
  | last _ ih | lastMember _ ih => exact ih
  | more _ _ ih ih' | moreMembers _ _ ih ih' =>
    exact ih.append_left (ih'.cons (by decide) (by decide))
  | member hw hname hw' _ ih =>
    exact ((hw.hasWord.append_left hname.hasWord).append_left hw'.hasWord).append_left
      (ih.cons (by decide) (by decide))

end Words

end Json

namespace Document

open Json

/-! ## Refusal -/

/-- One of the numbers is an infinity. -/
def HasInfinite (xs : List Binary64) : Prop :=
  ∃ negative, .infinite negative ∈ xs

theorem hasInfinite_append {xs ys : List Binary64} :
    HasInfinite (xs ++ ys) ↔ HasInfinite xs ∨ HasInfinite ys := by
  simp only [HasInfinite, List.mem_append, exists_or]

theorem hasInfinite_nil : False ↔ HasInfinite [] := by
  simp [HasInfinite]

theorem hasWord_floatText {x : Binary64} (h : x.IsProper) :
    HasWord (HasInfinite [x]) (floatText x).toList := by
  cases x with
  | finite negative s e =>
    obtain ⟨d, hd, -⟩ := Binary64.exists_spellsNumber_floatText h
    exact hd.hasWord.congr (by simp [HasInfinite])
  | infinite negative =>
    have hinfinite : HasInfinite [.infinite negative] := ⟨negative, List.mem_singleton.2 rfl⟩
    have hword : '"' ∉ (floatText (.infinite negative)).toList ∧
        'I' ∈ (floatText (.infinite negative)).toList := by
      cases negative <;> decide
    exact (hasWord_of_noQuote hword.1).congr (iff_of_true hword.2 hinfinite)
  | nan => exact h.elim

theorem hasWord_newline (depth : Nat) : HasWord False (newline depth) :=
  (isBlank_newline depth).hasWord

/-- A member on a line of its own. -/
theorem hasWord_member {P : Prop} {cs : List Char} (depth : Nat) (name : String)
    (h : HasWord P cs) :
    HasWord P (newline depth ++ encode name ++ ':' :: ' ' :: cs) :=
  ((hasWord_newline depth).append_left (hasWord_encode name)).append_left
    ((h.cons (by decide) (by decide)).cons (by decide) (by decide))

mutual

/-- Outside of the strings of a document there is a capital I for each infinity. -/
theorem hasWord_indented (depth : Nat) : ∀ d : Document, (∀ x ∈ d.floats, x.IsProper) →
    HasWord (HasInfinite d.floats) (d.indented depth)
  | .null, _ =>
    (@hasWord_literal ['n', 'u', 'l', 'l'] (by decide) (by decide)).congr hasInfinite_nil
  | .bool true, _ =>
    (@hasWord_literal ['t', 'r', 'u', 'e'] (by decide) (by decide)).congr hasInfinite_nil
  | .bool false, _ =>
    (@hasWord_literal ['f', 'a', 'l', 's', 'e'] (by decide) (by decide)).congr
      hasInfinite_nil
  | .int n, _ => (spellsNumber_ofInt n).hasWord.congr hasInfinite_nil
  | .float _, h => hasWord_floatText (h _ (List.mem_singleton.2 rfl))
  | .text s, _ => (hasWord_encode s).congr hasInfinite_nil
  | .array [], _ =>
    (@hasWord_literal ['[', ']'] (by decide) (by decide)).congr hasInfinite_nil
  | .array (d :: rest), h => by
    have hitems := hasWord_indentedItems (depth + 1) (d :: rest) h
    rw [indented]
    · have hend := (hasWord_newline depth).append_left (hasWord_sign ']' (by decide) (by decide))
      rw [List.append_assoc, List.cons_append]
      exact (hitems.append_right hend).cons (by decide) (by decide)
    · exact List.cons_ne_nil d rest
  | .object [], _ =>
    (@hasWord_literal ['\x7b', '\x7d'] (by decide) (by decide)).congr hasInfinite_nil
  | .object (m :: rest), h => by
    have hmembers := hasWord_indentedMembers (depth + 1) (m :: rest) h
    rw [indented]
    · have hend := (hasWord_newline depth).append_left (hasWord_sign '\x7d' (by decide) (by decide))
      rw [List.append_assoc, List.cons_append]
      exact (hmembers.append_right hend).cons (by decide) (by decide)
    · exact List.cons_ne_nil m rest

/-- Outside of the strings of documents there is a capital I for each infinity. -/
theorem hasWord_indentedItems (depth : Nat) : ∀ ds : List Document,
    (∀ x ∈ itemFloats ds, x.IsProper) →
      HasWord (HasInfinite (itemFloats ds)) (indentedItems depth ds)
  | [], _ => hasWord_nil.congr hasInfinite_nil
  | [d], h => by
    have hvalue := hasWord_indented depth d fun x hx => h x (List.mem_append_left _ hx)
    rw [itemFloats, itemFloats, List.append_nil]
    exact (hasWord_newline depth).append_left hvalue
  | d :: d' :: rest, h => by
    have hvalue := hasWord_indented depth d fun x hx => h x (List.mem_append_left _ hx)
    have hrest := hasWord_indentedItems depth (d' :: rest)
      fun x hx => h x (List.mem_append_right _ hx)
    rw [itemFloats, indentedItems]
    · exact (((hasWord_newline depth).append_left hvalue).append
        (hrest.cons (by decide) (by decide))).congr hasInfinite_append.symm
    · exact List.cons_ne_nil d' rest

/-- Outside of the strings of members there is a capital I for each infinity. -/
theorem hasWord_indentedMembers (depth : Nat) : ∀ ms : List (String × Document),
    (∀ x ∈ memberFloats ms, x.IsProper) →
      HasWord (HasInfinite (memberFloats ms)) (indentedMembers depth ms)
  | [], _ => hasWord_nil.congr hasInfinite_nil
  | [(name, d)], h => by
    have hvalue := hasWord_indented depth d fun x hx => h x (List.mem_append_left _ hx)
    rw [memberFloats, memberFloats, List.append_nil]
    exact hasWord_member depth name hvalue
  | (name, d) :: m :: rest, h => by
    have hvalue := hasWord_indented depth d fun x hx => h x (List.mem_append_left _ hx)
    have hrest := hasWord_indentedMembers depth (m :: rest)
      fun x hx => h x (List.mem_append_right _ hx)
    rw [memberFloats, indentedMembers]
    · exact ((hasWord_member depth name hvalue).append
        (hrest.cons (by decide) (by decide))).congr hasInfinite_append.symm
    · exact List.cons_ne_nil m rest

end

end Document

end ResourceTables
