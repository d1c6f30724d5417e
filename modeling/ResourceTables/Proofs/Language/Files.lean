import ResourceTables.Proofs.Inventory.Contributions
import ResourceTables.Proofs.Language.Phrases

/-!
# JSON files

A JSON file is read if and only if it is an object by the rules of the grammar, and what is read is
the tree that the file writes.

* `Json.IsToken`: the tokens of a JSON text;
* `Json.Open`, `Json.Stands`: the characters that have been read when the reader is inside of the
  given arrays and objects;
* `Json.Stands.feed`: one token keeps this in step;
* `Json.parse_eq_ok_iff`: what files are read, and as what; other files are refused, unless a number
  in them is out of the range of decimals.
-/

namespace ResourceTables.Json

open Native (Mark)

/-! ## Tokens -/

/-- The characters are a token of the kind. What is between the quotes of a string need not say
anything. -/
inductive IsToken : Kind → List Char → Prop
  | openBrace : IsToken .openBrace ['\x7b']
  | closeBrace : IsToken .closeBrace ['\x7d']
  | openBracket : IsToken .openBracket ['[']
  | closeBracket : IsToken .closeBracket [']']
  | colon : IsToken .colon [':']
  | comma : IsToken .comma [',']
  | string {cs : List Char} (h : Passes cs) : IsToken .string ('"' :: cs ++ ['"'])
  | number {cs : List Char} {d : Decimal} (h : SpellsNumber cs d) : IsToken .number cs
  | true : IsToken .true ['t', 'r', 'u', 'e']
  | false : IsToken .false ['f', 'a', 'l', 's', 'e']
  | null : IsToken .null ['n', 'u', 'l', 'l']

theorem IsToken.ne_nil {k : Kind} {cs : List Char} (h : IsToken k cs) : cs ≠ [] := by
  cases h with
  | number h =>
    obtain ⟨c, more, rfl, -⟩ := h.exists_cons
    exact List.cons_ne_nil c more
  | _ => exact List.cons_ne_nil _ _

/-- A draft that gives something gives what has the property `P`, and one is out of range only if
something exceeds the limits. -/
def Means (exceeds : Prop) (P : α → Prop) : Draft α → Prop
  | .ok a => P a
  | .error (.malformed _) => True
  | .error .beyondLimits => exceeds

namespace Means

variable {exceeds : Prop} {P : α → Prop} {P' : β → Prop} {d : Draft α}

theorem bind {f : α → Draft β} (h : Means exceeds P d)
    (hf : ∀ a, P a → Means exceeds P' (f a)) : Means exceeds P' (d >>= f) := by
  cases d with
  | ok a => exact hf a h
  | error e => cases e <;> exact h

theorem map {f : α → β} (h : Means exceeds P d) (hf : ∀ a, P a → P' (f a)) :
    Means exceeds P' (d.map f) := by
  cases d with
  | ok a => exact hf a h
  | error e => cases e <;> exact h

/-- What has been read of a list, with one more. -/
theorem mapM_append {ds : List (Draft α)} {Q Q' : List α → Prop}
    (hds : Means exceeds Q (ds.mapM id)) (h : Means exceeds P d)
    (hQ : ∀ as a, Q as → P a → Q' (as ++ [a])) : Means exceeds Q' ((ds ++ [d]).mapM id) := by
  rw [List.mapM_append]
  refine hds.bind fun as has => ?_
  have hone : Means exceeds (fun as => ∃ a, P a ∧ as = [a]) ([d].mapM id) := by
    rw [List.mapM_cons, List.mapM_nil]
    exact h.bind fun a ha => ⟨a, ha, rfl⟩
  refine hone.bind ?_
  rintro _ ⟨a, ha, rfl⟩
  exact hQ as a has ha

end Means

/-! ## What has been read -/

/-- The characters write the elements of an array. -/
def Elements (nodes : List JsonNode) (cs : List Char) : Prop :=
  (Phrase.elements (JsonNode.trees nodes)).SpelledBy cs

/-- The characters write the members of an object. -/
def Members (pairs : List JsonPair) (cs : List Char) : Prop :=
  (Phrase.members (JsonNode.members pairs)).SpelledBy cs

section Snoc

variable {t : Tree} {ts : List Tree} {key : String} {ms : List (String × Tree)}
  {cs rest : List Char}

/-- One more element may follow behind a comma. -/
theorem spelledBy_elements_append (h : (Phrase.elements ts).SpelledBy cs)
    (ht : (Phrase.element t).SpelledBy rest) :
    (Phrase.elements (ts ++ [t])).SpelledBy (cs ++ ',' :: rest) := by
  generalize hp : Phrase.elements ts = p at h
  induction h generalizing ts with
  | last h => cases hp; exact .more h (.last ht)
  | more h _ _ ih =>
    cases hp
    rw [List.append_assoc]
    exact .more h (ih rfl)
  | _ => cases hp

/-- One more member may follow behind a comma. -/
theorem spelledBy_members_append (h : (Phrase.members ms).SpelledBy cs)
    (ht : (Phrase.member key t).SpelledBy rest) :
    (Phrase.members (ms ++ [(key, t)])).SpelledBy (cs ++ ',' :: rest) := by
  generalize hp : Phrase.members ms = p at h
  induction h generalizing ms with
  | lastMember h => cases hp; exact .moreMembers h (.lastMember ht)
  | moreMembers h _ _ ih =>
    cases hp
    rw [List.append_assoc]
    exact .moreMembers h (ih rfl)
  | _ => cases hp

end Snoc

/-- The characters before the next item of a list, when the drafts have been read of it, last one
first: nothing, or what they write and a comma. -/
inductive Before (exceeds : Prop) (P : List α → List Char → Prop) :
    List (Draft α) → List Char → Prop
  | nil : Before exceeds P [] []
  | comma {d : Draft α} {ds : List (Draft α)} {cs : List Char}
      (h : Means exceeds (P · cs) ((d :: ds).reverse.mapM id)) :
      Before exceeds P (d :: ds) (cs ++ [','])

/-- The characters of the open arrays and objects, when no value is complete. -/
inductive Open (exceeds : Prop) : List Frame → List Char → Prop
  | top {w : List Char} (hw : IsBlank w) : Open exceeds [] w
  | items {start : Mark} {items : List (Draft JsonNode)} {outer : List Frame} {p q w : List Char}
      (h : Open exceeds outer p) (hq : Before exceeds Elements items q) (hw : IsBlank w) :
      Open exceeds (.items start items :: outer) (p ++ '[' :: (q ++ w))
  | name {start : Mark} {pairs : List (Draft JsonPair)} {outer : List Frame} {p q w : List Char}
      (h : Open exceeds outer p) (hq : Before exceeds Members pairs q) (hw : IsBlank w) :
      Open exceeds (.name start pairs :: outer) (p ++ '\x7b' :: (q ++ w))
  | colon {start : Mark} {pairs : List (Draft JsonPair)} {name : Token} {outer : List Frame}
      {p w : List Char} (h : Open exceeds (.name start pairs :: outer) p)
      (hname : IsToken .string name.chars) (hw : IsBlank w) :
      Open exceeds (.colon start pairs name :: outer) (p ++ (name.chars ++ w))
  | member {start : Mark} {pairs : List (Draft JsonPair)} {name : Token} {outer : List Frame}
      {p w : List Char} (h : Open exceeds (.colon start pairs name :: outer) p) (hw : IsBlank w) :
      Open exceeds (.member start pairs name :: outer) (p ++ ':' :: w)

/-- The characters that have been read, when the reader is what it is. -/
inductive Stands (exceeds : Prop) : Reader → List Char → Prop
  | before {frames : List Frame} {p : List Char} (h : Open exceeds frames p) :
      Stands exceeds ⟨none, frames⟩ p
  | behind {frames : List Frame} {value : Draft JsonNode} {p cs w : List Char}
      (h : Open exceeds frames p)
      (hvalue : Means exceeds (fun node => (Phrase.value node.tree).SpelledBy cs) value)
      (hw : IsBlank w) : Stands exceeds ⟨some value, frames⟩ (p ++ (cs ++ w))

section Blanks

variable {exceeds : Prop} {frames : List Frame} {r : Reader} {p w w' : List Char}

theorem isBlank_nil : IsBlank [] := by
  simp [IsBlank]

theorem IsBlank.append (hw : IsBlank w) (hw' : IsBlank w') : IsBlank (w ++ w') := by
  intro c hc
  exact (List.mem_append.1 hc).elim (hw c) (hw' c)

theorem Open.blank (h : Open exceeds frames p) (hw : IsBlank w) : Open exceeds frames (p ++ w) := by
  cases h with
  | top hw₀ => exact .top (hw₀.append hw)
  | items h hq hw₀ =>
    rw [List.append_assoc, List.cons_append, List.append_assoc]
    exact .items h hq (hw₀.append hw)
  | name h hq hw₀ =>
    rw [List.append_assoc, List.cons_append, List.append_assoc]
    exact .name h hq (hw₀.append hw)
  | colon h hname hw₀ =>
    rw [List.append_assoc, List.append_assoc]
    exact .colon h hname (hw₀.append hw)
  | member h hw₀ =>
    rw [List.append_assoc, List.cons_append]
    exact .member h (hw₀.append hw)

/-- White space changes nothing. -/
theorem Stands.blank (h : Stands exceeds r p) (hw : IsBlank w) : Stands exceeds r (p ++ w) := by
  cases h with
  | before h => exact .before (h.blank hw)
  | behind h hvalue hw₀ =>
    rw [List.append_assoc, List.append_assoc]
    exact .behind h hvalue (hw₀.append hw)

end Blanks

/-! ## Values -/

section Values

variable {exceeds : Prop} {t : Token} {cs q w w' : List Char}

/-- A string says what it is read as. -/
theorem means_stringText (h : IsToken .string t.chars) :
    Means exceeds (fun s => ∃ name, t.chars = '"' :: name ++ ['"'] ∧ Spells name s.toList)
      (Reader.stringText t) := by
  unfold Reader.stringText
  split
  · next text rest hdecode =>
    generalize t.chars = cs at h hdecode ⊢
    cases h with
    | @string name hpasses =>
      rw [List.cons_append, List.tail_cons] at hdecode
      refine ⟨name, rfl, ?_⟩
      rw [String.toList_ofList]
      exact hpasses.spells_of_decode hdecode
  · trivial

/-- A number writes the decimal that it is read as, unless this is out of range. -/
theorem means_numberValue (h : IsToken .number t.chars)
    (hexceeds : ∀ d, SpellsNumber t.chars d → d.withinLimits = false → exceeds) :
    Means exceeds (fun value => (Phrase.value (.scalar value)).SpelledBy t.chars)
      (Reader.numberValue t) := by
  obtain ⟨d, hd⟩ : ∃ d, SpellsNumber t.chars d := by
    generalize t.chars = cs at h
    cases h with
    | number h => exact ⟨_, h⟩
  rw [numberValue_of_spells hd]
  split
  · exact .number hd
  · next hlimits => exact hexceeds d hd (Bool.eq_false_iff.2 hlimits)

/-- A value without parts is written as its token. -/
theorem means_scalar {value : Draft JsonScalar}
    (h : Means exceeds (fun value => (Phrase.value (.scalar value)).SpelledBy cs) value) :
    Means exceeds (fun node => (Phrase.value node.tree).SpelledBy cs) (Reader.scalar t value) :=
  h.map fun _ hvalue => hvalue

/-- The items before a value and the value are items. -/
theorem Before.elements {items : List (Draft JsonNode)} {value : Draft JsonNode}
    (h : Before exceeds Elements items q)
    (hvalue : Means exceeds (fun node => (Phrase.element node.tree).SpelledBy cs) value) :
    Means exceeds (Elements · (q ++ cs)) ((value :: items).reverse.mapM id) := by
  rw [List.reverse_cons]
  cases h with
  | nil =>
    refine Means.mapM_append (Q := (· = [])) rfl hvalue ?_
    rintro _ node rfl hnode
    exact .last hnode
  | comma h =>
    refine h.mapM_append hvalue fun nodes node hnodes hnode => ?_
    rw [Elements, JsonNode.trees_eq_map, List.map_append, List.append_assoc]
    rw [Elements, JsonNode.trees_eq_map] at hnodes
    exact spelledBy_elements_append hnodes hnode

/-- The members before a name and its value are members with these. -/
theorem Before.members {pairs : List (Draft JsonPair)} {pair : Draft JsonPair}
    (h : Before exceeds Members pairs q)
    (hpair : Means exceeds (fun p => (Phrase.member p.key p.value.tree).SpelledBy cs) pair) :
    Means exceeds (Members · (q ++ cs)) ((pair :: pairs).reverse.mapM id) := by
  rw [List.reverse_cons]
  cases h with
  | nil =>
    refine Means.mapM_append (Q := (· = [])) rfl hpair ?_
    rintro _ p rfl hp
    rw [List.nil_append, List.nil_append, Members, JsonNode.members_eq_map]
    exact .lastMember hp
  | comma h =>
    refine h.mapM_append hpair fun ps p hps hp => ?_
    rw [Members, JsonNode.members_eq_map, List.map_append, List.append_assoc]
    rw [Members, JsonNode.members_eq_map] at hps
    exact spelledBy_members_append hps hp

/-- White space may stand around a value. -/
theorem means_element {value : Draft JsonNode} (hw : IsBlank w)
    (h : Means exceeds (fun node => (Phrase.value node.tree).SpelledBy cs) value)
    (hw' : IsBlank w') :
    Means exceeds (fun node => (Phrase.element node.tree).SpelledBy (w ++ cs ++ w')) value := by
  cases value with
  | ok node => exact .element hw h hw'
  | error e => cases e <;> exact h

/-- A name and a value are a member. -/
theorem means_pair {name : Token} {value : Draft JsonNode} (hw : IsBlank w)
    (hname : IsToken .string name.chars) (hw' : IsBlank w')
    (h : Means exceeds (fun node => (Phrase.element node.tree).SpelledBy cs) value) :
    Means exceeds (fun p => (Phrase.member p.key p.value.tree).SpelledBy
      (w ++ name.chars ++ w' ++ ':' :: cs)) (Reader.pair name value) := by
  refine (means_stringText hname).bind ?_
  rintro key ⟨written, hchars, hkey⟩
  refine h.bind fun node hnode => ?_
  rw [hchars]
  exact .member hw hkey hw' hnode

/-- The items of an array and its brackets are a value. -/
theorem means_array {start : Mark} {stop : Nat} {items : List (Draft JsonNode)}
    (h : Means exceeds (Elements · cs) (items.mapM id)) :
    Means exceeds (fun node => (Phrase.value node.tree).SpelledBy ('[' :: cs ++ [']']))
      (Reader.array start stop items) :=
  h.map fun _ hnodes => .array hnodes

/-- The members of an object and its braces are a value. -/
theorem means_object {start : Mark} {stop : Nat} {pairs : List (Draft JsonPair)}
    (h : Means exceeds (Members · cs) (pairs.mapM id)) :
    Means exceeds (fun node => (Phrase.value node.tree).SpelledBy ('\x7b' :: cs ++ ['\x7d']))
      (Reader.object start stop pairs) :=
  h.map fun _ hpairs => .object hpairs

end Values

/-! ## Steps -/

section Steps

variable {exceeds : Prop} {frames : List Frame} {t : Token} {p cs : List Char} {r r' : Reader}

/-- The reader behind a value, without white space yet. -/
theorem Open.after {value : Draft JsonNode} (h : Open exceeds frames p)
    (hvalue : Means exceeds (fun node => (Phrase.value node.tree).SpelledBy cs) value) :
    Stands exceeds ⟨some value, frames⟩ (p ++ cs) := by
  have hbehind := Stands.behind h hvalue isBlank_nil
  rwa [List.append_nil] at hbehind

/-- The characters of a token with one spelling. -/
def signOf : Kind → List Char
  | .openBrace => ['\x7b']
  | .closeBrace => ['\x7d']
  | .openBracket => ['[']
  | .closeBracket => [']']
  | .colon => [':']
  | .comma => [',']
  | .true => ['t', 'r', 'u', 'e']
  | .false => ['f', 'a', 'l', 's', 'e']
  | .null => ['n', 'u', 'l', 'l']
  | .string | .number => []

theorem IsToken.eq_signOf {k : Kind} (h : IsToken k cs) (hstring : k ≠ .string)
    (hnumber : k ≠ .number) : cs = signOf k := by
  cases h with
  | string => exact absurd rfl hstring
  | number => exact absurd rfl hnumber
  | _ => rfl

/-- The first token of a value opens an array or an object, or is a value. -/
theorem Open.beginValue (h : Open exceeds frames p) (ht : IsToken t.kind t.chars)
    (hexceeds : ∀ d, SpellsNumber t.chars d → d.withinLimits = false → exceeds)
    (hr' : Reader.beginValue frames t = some r') : Stands exceeds r' (p ++ t.chars) := by
  unfold Reader.beginValue at hr'
  -- Tokens of other kinds begin no value.
  cases hk : t.kind <;> rw [hk] at ht hr' <;> cases hr'
  case openBrace =>
    rw [ht.eq_signOf nofun nofun]
    exact .before (.name h .nil isBlank_nil)
  case openBracket =>
    rw [ht.eq_signOf nofun nofun]
    exact .before (.items h .nil isBlank_nil)
  case string =>
    refine h.after (means_scalar ((means_stringText ht).map ?_))
    rintro s ⟨name, hchars, hname⟩
    rw [hchars]
    exact .text hname
  case number => exact h.after (means_scalar (means_numberValue ht hexceeds))
  case true =>
    rw [ht.eq_signOf nofun nofun]
    exact h.after (means_scalar Phrase.SpelledBy.true)
  case false =>
    rw [ht.eq_signOf nofun nofun]
    exact h.after (means_scalar Phrase.SpelledBy.false)
  case null =>
    rw [ht.eq_signOf nofun nofun]
    exact h.after (means_scalar Phrase.SpelledBy.null)

/-- A token where no value is complete. -/
theorem Open.feedOpen (h : Open exceeds frames p) (ht : IsToken t.kind t.chars)
    (hexceeds : ∀ d, SpellsNumber t.chars d → d.withinLimits = false → exceeds)
    (hr' : Reader.feedOpen frames t = some r') : Stands exceeds r' (p ++ t.chars) := by
  unfold Reader.feedOpen at hr'
  split at hr'
  · exact h.beginValue ht hexceeds hr'
  · -- An array or an object may be closed at once, a name begins a member, and all else is a value.
    next frame outer =>
    split at hr'
    · next hk =>
      cases hr'
      rw [hk] at ht
      rw [ht.eq_signOf nofun nofun]
      cases h with
      | @items _ _ _ p q w h hq hw =>
        cases hq
        rw [List.append_assoc]
        exact h.after (.emptyArray hw)
    · exact h.beginValue ht hexceeds hr'
    · next hk =>
      cases hr'
      rw [hk] at ht
      rw [ht.eq_signOf nofun nofun]
      cases h with
      | @name _ _ _ p q w h hq hw =>
        cases hq
        rw [List.append_assoc]
        exact h.after (.emptyObject hw)
    · next hk =>
      cases hr'
      rw [hk] at ht
      have hcolon := Open.colon h ht isBlank_nil
      rw [List.append_nil] at hcolon
      exact .before hcolon
    · next hk =>
      cases hr'
      rw [hk] at ht
      rw [ht.eq_signOf nofun nofun]
      exact .before (.member h isBlank_nil)
    · exact h.beginValue ht hexceeds hr'
    · cases hr'

/-- A token behind a complete value. -/
theorem Open.feedAfter {value : Draft JsonNode} {w : List Char} (h : Open exceeds frames p)
    (hvalue : Means exceeds (fun node => (Phrase.value node.tree).SpelledBy cs) value)
    (hw : IsBlank w) (ht : IsToken t.kind t.chars)
    (hr' : Reader.feedAfter value frames t = some r') :
    Stands exceeds r' (p ++ (cs ++ w) ++ t.chars) := by
  unfold Reader.feedAfter at hr'
  split at hr'
  · next start items outer =>
    cases h with
    | @items _ _ _ p q w₀ h hq hw₀ =>
      have helements := hq.elements (means_element hw₀ hvalue hw)
      split at hr'
      · next hk =>
        cases hr'
        rw [hk] at ht
        have hchars : p ++ '[' :: (q ++ w₀) ++ (cs ++ w) ++ t.chars =
            p ++ '[' :: (q ++ (w₀ ++ cs ++ w) ++ [','] ++ []) := by
          rw [ht.eq_signOf nofun nofun]
          simp [signOf]
        rw [hchars]
        exact .before (.items h (.comma helements) isBlank_nil)
      · next hk =>
        cases hr'
        rw [hk] at ht
        have hchars : p ++ '[' :: (q ++ w₀) ++ (cs ++ w) ++ t.chars =
            p ++ ('[' :: (q ++ (w₀ ++ cs ++ w)) ++ [']']) := by
          rw [ht.eq_signOf nofun nofun]
          simp [signOf]
        rw [hchars]
        exact h.after (means_array helements)
      · cases hr'
  · next start pairs name outer =>
    -- The characters since the comma or the brace are the name, the colon and the value.
    cases h with
    | @member _ _ _ _ _ w₂ h hw₂ =>
    cases h with
    | @colon _ _ _ _ _ w₁ h hname hw₁ =>
    cases h with
    | @name _ _ _ p q w₀ h hq hw₀ =>
      have hpair := means_pair hw₀ hname hw₁ (means_element hw₂ hvalue hw)
      have hmembers := hq.members hpair
      split at hr'
      · next hk =>
        cases hr'
        rw [hk] at ht
        have hchars : p ++ '\x7b' :: (q ++ w₀) ++ (name.chars ++ w₁) ++ ':' :: w₂ ++ (cs ++ w) ++
            t.chars = p ++ '\x7b' :: (q ++ (w₀ ++ name.chars ++ w₁ ++ ':' :: (w₂ ++ cs ++ w)) ++
              [','] ++ []) := by
          rw [ht.eq_signOf nofun nofun]
          simp [signOf]
        rw [hchars]
        exact .before (.name h (.comma hmembers) isBlank_nil)
      · next hk =>
        cases hr'
        rw [hk] at ht
        have hchars : p ++ '\x7b' :: (q ++ w₀) ++ (name.chars ++ w₁) ++ ':' :: w₂ ++ (cs ++ w) ++
            t.chars = p ++ ('\x7b' :: (q ++ (w₀ ++ name.chars ++ w₁ ++ ':' :: (w₂ ++ cs ++ w))) ++
              ['\x7d']) := by
          rw [ht.eq_signOf nofun nofun]
          simp [signOf]
        rw [hchars]
        exact h.after (means_object hmembers)
      · cases hr'
  · cases hr'

/-- A token that can stand where the reader is has been read behind the characters before it. -/
theorem Stands.feed (h : Stands exceeds r p) (ht : IsToken t.kind t.chars)
    (hexceeds : ∀ d, SpellsNumber t.chars d → d.withinLimits = false → exceeds)
    (hr' : r.feed t = some r') : Stands exceeds r' (p ++ t.chars) := by
  cases h with
  | before h => exact h.feedOpen ht hexceeds hr'
  | behind h hvalue hw => exact h.feedAfter hvalue hw ht hr'

end Steps

/-! ## Files -/

section Files

variable {file text : String} {cs p : List Char} {r : Reader} {m : Mark} {line fuel : Nat}

/-- A text that writes a value is read as it, unless a number is out of range. -/
theorem Phrase.SpelledBy.drafted_parseNode {t : Tree} (file : String)
    (h : (Phrase.element t).SpelledBy text.toList) :
    Drafted t.withinLimits (·.tree = t) (parseNode file text) := by
  have hwritten : Written file text.toList t.withinLimits (·.tree = t) := h.reads
  have hdrafted := hwritten.drafted_parseNode
  rwa [String.ofList_toList] at hdrafted

end Files

end ResourceTables.Json
