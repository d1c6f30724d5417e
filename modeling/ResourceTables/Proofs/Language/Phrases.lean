import Mathlib.Data.List.Forall2
import ResourceTables.Proofs.Language.Numbers
import ResourceTables.Proofs.Language.Strings

/-!
# The language of JSON values

Which characters are a JSON value, with white space between the tokens, and which tree they write.
The rules are those of the JSON grammar; every rule that a value is built with is one that the
reader follows.

* `Json.Tree`, `JsonNode.tree`: a value without its places;
* `Json.Phrase.SpelledBy`: the characters of the values, arrays and objects of a JSON text;
* `Json.Gives.skip`: white space between tokens does not matter;
* `Json.Phrase.SpelledBy.reads`: characters that write a phrase are read as the tree of it.
-/

namespace ResourceTables

namespace Json

/-- A JSON value: its members are kept in order, also those that repeat a name, and numbers are
exact decimals. -/
inductive Tree where
  /-- A value without parts. -/
  | scalar (value : JsonScalar)
  /-- An array. -/
  | array (items : List Tree)
  /-- An object. -/
  | object (members : List (String × Tree))

mutual

/-- Whether all numbers in the value are in the range of decimals. -/
def Tree.withinLimits : Tree → Bool
  | .scalar (.number d) => d.withinLimits
  | .scalar _ => true
  | .array items => allWithinLimits items
  | .object members => membersWithinLimits members

/-- Whether all numbers in the values are in the range of decimals. -/
def Tree.allWithinLimits : List Tree → Bool
  | [] => true
  | t :: rest => t.withinLimits && allWithinLimits rest

/-- Whether all numbers in the members are in the range of decimals. -/
def Tree.membersWithinLimits : List (String × Tree) → Bool
  | [] => true
  | (_, t) :: rest => t.withinLimits && membersWithinLimits rest

end

end Json

mutual

/-- The value without its places. -/
def JsonNode.tree : JsonNode → Json.Tree
  | .scalar _ value => .scalar value
  | .array _ items => .array (trees items)
  | .object _ pairs => .object (members pairs)

/-- The values without their places. -/
def JsonNode.trees : List JsonNode → List Json.Tree
  | [] => []
  | node :: rest => node.tree :: trees rest

/-- The members of an object without their places. -/
def JsonNode.members : List JsonPair → List (String × Json.Tree)
  | [] => []
  | .mk key _ value :: rest => (key, value.tree) :: members rest

end

theorem map_eq_of_forall₂ {f : β → α} {as : List α} {bs : List β}
    (h : List.Forall₂ (fun a b => f b = a) as bs) : bs.map f = as := by
  induction h with
  | nil => rfl
  | cons hab _ ih => rw [List.map_cons, hab, ih]

theorem JsonNode.trees_eq_map (nodes : List JsonNode) : trees nodes = nodes.map tree := by
  induction nodes with
  | nil => rfl
  | cons node rest ih => rw [trees, ih, List.map_cons]

theorem JsonNode.members_eq_map (pairs : List JsonPair) :
    members pairs = pairs.map fun p => (p.key, p.value.tree) := by
  induction pairs with
  | nil => rfl
  | cons p rest ih =>
    cases p
    rw [members, ih, List.map_cons]
    rfl

namespace Json

theorem Tree.allWithinLimits_eq_all (ts : List Tree) :
    allWithinLimits ts = ts.all withinLimits := by
  induction ts with
  | nil => rfl
  | cons t rest ih => rw [allWithinLimits, ih, List.all_cons]

theorem Tree.membersWithinLimits_eq_all (ms : List (String × Tree)) :
    membersWithinLimits ms = ms.all fun m => m.2.withinLimits := by
  induction ms with
  | nil => rfl
  | cons m rest ih => rw [membersWithinLimits, ih, List.all_cons]

/-! ## The grammar -/

/-- There is nothing but white space. -/
def IsBlank (cs : List Char) : Prop :=
  ∀ c ∈ cs, isSpace c = true

/-- What the rules of the grammar derive characters for. -/
inductive Phrase where
  /-- A value. -/
  | value (t : Tree)
  /-- A value with white space around it. -/
  | element (t : Tree)
  /-- Values with commas between them, at least one. -/
  | elements (ts : List Tree)
  /-- A name and its value, with white space around them. -/
  | member (key : String) (t : Tree)
  /-- Members with commas between them, at least one. -/
  | members (ms : List (String × Tree))

/-- The characters write the phrase. -/
inductive Phrase.SpelledBy : Phrase → List Char → Prop
  | null : SpelledBy (.value (.scalar .null)) ['n', 'u', 'l', 'l']
  | true : SpelledBy (.value (.scalar (.bool true))) ['t', 'r', 'u', 'e']
  | false : SpelledBy (.value (.scalar (.bool false))) ['f', 'a', 'l', 's', 'e']
  | number {cs : List Char} {d : Decimal} (h : SpellsNumber cs d) :
      SpelledBy (.value (.scalar (.number d))) cs
  | text {cs : List Char} {s : String} (h : Spells cs s.toList) :
      SpelledBy (.value (.scalar (.text s))) ('"' :: cs ++ ['"'])
  | emptyArray {w : List Char} (hw : IsBlank w) : SpelledBy (.value (.array [])) ('[' :: w ++ [']'])
  | array {ts : List Tree} {cs : List Char} (h : SpelledBy (.elements ts) cs) :
      SpelledBy (.value (.array ts)) ('[' :: cs ++ [']'])
  | emptyObject {w : List Char} (hw : IsBlank w) :
      SpelledBy (.value (.object [])) ('\x7b' :: w ++ ['\x7d'])
  | object {ms : List (String × Tree)} {cs : List Char} (h : SpelledBy (.members ms) cs) :
      SpelledBy (.value (.object ms)) ('\x7b' :: cs ++ ['\x7d'])
  | element {w w' cs : List Char} {t : Tree} (hw : IsBlank w) (h : SpelledBy (.value t) cs)
      (hw' : IsBlank w') : SpelledBy (.element t) (w ++ cs ++ w')
  | last {t : Tree} {cs : List Char} (h : SpelledBy (.element t) cs) :
      SpelledBy (.elements [t]) cs
  | more {t : Tree} {ts : List Tree} {cs rest : List Char} (h : SpelledBy (.element t) cs)
      (hrest : SpelledBy (.elements ts) rest) : SpelledBy (.elements (t :: ts)) (cs ++ ',' :: rest)
  | member {key : String} {t : Tree} {w name w' cs : List Char} (hw : IsBlank w)
      (hname : Spells name key.toList) (hw' : IsBlank w') (h : SpelledBy (.element t) cs) :
      SpelledBy (.member key t) (w ++ ('"' :: name ++ ['"']) ++ w' ++ ':' :: cs)
  | lastMember {key : String} {t : Tree} {cs : List Char} (h : SpelledBy (.member key t) cs) :
      SpelledBy (.members [(key, t)]) cs
  | moreMembers {key : String} {t : Tree} {ms : List (String × Tree)} {cs rest : List Char}
      (h : SpelledBy (.member key t) cs) (hrest : SpelledBy (.members ms) rest) :
      SpelledBy (.members ((key, t) :: ms)) (cs ++ ',' :: rest)

/-! ## Reading -/

open Native (Mark)

section Reading

variable {file : String} {Q : Except ReadError (Draft JsonNode) → Prop} {r : Reader} {m : Mark}
  {w cs rest : List Char}

theorem advance_of_rest_nil (h : m.rest = []) (n : Nat) : m.advance n = m := by
  cases n with
  | zero => rfl
  | succ n => rw [Mark.advance, h]

theorem advance_advance (a b : Nat) (m : Mark) : (m.advance a).advance b = m.advance (a + b) := by
  induction a generalizing m with
  | zero => rw [Nat.zero_add, Mark.advance]
  | succ a ih =>
    cases hm : m.rest with
    | nil => rw [advance_of_rest_nil hm, advance_of_rest_nil hm, advance_of_rest_nil hm]
    | cons c rest =>
      rw [Nat.succ_add, Mark.advance, Mark.advance, hm]
      exact ih _

/-- White space before a token does not matter. -/
theorem Gives.skip (hm : m.rest = w ++ rest) (hw : IsBlank w)
    (h : ∀ m', m'.rest = rest → Gives file Q r m') : Gives file Q r m := by
  intro line fuel hfuel
  have hrest : (m.advance w.length).rest = rest := by
    rw [Mark.advance_rest, hm, List.drop_left' rfl]
  have hpieces : pieces fuel m = pieces fuel (m.advance w.length) := by
    cases fuel with
    | zero => rfl
    | succ fuel =>
      have hspace : (m.rest.takeWhile isSpace).length =
          w.length + (rest.takeWhile isSpace).length := by
        rw [hm, List.takeWhile_append_of_pos hw, List.length_append]
      rw [pieces, pieces, hspace, hrest, advance_advance]
  rw [hpieces]
  refine h _ hrest line fuel ?_
  rw [hm, List.length_append] at hfuel
  rw [hrest]
  omega

/-! ### Tokens -/

theorem endsNumeral_append (hw : IsBlank w) (hrest : EndsNumeral rest) :
    EndsNumeral (w ++ rest) := by
  cases w with
  | nil => exact hrest
  | cons c w =>
    refine endsNumeral_cons ?_
    have hc := hw c (by simp)
    simp only [isSpace, Bool.or_eq_true, beq_iff_eq] at hc
    rcases hc with (((rfl | rfl) | rfl) | rfl) | rfl <;> rfl

theorem tokenAt?_number {c : Char} (hc : c = '-' ∨ c.isDigit = true) :
    tokenAt? (c :: cs) =
      match numberLength (c :: cs) with
      | 0 => none
      | n => some (.number, n) := by
  rcases hc with rfl | hc
  · rfl
  · exact tokenAt?_digit (mem_digits_of_isDigit hc) cs

/-- Characters that say a text are one token with their quotes. -/
theorem Spells.tokenAt? {text : List Char} (h : Spells cs text) (rest : List Char) :
    tokenAt? ('"' :: cs ++ ['"'] ++ rest) = some (.string, ('"' :: cs ++ ['"']).length) := by
  have htoken : Json.tokenAt? ('"' :: cs ++ ['"'] ++ rest) =
      (stringLength? (cs ++ ('"' :: rest))).map fun n => (.string, n + 1) := by
    rw [List.cons_append, List.cons_append, List.append_assoc]
    rfl
  rw [htoken, h.passes]
  simp [stringLength?, Nat.add_comm]

/-- What is read of a string is what its characters say. -/
theorem stringText_of_spells {t : Token} {s : String} (h : Spells cs s.toList)
    (ht : t.chars = '"' :: cs ++ ['"']) : Reader.stringText t = .ok s := by
  rw [Reader.stringText, ht, List.cons_append, List.tail_cons, h.decode]
  exact congrArg Except.ok String.ofList_toList

/-- What is read of a number is the decimal that it writes. -/
theorem numberValue_of_spells {t : Token} {d : Decimal} (h : SpellsNumber t.chars d) :
    Reader.numberValue t = if d.withinLimits then .ok (.number d) else .error .beyondLimits := by
  simp only [Reader.numberValue, h.ofLiteral]

theorem Written.spelledNumber {d : Decimal} (h : SpellsNumber cs d) :
    Written file cs d.withinLimits fun node => ∃ o, node = .scalar o (.number d) := by
  obtain ⟨c, more, rfl, hc⟩ := h.exists_cons
  have hspace : isSpace c = false := by
    rcases hc with rfl | hc
    · rfl
    · exact eq_false_of_mem_digits (by decide) (mem_digits_of_isDigit hc)
  refine .token .number Reader.numberValue hspace (by simp) (fun rest hrest => ?_) ?_ fun t ht => ?_
  · have hlength := h.numberLength_append hrest
    rw [List.cons_append] at hlength ⊢
    rw [tokenAt?_number hc, hlength]
    rfl
  · intro frames t ht
    simp only [Reader.beginValue, ht]
  · rw [numberValue_of_spells (ht ▸ h)]
    split
    · next h => exact .ok h fun o => ⟨o, rfl⟩
    · next h => exact .beyondLimits (Bool.eq_false_iff.2 h)

theorem Written.spelledText {s : String} (h : Spells cs s.toList) :
    Written file ('"' :: cs ++ ['"']) Bool.true fun node => ∃ o, node = .scalar o (.text s) := by
  have hwritten : Written file ('"' :: (cs ++ ['"'])) Bool.true fun node =>
      ∃ o, node = .scalar o (.text (String.ofList s.toList)) := .literal h.decode
  rwa [String.ofList_toList] at hwritten

end Reading

/-! ### Phrases -/

section Phrases

variable {file : String} {start m : Mark} {outer frames : List Frame} {rest cs : List Char}
  {Q : Except ReadError (Draft JsonNode) → Prop}

/-- What the characters of a phrase are read as, where the phrase is awaited. Values are read as
their trees; the elements of an array and the members of an object follow those that were read
before. -/
def Phrase.Reads (file : String) : Phrase → List Char → Prop
  | .value t, cs | .element t, cs => Written file cs t.withinLimits fun node => node.tree = t
  | .elements ts, cs => ∀ Q start outer items rest m, Mark.rest m = cs ++ ']' :: rest →
      (∀ read stop m',
          List.Forall₂ (fun (t : Tree) => Drafted t.withinLimits (·.tree = t)) ts read →
        Mark.rest m' = rest →
        Gives file Q ⟨some (Reader.array start stop (items.reverse ++ read)), outer⟩ m') →
      Gives file Q ⟨none, .items start items :: outer⟩ m
  | .member key t, cs => ∀ Q start outer pairs rest m, EndsNumeral rest → Mark.rest m = cs ++ rest →
      (∀ name value m', Drafted t.withinLimits (fun p => p.key = key ∧ p.value.tree = t)
          (Reader.pair name value) → Mark.rest m' = rest →
        Gives file Q ⟨some value, .member start pairs name :: outer⟩ m') →
      Gives file Q ⟨none, .name start pairs :: outer⟩ m
  | .members ms, cs => ∀ Q start outer pairs rest m, Mark.rest m = cs ++ '\x7d' :: rest →
      (∀ read stop m', List.Forall₂ (fun (q : String × Tree) =>
          Drafted q.2.withinLimits (fun p => p.key = q.1 ∧ p.value.tree = q.2)) ms read →
        Mark.rest m' = rest →
        Gives file Q ⟨some (Reader.object start stop (pairs.reverse ++ read)), outer⟩ m') →
      Gives file Q ⟨none, .name start pairs :: outer⟩ m

namespace Phrase

variable {t : Tree} {ts : List Tree} {ms : List (String × Tree)} {key : String} {w w' : List Char}

theorem reads_scalar {value : JsonScalar}
    (h : Written file cs (Tree.scalar value).withinLimits fun node => ∃ o, node = .scalar o value) :
    Reads file (.value (.scalar value)) cs := by
  refine h.mono ?_
  rintro node ⟨o, rfl⟩
  rfl

theorem drafted_array {read : List (Draft JsonNode)}
    (h : List.Forall₂ (fun (t : Tree) => Drafted t.withinLimits (·.tree = t)) ts read)
    (stop : Nat) :
    Drafted (Tree.array ts).withinLimits (·.tree = .array ts) (Reader.array start stop read) := by
  rw [Tree.withinLimits, Tree.allWithinLimits_eq_all]
  refine (Drafted.mapM h).map fun nodes hnodes => ?_
  rw [JsonNode.tree, JsonNode.trees_eq_map, map_eq_of_forall₂ hnodes]

theorem drafted_object {read : List (Draft JsonPair)}
    (h : List.Forall₂ (fun (q : String × Tree) =>
      Drafted q.2.withinLimits (fun p => p.key = q.1 ∧ p.value.tree = q.2)) ms read)
    (stop : Nat) :
    Drafted (Tree.object ms).withinLimits (·.tree = .object ms)
      (Reader.object start stop read) := by
  rw [Tree.withinLimits, Tree.membersWithinLimits_eq_all]
  refine (Drafted.mapM h).map fun pairs hpairs => ?_
  rw [JsonNode.tree, JsonNode.members_eq_map]
  exact congrArg Tree.object (map_eq_of_forall₂ (hpairs.imp fun _ _ hp => Prod.ext hp.1 hp.2))

theorem reads_emptyArray (hw : IsBlank w) :
    Reads file (.value (.array [])) ('[' :: w ++ [']']) := by
  intro Q frames rest m hframes _ hm hnext
  rw [List.cons_append, List.cons_append, List.append_assoc] at hm
  refine .takeSign .openBracket hm rfl (fun _ => rfl) (hframes _ (by simp [tokenOf])) ?_
  intro m₁ hm₁
  refine .skip hm₁ hw fun m₂ hm₂ => ?_
  refine .takeSign .closeBracket hm₂ rfl (fun _ => rfl) rfl fun m₃ hm₃ => ?_
  exact hnext _ m₃ (drafted_array .nil _) hm₃

theorem reads_array (h : Reads file (.elements ts) cs) :
    Reads file (.value (.array ts)) ('[' :: cs ++ [']']) := by
  intro Q frames rest m hframes _ hm hnext
  rw [List.cons_append, List.cons_append, List.append_assoc] at hm
  refine .takeSign .openBracket hm rfl (fun _ => rfl) (hframes _ (by simp [tokenOf])) ?_
  intro m₁ hm₁
  refine h Q m frames [] rest m₁ hm₁ fun read stop m' hread hm' => ?_
  exact hnext _ m' (drafted_array hread stop) hm'

theorem reads_emptyObject (hw : IsBlank w) :
    Reads file (.value (.object [])) ('\x7b' :: w ++ ['\x7d']) := by
  intro Q frames rest m hframes _ hm hnext
  rw [List.cons_append, List.cons_append, List.append_assoc] at hm
  refine .takeSign .openBrace hm rfl (fun _ => rfl) (hframes _ (by simp [tokenOf])) ?_
  intro m₁ hm₁
  refine .skip hm₁ hw fun m₂ hm₂ => ?_
  refine .takeSign .closeBrace hm₂ rfl (fun _ => rfl) rfl fun m₃ hm₃ => ?_
  exact hnext _ m₃ (drafted_object .nil _) hm₃

theorem reads_object (h : Reads file (.members ms) cs) :
    Reads file (.value (.object ms)) ('\x7b' :: cs ++ ['\x7d']) := by
  intro Q frames rest m hframes _ hm hnext
  rw [List.cons_append, List.cons_append, List.append_assoc] at hm
  refine .takeSign .openBrace hm rfl (fun _ => rfl) (hframes _ (by simp [tokenOf])) ?_
  intro m₁ hm₁
  refine h Q m frames [] rest m₁ hm₁ fun read stop m' hread hm' => ?_
  exact hnext _ m' (drafted_object hread stop) hm'

/-- White space around a value is skipped before it and behind it. -/
theorem reads_element (hw : IsBlank w) (h : Reads file (.value t) cs) (hw' : IsBlank w') :
    Reads file (.element t) (w ++ cs ++ w') := by
  intro Q frames rest m hframes hrest hm hnext
  rw [List.append_assoc, List.append_assoc] at hm
  refine .skip hm hw fun m₁ hm₁ => ?_
  refine h Q frames (w' ++ rest) m₁ hframes (endsNumeral_append hw' hrest) hm₁ ?_
  intro value m₂ hvalue hm₂
  exact .skip hm₂ hw' fun m' hm' => hnext value m' hvalue hm'

theorem reads_last (h : Reads file (.element t) cs) : Reads file (.elements [t]) cs := by
  intro Q start outer items rest m hm hnext
  refine h Q _ _ m (awaitsValue_items start items outer) (endsNumeral_cons rfl) hm ?_
  intro value m₁ hvalue hm₁
  refine .takeSign .closeBracket hm₁ rfl (fun _ => rfl) rfl fun m₂ hm₂ => ?_
  have hlast := hnext [value] (m₁.offset + 1) m₂ (.cons hvalue .nil) hm₂
  rwa [← List.reverse_cons] at hlast

theorem reads_more {rest : List Char} (h : Reads file (.element t) cs)
    (hrest : Reads file (.elements ts) rest) :
    Reads file (.elements (t :: ts)) (cs ++ ',' :: rest) := by
  intro Q start outer items behind m hm hnext
  rw [List.append_assoc] at hm
  refine h Q _ _ m (awaitsValue_items start items outer) (endsNumeral_cons rfl) hm ?_
  intro value m₁ hvalue hm₁
  refine .takeSign .comma hm₁ rfl (fun _ => rfl) rfl fun m₂ hm₂ => ?_
  refine hrest Q start outer (value :: items) behind m₂ hm₂ fun read stop m' hread hm' => ?_
  have hall := hnext (value :: read) stop m' (.cons hvalue hread) hm'
  rwa [List.reverse_cons, List.append_assoc, List.singleton_append]

theorem reads_member {name : List Char} (hw : IsBlank w) (hname : Spells name key.toList)
    (hw' : IsBlank w') (h : Reads file (.element t) cs) :
    Reads file (.member key t) (w ++ ('"' :: name ++ ['"']) ++ w' ++ ':' :: cs) := by
  intro Q start outer pairs rest m hrest hm hnext
  simp only [List.append_assoc, List.cons_append] at hm
  refine .skip hm hw fun m₁ hm₁ => ?_
  have htext : m₁.rest = '"' :: (name ++ ['"']) ++ (w' ++ ':' :: (cs ++ rest)) := by
    rw [hm₁]
    simp
  -- A name is taken as the first of an object and as any later one.
  have hopen : Reader.feed ⟨none, .name start pairs :: outer⟩
      (tokenOf m₁ .string ('"' :: (name ++ ['"'])).length) =
        Reader.inside (.colon start pairs
          (tokenOf m₁ .string ('"' :: (name ++ ['"'])).length) :: outer) := by
    cases pairs <;> rfl
  refine .take .string htext rfl ?_ hopen fun m₂ hm₂ => ?_
  · rw [htext]
    exact hname.tokenAt? _
  refine .skip hm₂ hw' fun m₃ hm₃ => ?_
  refine .takeSign .colon hm₃ rfl (fun _ => rfl) rfl fun m₄ hm₄ => ?_
  refine h Q _ rest m₄ (awaitsValue_member _ _ _ _) hrest hm₄ fun value m' hvalue hm' => ?_
  refine hnext _ value m' ?_ hm'
  have hread := stringText_of_spells hname (chars_tokenOf htext .string)
  have hpair : Reader.pair (tokenOf m₁ .string ('"' :: (name ++ ['"'])).length) value =
      value.map (.mk key m₁.pos) := by
    rw [Reader.pair, hread]
    cases value <;> rfl
  rw [hpair]
  exact hvalue.map fun node hnode => ⟨rfl, hnode⟩

theorem reads_lastMember (h : Reads file (.member key t) cs) :
    Reads file (.members [(key, t)]) cs := by
  intro Q start outer pairs rest m hm hnext
  refine h Q start outer pairs _ m (endsNumeral_cons rfl) hm ?_
  intro name value m₁ hpair hm₁
  refine .takeSign .closeBrace hm₁ rfl (fun _ => rfl) rfl fun m₂ hm₂ => ?_
  have hlast := hnext [Reader.pair name value] (m₁.offset + 1) m₂ (.cons hpair .nil) hm₂
  rwa [← List.reverse_cons] at hlast

theorem reads_moreMembers {rest : List Char} (h : Reads file (.member key t) cs)
    (hrest : Reads file (.members ms) rest) :
    Reads file (.members ((key, t) :: ms)) (cs ++ ',' :: rest) := by
  intro Q start outer pairs behind m hm hnext
  rw [List.append_assoc] at hm
  refine h Q start outer pairs _ m (endsNumeral_cons rfl) hm ?_
  intro name value m₁ hpair hm₁
  refine .takeSign .comma hm₁ rfl (fun _ => rfl) rfl fun m₂ hm₂ => ?_
  refine hrest Q start outer (Reader.pair name value :: pairs) behind m₂ hm₂ ?_
  intro read stop m' hread hm'
  have hall := hnext (Reader.pair name value :: read) stop m' (.cons hpair hread) hm'
  rwa [List.reverse_cons, List.append_assoc, List.singleton_append]

/-- Characters that write a phrase are read as it. -/
theorem SpelledBy.reads {p : Phrase} (h : p.SpelledBy cs) : p.Reads file cs := by
  induction h with
  | null => exact reads_scalar .null
  | true => exact reads_scalar (.bool Bool.true)
  | false => exact reads_scalar (.bool Bool.false)
  | number h => exact reads_scalar (.spelledNumber h)
  | text h => exact reads_scalar (.spelledText h)
  | emptyArray hw => exact reads_emptyArray hw
  | array _ ih => exact reads_array ih
  | emptyObject hw => exact reads_emptyObject hw
  | object _ ih => exact reads_object ih
  | element hw _ hw' ih => exact reads_element hw ih hw'
  | last _ ih => exact reads_last ih
  | more _ _ ih ihrest => exact reads_more ih ihrest
  | member hw hname hw' _ ih => exact reads_member hw hname hw' ih
  | lastMember _ ih => exact reads_lastMember ih
  | moreMembers _ _ ih ihrest => exact reads_moreMembers ih ihrest

end Phrase

end Phrases

end Json

end ResourceTables
