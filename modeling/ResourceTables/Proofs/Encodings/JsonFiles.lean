import ResourceTables.Config.Content
import ResourceTables.Json.Tree
import ResourceTables.Proofs.Encodings.JsonTexts
import ResourceTables.Proofs.Encodings.NativeFiles

/-!
# Reading JSON files

What the reader makes of a file with declarations written in JSON.

* `Json.Gives`: reading on from somewhere in a text gives a result with a property, however much
  fuel there is beyond what is needed;
* `Json.Written`: characters are read as a value wherever a value is awaited, whatever follows;
* `Json.Written.constant`, `Json.Written.array`, `Json.Written.object`: constants are, and what is
  put together from values is;
* `Json.drafted_parse`: a file gives an array with an object for each declaration in order, unless a
  number is out of range.
-/

namespace ResourceTables.Json

open Native (Mark)

/-- The token of the given kind and length at a place. -/
def tokenOf (m : Mark) (k : Kind) (n : Nat) : Token :=
  ⟨k, m, m.offset + n⟩

section Steps

variable {file : String} {Q : Except ReadError (Draft JsonNode) → Prop} {r r' : Reader} {m : Mark}
  {cs rest : List Char} {c : Char}

theorem chars_tokenOf (hm : m.rest = cs ++ rest) (k : Kind) :
    (tokenOf m k cs.length).chars = cs := by
  have hlength : (tokenOf m k cs.length).stop - m.offset = cs.length :=
    Nat.add_sub_cancel_left m.offset cs.length
  have hstart : (tokenOf m k cs.length).start = m := rfl
  rw [Token.chars, hstart, hlength, hm, List.take_left' rfl]

/-! ## Reading on -/

/-- Reading on from the place `m` gives a result with the property `Q`, whatever fuel there is as
long as it is enough. -/
def Gives (file : String) (Q : Except ReadError (Draft JsonNode) → Prop) (r : Reader) (m : Mark) :
    Prop :=
  ∀ line fuel, m.rest.length < fuel → Q (readPieces file line r (pieces fuel m))

/-- At the end of the text a complete value is the result. -/
theorem Gives.stop {value : Draft JsonNode} (hm : m.rest = []) (h : Q (.ok value)) :
    Gives file Q ⟨some value, []⟩ m := by
  intro line fuel hfuel
  cases fuel with
  | zero => cases hfuel
  | succ fuel =>
    have hpieces : pieces (fuel + 1) m = [] := by simp [pieces, Mark.advance_rest, hm]
    rw [hpieces]
    exact h

/-- Reading goes on behind a token. -/
theorem Gives.take (k : Kind) (hm : m.rest = c :: cs ++ rest) (hspace : isSpace c = false)
    (htoken : tokenAt? m.rest = some (k, (c :: cs).length))
    (hfeed : r.feed (tokenOf m k (c :: cs).length) = some r')
    (h : ∀ m', m'.rest = rest → Gives file Q r' m') : Gives file Q r m := by
  intro line fuel hfuel
  have hrest : (m.advance (c :: cs).length).rest = rest := by
    rw [Mark.advance_rest, hm, List.drop_left' rfl]
  rw [hm, List.length_append] at hfuel
  cases fuel with
  | zero => cases hfuel
  | succ fuel =>
    -- No blanks stand in front of the token, so it is what is cut next.
    have hnospace : (m.rest.takeWhile isSpace).length = 0 := by
      rw [hm, List.cons_append, List.takeWhile_cons, hspace]
      rfl
    have hempty : m.rest.isEmpty = false := by
      rw [hm]
      rfl
    have hpieces : pieces (fuel + 1) m =
        .inr (tokenOf m k (c :: cs).length) :: pieces fuel (m.advance (c :: cs).length) := by
      simp only [pieces, hnospace, Mark.advance, hempty, htoken, Bool.false_eq_true, if_false]
      rfl
    rw [hpieces, readPieces]
    simp only [hfeed]
    refine h _ hrest _ fuel ?_
    rw [hrest]
    simp only [List.length_cons] at hfuel
    omega

/-- Reading goes on behind a bracket, a brace, a comma or a colon. -/
theorem Gives.takeSign (k : Kind) (hm : m.rest = c :: rest) (hspace : isSpace c = false)
    (htoken : ∀ cs, tokenAt? (c :: cs) = some (k, 1)) (hfeed : r.feed (tokenOf m k 1) = some r')
    (h : ∀ m', m'.rest = rest → Gives file Q r' m') : Gives file Q r m := by
  have hm' : m.rest = [c] ++ rest := hm
  refine .take k hm' hspace ?_ hfeed h
  rw [hm]
  exact htoken rest

end Steps

/-! ## Values -/

/-- Any token that begins a value is taken as one. -/
def AwaitsValue (frames : List Frame) : Prop :=
  ∀ t : Token, t.kind ≠ .closeBracket → Reader.feedOpen frames t = Reader.beginValue frames t

theorem awaitsValue_nil : AwaitsValue [] :=
  fun _ _ => rfl

theorem awaitsValue_items (start : Mark) (items : List (Draft JsonNode)) (outer : List Frame) :
    AwaitsValue (.items start items :: outer) := by
  intro t ht
  simp only [Reader.feedOpen]
  split <;> simp_all

theorem awaitsValue_member (start : Mark) (pairs : List (Draft JsonPair)) (name : Token)
    (outer : List Frame) : AwaitsValue (.member start pairs name :: outer) :=
  fun _ _ => rfl

/-- Where a value is awaited, the characters are read as one that has the property `P` if `within`
holds, and is out of range otherwise. -/
def Written (file : String) (cs : List Char) (within : Bool) (P : JsonNode → Prop) : Prop :=
  ∀ Q frames rest m, AwaitsValue frames → EndsNumeral rest → Mark.rest m = cs ++ rest →
    (∀ value m', Drafted within P value → Mark.rest m' = rest →
      Gives file Q ⟨some value, frames⟩ m') →
    Gives file Q ⟨none, frames⟩ m

namespace Written

variable {file : String} {cs : List Char} {within : Bool} {P P' : JsonNode → Prop}

theorem mono (h : Written file cs within P) (himp : ∀ node, P node → P' node) :
    Written file cs within P' := by
  intro Q frames rest m hframes hrest hm hnext
  exact h Q frames rest m hframes hrest hm
    fun value m' hvalue hm' => hnext value m' (hvalue.mono himp) hm'

/-- A single token that begins a value is the whole value. -/
theorem token {c : Char} (k : Kind) (value : Token → Draft JsonScalar) (hspace : isSpace c = false)
    (hk : k ≠ .closeBracket)
    (htoken : ∀ rest, EndsNumeral rest →
      tokenAt? (c :: cs ++ rest) = some (k, (c :: cs).length))
    (hbegin : ∀ frames t, Token.kind t = k →
      Reader.beginValue frames t = Reader.after (Reader.scalar t (value t)) frames)
    (hvalue : ∀ t : Token, t.chars = c :: cs →
      Drafted within (fun scalar => ∀ o, P (.scalar o scalar)) (value t)) :
    Written file (c :: cs) within P := by
  intro Q frames rest m hframes hrest hm hnext
  have hfeed : Reader.feed ⟨none, frames⟩ (tokenOf m k (c :: cs).length) =
      Reader.after (Reader.scalar _ (value _)) frames :=
    (hframes _ hk).trans (hbegin frames _ rfl)
  refine .take k hm hspace ?_ hfeed fun m' hm' => hnext _ m' ?_ hm'
  · rw [hm]
    exact htoken rest hrest
  · exact (hvalue _ (chars_tokenOf hm k)).map fun scalar hscalar => hscalar _

end Written

/-- What is read of a written string. -/
theorem stringText_encode {t : Token} {s : String} (ht : t.chars = encode s) :
    Reader.stringText t = .ok s := by
  rw [Reader.stringText, ht, decode_encode]
  exact congrArg Except.ok String.ofList_toList

theorem tokenAt?_encode (s : String) (rest : List Char) :
    tokenAt? (encode s ++ rest) = some (.string, (encode s).length) := by
  have htoken : tokenAt? (encode s ++ rest) =
      (stringLength? ((encode s).tail ++ rest)).map fun n => (.string, n + 1) := rfl
  rw [htoken, stringLength?_encode]
  rfl

theorem tokenAt?_digit {c : Char} (hc : c ∈ digits) (cs : List Char) :
    tokenAt? (c :: cs) =
      match numberLength (c :: cs) with
      | 0 => none
      | n => some (.number, n) := by
  simp only [digits, List.mem_cons, List.not_mem_nil, or_false] at hc
  rcases hc with rfl | rfl | rfl | rfl | rfl | rfl | rfl | rfl | rfl | rfl <;> rfl

/-- A text that is written as a template stands for a template of one text. -/
theorem expr_doubled (o : Origin) (s : String) :
    expr (.scalar o (.text (String.ofList (Native.doubled s.toList)))) =
      .ok (.template o (Native.Part.addText s [])) := by
  rw [expr, scalarExpr, templateParts, Native.parseTemplate_doubled]
  rfl

namespace Written

variable {file : String}

theorem text (s : String) :
    Written file (encode s) true fun node => ∃ o, node = .scalar o (.text s) := by
  refine token .string (fun t => (Reader.stringText t).map .text) rfl (by simp)
    (fun rest _ => tokenAt?_encode s rest) ?_ fun t ht => ?_
  · intro frames t ht
    simp only [Reader.beginValue, ht]
  · rw [stringText_encode ht]
    exact .ok rfl fun o => ⟨o, rfl⟩

theorem number (n : Numeral) :
    Written file n.chars n.decimal.withinLimits fun node =>
      ∃ o, node = .scalar o (.number n.decimal) := by
  obtain ⟨c, cs, hcs, hc⟩ := n.exists_digit
  have hdigit := mem_digits_of_isDigit hc
  have hspace : isSpace c = false := eq_false_of_mem_digits (by decide) hdigit
  -- A numeral is written without a sign, so none is taken off.
  have hsign : c ≠ '-' :=
    ne_of_beq_false (eq_false_of_mem_digits (p := (· == '-')) (by decide) hdigit)
  rw [hcs]
  refine token .number Reader.numberValue hspace (by simp) (fun rest hrest => ?_) ?_ fun t ht => ?_
  · have hlength := n.numberLength_append hrest
    rw [hcs] at hlength
    rw [List.cons_append] at hlength ⊢
    rw [tokenAt?_digit hdigit, hlength]
    rfl
  · intro frames t ht
    simp only [Reader.beginValue, ht]
  · have hdecimal : Reader.numberValue t =
        if n.decimal.withinLimits then .ok (.number n.decimal) else .error .beyondLimits := by
      simp [Reader.numberValue, ht, hsign, Numeral.decimal, hcs]
    rw [hdecimal]
    split
    · next h => exact .ok h fun o => ⟨o, rfl⟩
    · next h => exact .beyondLimits (Bool.eq_false_iff.2 h)

theorem bool (b : Bool) :
    Written file (encodeBool b) true fun node => ∃ o, node = .scalar o (.bool b) := by
  cases b with
  | true =>
    refine token .true (fun _ => .ok (.bool true)) rfl (by simp) (fun _ _ => rfl) ?_
      fun t _ => .ok rfl fun o => ⟨o, rfl⟩
    intro frames t ht
    simp only [Reader.beginValue, ht]
  | false =>
    refine token .false (fun _ => .ok (.bool false)) rfl (by simp) (fun _ _ => rfl) ?_
      fun t _ => .ok rfl fun o => ⟨o, rfl⟩
    intro frames t ht
    simp only [Reader.beginValue, ht]

theorem null : Written file encodeNull true fun node => ∃ o, node = .scalar o .null := by
  refine token .null (fun _ => .ok .null) rfl (by simp) (fun _ _ => rfl) ?_
    fun t _ => .ok rfl fun o => ⟨o, rfl⟩
  intro frames t ht
  simp only [Reader.beginValue, ht]

/-- A constant is read as a value whose expression has the constant's value. -/
theorem constant (c : Constant) :
    Written file (encodeConstant c) c.withinLimits fun node =>
      ∃ e, expr node = .ok e ∧ c.Means e := by
  cases c with
  | text s =>
    -- The string is a template in the native notation, which means the text.
    refine (text (String.ofList (Native.doubled s.toList))).mono ?_
    rintro node ⟨o, rfl⟩
    exact ⟨_, expr_doubled o s, Constant.means_addText s o⟩
  | number n =>
    refine (number n).mono ?_
    rintro node ⟨o, rfl⟩
    exact ⟨.literal o (.number n.decimal), by rw [expr, scalarExpr], fun _ => rfl⟩
  | bool b =>
    refine (bool b).mono ?_
    rintro node ⟨o, rfl⟩
    exact ⟨.literal o (.bool b), by rw [expr, scalarExpr], fun _ => rfl⟩
  | null =>
    refine null.mono ?_
    rintro node ⟨o, rfl⟩
    exact ⟨.literal o .null, by rw [expr, scalarExpr], fun _ => rfl⟩

/-! ## Arrays and objects -/

section Lists

variable {as : List α} {f : α → List Char} {within : α → Bool} {P : α → JsonNode → Prop}

theorem separated_map_cons_cons (write : α → List Char) (a b : α) (as : List α) :
    separated ((a :: b :: as).map write) = write a ++ ',' :: separated ((b :: as).map write) :=
  rfl

/-- The items of an array, up to its closing bracket. -/
theorem gives_items {Q : Except ReadError (Draft JsonNode) → Prop} {start m : Mark}
    {outer : List Frame} {items : List (Draft JsonNode)} {rest : List Char} (a : α)
    (h : ∀ b ∈ a :: as, Written file (f b) (within b) (P b))
    (hm : m.rest = separated ((a :: as).map f) ++ ']' :: rest)
    (hnext : ∀ read stop m',
      List.Forall₂ (fun a node => Drafted (within a) (P a) node) (a :: as) read → m'.rest = rest →
      Gives file Q ⟨some (Reader.array start stop (items.reverse ++ read)), outer⟩ m') :
    Gives file Q ⟨none, .items start items :: outer⟩ m := by
  -- The frame holds the items that were read before, in reverse.
  induction as generalizing a items m with
  | nil =>
    refine h a (by simp) Q _ (']' :: rest) m (awaitsValue_items start items outer)
      (endsNumeral_cons rfl) hm fun value m₁ hvalue hm₁ => ?_
    refine .takeSign .closeBracket hm₁ rfl (fun _ => rfl) rfl fun m₂ hm₂ => ?_
    have hlast := hnext [value] (m₁.offset + 1) m₂ (.cons hvalue .nil) hm₂
    rwa [← List.reverse_cons] at hlast
  | cons b as ih =>
    rw [separated_map_cons_cons, List.append_assoc, List.cons_append] at hm
    refine h a (by simp) Q _ _ m (awaitsValue_items start items outer)
      (endsNumeral_cons rfl) hm fun value m₁ hvalue hm₁ => ?_
    refine .takeSign .comma hm₁ rfl (fun _ => rfl) rfl fun m₂ hm₂ => ?_
    refine ih b (fun b' hb' => h b' (by simp [hb'])) hm₂ fun read stop m' hread hm' => ?_
    have hrest := hnext (value :: read) stop m' (.cons hvalue hread) hm'
    rwa [List.reverse_cons, List.append_assoc, List.singleton_append]

/-- An array of values is a value. -/
theorem array (h : ∀ a ∈ as, Written file (f a) (within a) (P a)) :
    Written file (encodeArray (as.map f)) (as.all within) fun node =>
      ∃ o nodes, node = .array o nodes ∧ List.Forall₂ P as nodes := by
  intro Q frames rest m hframes _ hm hnext
  have hm₀ : m.rest = '[' :: (separated (as.map f) ++ ']' :: rest) := by
    rw [hm, encodeArray]
    simp
  have hread : ∀ read stop, List.Forall₂ (fun a node => Drafted (within a) (P a) node) as read →
      Drafted (as.all within)
        (fun node => ∃ o nodes, node = .array o nodes ∧ List.Forall₂ P as nodes)
        (Reader.array m stop read) :=
    fun read stop h => (Drafted.mapM h).map fun nodes hnodes => ⟨_, nodes, rfl, hnodes⟩
  have hopen : Reader.feed ⟨none, frames⟩ (tokenOf m .openBracket 1) =
      Reader.inside (.items m [] :: frames) := hframes _ (by simp [tokenOf])
  refine .takeSign .openBracket hm₀ rfl (fun _ => rfl) hopen fun m₁ hm₁ => ?_
  -- An array without elements is closed where the first one would begin.
  cases as with
  | nil =>
    refine .takeSign .closeBracket hm₁ rfl (fun _ => rfl) rfl fun m₂ hm₂ => ?_
    exact hnext _ m₂ (hread [] _ .nil) hm₂
  | cons a as =>
    refine gives_items a h hm₁ fun read stop m' hitems hm' => ?_
    exact hnext _ m' (hread read stop hitems) hm'

/-- A member of an object, up to what follows its value. -/
theorem gives_member {Q : Except ReadError (Draft JsonNode) → Prop} {start m : Mark}
    {outer : List Frame} {pairs : List (Draft JsonPair)} {cs rest : List Char} {inside : Bool}
    {R : JsonNode → Prop} (key : String) (h : Written file cs inside R) (hrest : EndsNumeral rest)
    (hm : m.rest = encodeMember key cs ++ rest)
    (hnext : ∀ name value m', Drafted inside (fun p => p.key = key ∧ R p.value)
        (Reader.pair name value) → Mark.rest m' = rest →
      Gives file Q ⟨some value, .member start pairs name :: outer⟩ m') :
    Gives file Q ⟨none, .name start pairs :: outer⟩ m := by
  have hm₀ : m.rest = '"' :: (encode key).tail ++ (':' :: (cs ++ rest)) := by
    rw [hm, encodeMember, List.append_assoc]
    rfl
  have hname : Reader.feed ⟨none, .name start pairs :: outer⟩
      (tokenOf m .string (encode key).length) =
        Reader.inside (.colon start pairs (tokenOf m .string (encode key).length) :: outer) := by
    cases pairs <;> rfl
  refine .take .string hm₀ rfl ?_ hname fun m₁ hm₁ => ?_
  · rw [hm₀]
    exact tokenAt?_encode key _
  refine .takeSign .colon hm₁ rfl (fun _ => rfl) rfl fun m₂ hm₂ => ?_
  refine h Q _ rest m₂ (awaitsValue_member _ _ _ _) hrest hm₂ fun value m' hvalue hm' => ?_
  refine hnext _ value m' ?_ hm'
  -- What stands between the quotes is decoded to the key again.
  have htext : Reader.stringText (tokenOf m .string (encode key).length) = .ok key :=
    stringText_encode (chars_tokenOf hm₀ .string)
  have hpair : Reader.pair (tokenOf m .string (encode key).length) value =
      value.map (.mk key m.pos) := by
    rw [Reader.pair, htext]
    cases value <;> rfl
  rw [hpair]
  exact hvalue.map fun node hnode => ⟨rfl, hnode⟩

/-- The members of an object, up to its closing brace. -/
theorem gives_members {Q : Except ReadError (Draft JsonNode) → Prop} {start m : Mark}
    {outer : List Frame} {pairs : List (Draft JsonPair)} {rest : List Char} (key : α → String)
    (a : α) (h : ∀ b ∈ a :: as, Written file (f b) (within b) (P b))
    (hm : m.rest = separated ((a :: as).map fun a => encodeMember (key a) (f a)) ++ '\x7d' :: rest)
    (hnext : ∀ read stop m', List.Forall₂ (fun a pair =>
        Drafted (within a) (fun p => p.key = key a ∧ P a p.value) pair) (a :: as) read →
      m'.rest = rest →
      Gives file Q ⟨some (Reader.object start stop (pairs.reverse ++ read)), outer⟩ m') :
    Gives file Q ⟨none, .name start pairs :: outer⟩ m := by
  -- The members that have been read are in front of those to come.
  induction as generalizing a pairs m with
  | nil =>
    refine gives_member (key a) (h a (by simp)) (endsNumeral_cons rfl) hm
      fun name value m₁ hpair hm₁ => ?_
    refine .takeSign .closeBrace hm₁ rfl (fun _ => rfl) rfl fun m₂ hm₂ => ?_
    have hlast := hnext [Reader.pair name value] (m₁.offset + 1) m₂ (.cons hpair .nil) hm₂
    rwa [← List.reverse_cons] at hlast
  | cons b as ih =>
    rw [separated_map_cons_cons, List.append_assoc, List.cons_append] at hm
    refine gives_member (key a) (h a (by simp)) (endsNumeral_cons rfl) hm
      fun name value m₁ hpair hm₁ => ?_
    refine .takeSign .comma hm₁ rfl (fun _ => rfl) rfl fun m₂ hm₂ => ?_
    refine ih b (fun b' hb' => h b' (by simp [hb'])) hm₂ fun read stop m' hread hm' => ?_
    have hrest := hnext (Reader.pair name value :: read) stop m' (.cons hpair hread) hm'
    rwa [List.reverse_cons, List.append_assoc, List.singleton_append]

/-- An object with values as members is a value. -/
theorem object (key : α → String) (h : ∀ a ∈ as, Written file (f a) (within a) (P a)) :
    Written file (encodeObject (as.map fun a => encodeMember (key a) (f a))) (as.all within)
      fun node => ∃ o pairs, node = .object o pairs ∧
        List.Forall₂ (fun a p => p.key = key a ∧ P a p.value) as pairs := by
  intro Q frames rest m hframes _ hm hnext
  have hm₀ : m.rest =
      '\x7b' :: (separated (as.map fun a => encodeMember (key a) (f a)) ++ '\x7d' :: rest) := by
    rw [hm, encodeObject]
    simp
  -- Whatever the members are read as, together they are an object.
  have hread : ∀ read stop, List.Forall₂ (fun a pair =>
        Drafted (within a) (fun p => p.key = key a ∧ P a p.value) pair) as read →
      Drafted (as.all within) (fun node => ∃ o pairs, node = .object o pairs ∧
        List.Forall₂ (fun a p => p.key = key a ∧ P a p.value) as pairs)
        (Reader.object m stop read) :=
    fun read stop h => (Drafted.mapM h).map fun pairs hpairs => ⟨_, pairs, rfl, hpairs⟩
  have hopen : Reader.feed ⟨none, frames⟩ (tokenOf m .openBrace 1) =
      Reader.inside (.name m [] :: frames) := hframes _ (by simp [tokenOf])
  refine .takeSign .openBrace hm₀ rfl (fun _ => rfl) hopen fun m₁ hm₁ => ?_
  cases as with
  | nil =>
    refine .takeSign .closeBrace hm₁ rfl (fun _ => rfl) rfl fun m₂ hm₂ => ?_
    exact hnext _ m₂ (hread [] _ .nil) hm₂
  | cons a as =>
    refine gives_members key a h hm₁ fun read stop m' hpairs hm' => ?_
    exact hnext _ m' (hread read stop hpairs) hm'

end Lists

/-- An object with one value as its member is a value. -/
theorem singleton {cs : List Char} {within : Bool} {P : JsonNode → Prop} (key : String)
    (h : Written file cs within P) :
    Written file (encodeObject [encodeMember key cs]) within fun node =>
      ∃ o p, node = .object o [p] ∧ p.key = key ∧ P p.value := by
  -- This is the case of a list with one element, whatever the element is.
  have hobject : Written file (encodeObject [encodeMember key cs]) within fun node =>
      ∃ o pairs, node = .object o pairs ∧
        List.Forall₂ (fun _ p => p.key = key ∧ P p.value) [()] pairs := by
    have hone := object (fun _ => key) fun (_ : Unit) (_ : _ ∈ [()]) => h
    rwa [List.all_cons, List.all_nil, Bool.and_true] at hone
  refine hobject.mono ?_
  rintro node ⟨o, pairs, rfl, hpairs⟩
  cases hpairs with
  | cons hp hrest =>
    cases hrest
    exact ⟨o, _, rfl, hp⟩

end Written

/-! ## Files -/

/-- The member of an object sets the argument. -/
def SetsMember (a : Argument) (p : JsonPair) : Prop :=
  p.key = a.name ∧ ∃ e, expr p.value = .ok e ∧ a.value.Means e

/-- The value holds the declaration below its type and its name. -/
def HoldsDeclaration (d : Declaration) (node : JsonNode) : Prop :=
  ∃ o p, node = .object o [p] ∧ p.key = d.type ∧ ∃ o' p', p.value = .object o' [p'] ∧
    p'.key = d.name ∧ ∃ o'' pairs, p'.value = .object o'' pairs ∧
      List.Forall₂ SetsMember d.arguments pairs

/-- The body holds the declarations in an array, in order. -/
def HoldsResources (ds : List Declaration) (body : Body) : Prop :=
  ∃ o p, body = .json o [p] ∧ p.key = "resource" ∧ ∃ o' nodes, p.value = .array o' nodes ∧
    List.Forall₂ HoldsDeclaration ds nodes

theorem Written.declaration {file : String} (d : Declaration) :
    Written file (encodeDeclaration d) d.withinLimits (HoldsDeclaration d) := by
  have harguments : Written file _ d.withinLimits _ :=
    .object Argument.name fun a _ => .constant a.value
  exact .singleton d.type (.singleton d.name harguments)

/-- A text that is written as a value is read as one. -/
theorem Written.drafted_parseNode {file : String} {cs : List Char} {within : Bool}
    {P : JsonNode → Prop} (h : Written file cs within P) :
    Drafted within P (parseNode file (String.ofList cs)) := by
  have hm : (Mark.start file 1 (String.ofList cs).toList).rest = cs ++ [] := by
    rw [List.append_nil]
    exact String.toList_ofList
  have hgives := h (fun result => ∃ value, result = .ok value ∧ Drafted within P value) [] [] _
    awaitsValue_nil (fun _ hc => nomatch hc) hm
    fun value m' hvalue hm' => .stop hm' ⟨value, rfl, hvalue⟩
  obtain ⟨value, hread, hvalue⟩ := hgives 1 _ (Nat.lt_succ_self _)
  have hparse : parseNode file (String.ofList cs) = value := by
    simp only [parseNode, hread]
    rfl
  rw [hparse]
  exact hvalue

/-- A file gives an array with the declarations, unless a number in it is out of range. -/
theorem drafted_parse (file : String) (ds : List Declaration) :
    Drafted (ds.all Declaration.withinLimits) (HoldsResources ds) (parse file (encodeFile ds)) := by
  have hwritten : Written file _ (ds.all Declaration.withinLimits) _ :=
    .singleton "resource" (.array fun d _ => .declaration d)
  have hnode := hwritten.drafted_parseNode
  unfold parse encodeFile
  generalize parseNode file _ = result at hnode ⊢
  cases hnode with
  | beyondLimits hwithin => exact .beyondLimits hwithin
  | ok hwithin hnode =>
    obtain ⟨o, p, rfl, hp⟩ := hnode
    exact .ok hwithin ⟨o, p, rfl, hp⟩

end ResourceTables.Json
