import ResourceTables.Proofs.Limits.Texts
import ResourceTables.Proofs.Positions.Json

/-!
# JSON within the limits

A JSON text whose numbers are in range is read or refused in words, and the tree that is read is
within the limits. Only the strings that are taken for expressions are looked at as templates.

* `JsonNode.Bounded`: the numbers can be rounded, and texts and lists are not too long;
* `Json.delivers_parse`: the tree of a file;
* `JsonNode.templates`: the texts that are read as templates where the value is an expression;
* `Json.delivers_expr`: the expression that a value stands for.
-/

namespace ResourceTables

/-- A number can be rounded, and a text is not too long. -/
def JsonScalar.Bounded : JsonScalar → Prop
  | .number d => d.Rounds
  | .text s => s.length < Native.textLimit
  | _ => True

mutual

/-- The numbers in the value can be rounded, and its texts, arrays and objects are not too long. -/
inductive JsonNode.Bounded : JsonNode → Prop
  | scalar {o value} (h : value.Bounded) : JsonNode.Bounded (.scalar o value)
  | array {o items} (hlength : items.length ≤ itemLimit)
      (h : ∀ node ∈ items, JsonNode.Bounded node) : JsonNode.Bounded (.array o items)
  | object {o pairs} (hlength : pairs.length ≤ itemLimit)
      (h : ∀ p ∈ pairs, JsonPair.Bounded p) : JsonNode.Bounded (.object o pairs)

/-- The key is not too long, and the value is bounded. -/
inductive JsonPair.Bounded : JsonPair → Prop
  | mk {key pos value} (hkey : key.length < Native.textLimit) (h : JsonNode.Bounded value) :
      JsonPair.Bounded (.mk key pos value)

end

namespace Json

open Native (Mark textLimit)

/-! ## Strings -/

theorem length_of_unit? {cs rest : List Char} {n : Nat} (h : unit? cs = some (n, rest)) :
    rest.length ≤ cs.length := by
  unfold unit? at h
  split at h
  · obtain ⟨_, -, heq⟩ := Option.map_eq_some_iff.1 h
    cases heq
    exact (List.drop_sublist 4 cs).length_le
  · cases h

theorem length_unitChar_le (n : Nat) (cs : List Char) : (unitChar n cs).2.length ≤ cs.length := by
  unfold unitChar
  split
  · split
    · next more =>
      split
      · next low after hlow =>
        have hafter := length_of_unit? hlow
        split
        · simp only [List.length_cons]
          omega
        · exact Nat.le_refl _
      · exact Nat.le_refl _
    · exact Nat.le_refl _
  · split <;> exact Nat.le_refl _

/-- What a string says is not longer than the string. -/
theorem ensures_decodeFrom_length (fuel : Nat) (cs : List Char) :
    Ensures (fun out => out.1.length ≤ cs.length) (decodeFrom fuel cs) := by
  fun_induction decodeFrom fuel cs with
  | case1 | case2 => exact .error
  | case3 => exact .ok (Nat.zero_le _)
  | case4 fuel digits n after hunit c after' hchar _ ih =>
    -- A unit may take in the one behind it.
    have hafter := length_of_unit? hunit
    have hrest := length_unitChar_le n after
    rw [hchar] at hrest
    refine .map ih fun out hout => ?_
    simp only [List.length_cons] at *
    omega
  | case6 fuel _ e after _ _ _ ih =>
    refine .map ih fun out hout => ?_
    simp only [List.length_cons] at *
    omega
  | case5 | case7 | case8 | case9 => exact .error
  | case10 fuel c rest _ _ _ ih =>
    refine .map ih fun out hout => ?_
    simp only [List.length_cons] at *
    omega

/-! ## Tokens -/

/-- What a number token writes. -/
def Token.literal (t : Token) : Decimal :=
  let negative := t.chars.head? = some '-'
  Decimal.ofLiteral negative (t.chars.drop (if negative then 1 else 0))

/-- If the token is a number, it is in range. -/
def Token.InRange (t : Token) : Prop :=
  t.kind = .number → t.literal.InRange

instance (t : Token) : Decidable t.InRange :=
  inferInstanceAs (Decidable (_ → _))

/-- The tokens of the text of a file. -/
def tokens (file text : String) : List Token :=
  (pieces (text.toList.length + 1) (.start file 1 text.toList)).filterMap Sum.getRight?

/-- The token is in range and stands in a text that is not too long. -/
structure Token.Bounded (t : Token) : Prop where
  /-- A number is in range. -/
  number : t.InRange
  /-- The text is not too long. -/
  text : t.start.rest.length < textLimit

theorem length_pieces_le (fuel : Nat) (m : Mark) : (pieces fuel m).length ≤ fuel := by
  induction fuel generalizing m with
  | zero => simp [pieces]
  | succ fuel ih =>
    rw [pieces]
    split
    · simp
    · split
      · simp
      · exact Nat.succ_le_succ (ih _)

/-- The tokens of a text stand in it. -/
theorem length_rest_of_mem_pieces {fuel : Nat} {m : Mark} {t : Token}
    (h : Sum.inr t ∈ pieces fuel m) : t.start.rest.length ≤ m.rest.length := by
  have hadvance : ∀ n (m : Mark), (m.advance n).rest.length ≤ m.rest.length := by
    intro n m
    rw [Mark.advance_rest]
    exact (List.drop_sublist n m.rest).length_le
  induction fuel generalizing m with
  | zero => cases h
  | succ fuel ih =>
    rw [pieces] at h
    split at h
    · cases h
    · split at h
      · simp at h
      · next kind n _ =>
        rcases List.mem_cons.1 h with heq | h
        · cases heq
          exact hadvance _ m
        · exact (ih h).trans ((hadvance _ _).trans (hadvance _ m))

theorem delivers_stringText {t : Token} (ht : t.Bounded) :
    Delivers (fun s => s.length < textLimit) ReadError.Worded (Reader.stringText t) := by
  have hdecode := ensures_decodeFrom_length t.chars.tail.length t.chars.tail
  unfold Reader.stringText
  split
  · next cs rest hcs =>
    refine .ok ?_
    have hlength : cs.length ≤ t.chars.tail.length := hdecode _ hcs
    have hchars : t.chars.length ≤ t.start.rest.length := (List.take_sublist _ _).length_le
    have htext := ht.text
    rw [List.length_tail] at hlength
    rw [String.length_ofList]
    omega
  · exact .error ReadError.worded_malformed

/-! ## Readers -/

/-- What is said of the pairs is bounded. -/
def PairsBounded (pairs : List (Draft JsonPair)) : Prop :=
  ∀ d ∈ pairs, Delivers JsonPair.Bounded ReadError.Worded d

/-- What is said of the values is bounded. -/
def ItemsBounded (items : List (Draft JsonNode)) : Prop :=
  ∀ d ∈ items, Delivers JsonNode.Bounded ReadError.Worded d

/-- What the open array or object holds is bounded, and it has at most `k` members. -/
def Frame.Bounded (k : Nat) : Frame → Prop
  | .items _ found => found.length ≤ k ∧ ItemsBounded found
  | .name _ pairs => pairs.length ≤ k ∧ PairsBounded pairs
  | .colon _ pairs key | .member _ pairs key =>
    pairs.length ≤ k ∧ PairsBounded pairs ∧ key.Bounded

theorem Frame.Bounded.mono {k j : Nat} {f : Frame} (h : f.Bounded k) (hk : k ≤ j) :
    f.Bounded j := by
  cases f <;> exact ⟨h.1.trans hk, h.2⟩

namespace Reader

/-- What the reader holds is within the limits, and its arrays and objects have at most `k`
members. -/
structure Bounded (k : Nat) (r : Reader) : Prop where
  /-- The value that was read last. -/
  value : ∀ d, r.value = some d → Delivers JsonNode.Bounded ReadError.Worded d
  /-- The open arrays and objects. -/
  frames : ∀ f ∈ r.frames, f.Bounded k

/-- If there is a reader, what it holds is within the limits. -/
def Bounds (k : Nat) (r : Option Reader) : Prop :=
  ∀ r', r = some r' → r'.Bounded k

variable {k : Nat} {frames outer : List Frame} {t : Token} {start : Mark} {stop : Nat}

theorem bounds_none : Bounds k none := by
  rintro _ ⟨⟩

theorem bounds_after {value : Draft JsonNode}
    (hvalue : Delivers JsonNode.Bounded ReadError.Worded value) (h : ∀ f ∈ frames, f.Bounded k) :
    Bounds k (after value frames) := by
  rintro _ ⟨⟩
  exact ⟨by rintro _ ⟨⟩; exact hvalue, h⟩

theorem bounds_inside {f : Frame} (hf : f.Bounded k) (h : ∀ f ∈ outer, f.Bounded k) :
    Bounds k (inside (f :: outer)) := by
  rintro _ ⟨⟩
  exact ⟨by rintro _ ⟨⟩, List.forall_mem_cons.2 ⟨hf, h⟩⟩

theorem delivers_scalar {value : Draft JsonScalar}
    (h : Delivers JsonScalar.Bounded ReadError.Worded value) :
    Delivers JsonNode.Bounded ReadError.Worded (scalar t value) :=
  .map h fun _ hvalue => .scalar hvalue

theorem delivers_numberValue (ht : t.Bounded) (hkind : t.kind = .number) :
    Delivers JsonScalar.Bounded ReadError.Worded (numberValue t) := by
  have hrange := ht.number hkind
  have hvalue : numberValue t = .ok (.number t.literal) := if_pos hrange.1
  rw [hvalue]
  exact .ok hrange.rounds

theorem delivers_array {items : List (Draft JsonNode)} (hlength : items.length ≤ itemLimit)
    (h : ItemsBounded items) :
    Delivers JsonNode.Bounded ReadError.Worded (array start stop items) :=
  .map (.mapM h) fun _ hitems => .array (hitems.1.trans_le hlength) hitems.2

theorem delivers_object {pairs : List (Draft JsonPair)} (hlength : pairs.length ≤ itemLimit)
    (h : PairsBounded pairs) :
    Delivers JsonNode.Bounded ReadError.Worded (object start stop pairs) :=
  .map (.mapM h) fun _ hpairs => .object (hpairs.1.trans_le hlength) hpairs.2

theorem delivers_pair {name : Token} {value : Draft JsonNode} (hname : name.Bounded)
    (hvalue : Delivers JsonNode.Bounded ReadError.Worded value) :
    Delivers JsonPair.Bounded ReadError.Worded (pair name value) :=
  .bind (delivers_stringText hname) fun _ hkey => .bind hvalue fun _ hv => .ok (.mk hkey hv)

theorem bounds_beginValue (ht : t.Bounded) (h : ∀ f ∈ frames, f.Bounded k) :
    Bounds k (beginValue frames t) := by
  unfold beginValue
  split
  · exact bounds_inside ⟨Nat.zero_le k, by simp [PairsBounded]⟩ h
  · exact bounds_inside ⟨Nat.zero_le k, by simp [ItemsBounded]⟩ h
  · exact bounds_after (delivers_scalar (.map (delivers_stringText ht) fun _ hs => hs)) h
  · next hkind => exact bounds_after (delivers_scalar (delivers_numberValue ht hkind)) h
  · exact bounds_after (delivers_scalar (.ok True.intro)) h
  · exact bounds_after (delivers_scalar (.ok True.intro)) h
  · exact bounds_after (delivers_scalar (.ok True.intro)) h
  · exact bounds_none

theorem bounds_feedOpen (ht : t.Bounded) (h : ∀ f ∈ frames, f.Bounded k) :
    Bounds k (feedOpen frames t) := by
  unfold feedOpen
  split
  · exact bounds_beginValue ht h
  · next frame outer =>
    obtain ⟨hframe, houter⟩ := List.forall_mem_cons.1 h
    split
    · exact bounds_after (delivers_array (Nat.zero_le _) hframe.2) houter
    · exact bounds_beginValue ht h
    · exact bounds_after (delivers_object (Nat.zero_le _) hframe.2) houter
    · exact bounds_inside ⟨hframe.1, hframe.2, ht⟩ houter
    · exact bounds_inside hframe houter
    · exact bounds_beginValue ht h
    · exact bounds_none

theorem bounds_feedAfter {value : Draft JsonNode} (hk : k + 1 ≤ itemLimit)
    (hvalue : Delivers JsonNode.Bounded ReadError.Worded value) (h : ∀ f ∈ frames, f.Bounded k) :
    Bounds (k + 1) (feedAfter value frames t) := by
  unfold feedAfter
  split
  · next start items outer =>
    obtain ⟨hframe, houter⟩ := List.forall_mem_cons.1 h
    have houters := fun f hf => (houter f hf).mono (Nat.le_succ k)
    -- The list may have one item more than before, which is still within the limit.
    have hlength : (value :: items).length ≤ k + 1 := Nat.succ_le_succ hframe.1
    have hall : ItemsBounded (value :: items) := List.forall_mem_cons.2 ⟨hvalue, hframe.2⟩
    split
    · exact bounds_inside ⟨hlength, hall⟩ houters
    · refine bounds_after (delivers_array ?_ fun d hd => hall d (List.mem_reverse.1 hd)) houters
      rw [List.length_reverse]
      exact hlength.trans hk
    · exact bounds_none
  · next start pairs name outer =>
    obtain ⟨⟨hcount, hpairs, hname⟩, houter⟩ := List.forall_mem_cons.1 h
    have houters := fun f hf => (houter f hf).mono (Nat.le_succ k)
    have hlength : (pair name value :: pairs).length ≤ k + 1 := Nat.succ_le_succ hcount
    have hall : PairsBounded (pair name value :: pairs) :=
      List.forall_mem_cons.2 ⟨delivers_pair hname hvalue, hpairs⟩
    split
    · exact bounds_inside ⟨hlength, hall⟩ houters
    · refine bounds_after (delivers_object ?_ fun d hd => hall d (List.mem_reverse.1 hd)) houters
      rw [List.length_reverse]
      exact hlength.trans hk
    · exact bounds_none
  · exact bounds_none

/-- A token makes an array or an object longer by one member at most. -/
theorem bounds_feed {r : Reader} (hr : r.Bounded k) (ht : t.Bounded) (hk : k + 1 ≤ itemLimit) :
    Bounds (k + 1) (r.feed t) := by
  unfold feed
  split
  · next value hvalue => exact bounds_feedAfter hk (hr.value value hvalue) hr.frames
  · exact bounds_feedOpen ht fun f hf => (hr.frames f hf).mono (Nat.le_succ k)

end Reader

/-! ## Files -/

theorem delivers_readPieces {file : String} {line k : Nat} {r : Reader} {found : List Piece}
    (hr : r.Bounded k) (hfound : ∀ t, Sum.inr t ∈ found → t.Bounded)
    (hk : k + found.length ≤ itemLimit) :
    Delivers (Delivers JsonNode.Bounded ReadError.Worded) ReadError.Worded
      (readPieces file line r found) := by
  fun_induction readPieces file line r found generalizing k with
  | case1 line value => exact .ok (hr.value value rfl)
  | case2 | case3 | case5 => exact .error ReadError.worded_malformed
  | case4 line r t rest r' hfeed ih =>
    rw [List.length_cons] at hk
    have hr' := Reader.bounds_feed hr (hfound t (by simp)) (by omega) r' hfeed
    exact ih hr' (fun t ht => hfound t (by simp [ht])) (by omega)

/-- The tree of a file whose numbers are in range is within the limits. -/
theorem delivers_parseNode {file text : String} (htext : text.length < textLimit)
    (ht : ∀ t ∈ tokens file text, t.InRange) :
    Delivers JsonNode.Bounded ReadError.Worded (parseNode file text) := by
  have hstart : Reader.Bounded 0 ⟨none, []⟩ := ⟨by rintro _ ⟨⟩, by simp⟩
  have hlimit := Native.length_within htext
  have hfuel := length_pieces_le (text.toList.length + 1) (.start file 1 text.toList)
  refine .bind (delivers_readPieces hstart (fun t hmem => ⟨?_, ?_⟩) ?_) fun _ hvalue => hvalue
  · exact ht t (List.mem_filterMap.2 ⟨_, hmem, rfl⟩)
  · exact (length_rest_of_mem_pieces hmem).trans_lt htext
  · show 0 + (pieces (text.toList.length + 1) (.start file 1 text.toList)).length ≤ itemLimit
    rw [String.length_toList] at *
    omega

/-- The body of a file whose numbers are in range is within the limits. -/
theorem delivers_parse {file text : String} (htext : text.length < textLimit)
    (ht : ∀ t ∈ tokens file text, t.InRange) :
    Delivers (fun body => ∃ o pairs, body = .json o pairs ∧ ∀ p ∈ pairs, p.Bounded) ReadError.Worded
      (parse file text) := by
  refine .bind (delivers_parseNode htext ht) fun node hnode => ?_
  cases hnode with
  | object hlength h => exact .ok ⟨_, _, rfl, h⟩
  | scalar | array => exact .error ReadError.worded_malformed

end Json

/-! ## Expressions -/

mutual

/-- The texts that are read as templates where the value stands for an expression, with their
places. -/
def JsonNode.templates : JsonNode → List (Pos × String)
  | .scalar o (.text s) => [(o.pos, s)]
  | .scalar _ _ => []
  | .array _ items => itemTemplates items
  | .object _ pairs => pairTemplates pairs

/-- The texts that are read as templates where the values stand for expressions. -/
def JsonNode.itemTemplates : List JsonNode → List (Pos × String)
  | [] => []
  | node :: rest => node.templates ++ itemTemplates rest

/-- The texts that are read as templates in the names and values of an object; none in comments. -/
def JsonNode.pairTemplates : List JsonPair → List (Pos × String)
  | [] => []
  | .mk key pos value :: rest =>
    if key == JsonPair.commentKey then pairTemplates rest
    else (pos, key) :: value.templates ++ pairTemplates rest

end

/-- All tokens are in range of the template that the text writes at its place. -/
def TemplateInRange (p : Pos × String) : Prop :=
  ∀ t ∈ Native.tokens .template p.1.file p.1.line p.2, t.InRange

instance (p : Pos × String) : Decidable (TemplateInRange p) :=
  inferInstanceAs (Decidable (∀ t ∈ Native.tokens .template p.1.file p.1.line p.2, t.InRange))

/-- All tokens are in range of the templates in the value. -/
def JsonNode.InRange (node : JsonNode) : Prop :=
  ∀ p ∈ node.templates, TemplateInRange p

instance (node : JsonNode) : Decidable node.InRange :=
  inferInstanceAs (Decidable (∀ p ∈ node.templates, TemplateInRange p))

namespace Json

theorem delivers_templateParts {pos : Pos} {s : String} (hs : s.length < Native.textLimit)
    (h : TemplateInRange (pos, s)) :
    Delivers (fun parts => ∀ p ∈ parts, p.Bounded) ReadError.Worded (templateParts pos s) :=
  Native.delivers_parseTemplate hs h

mutual

/-- A value whose templates are in range stands for a bounded expression, or is refused in words. -/
theorem delivers_expr (node : JsonNode) (hnode : node.Bounded)
    (h : ∀ p ∈ node.templates, TemplateInRange p) :
    Delivers Expr.Bounded ReadError.Worded (expr node) := by
  cases node with
  | scalar o value =>
    cases hnode with
    | scalar hvalue =>
      cases value with
      | text s =>
        rw [JsonNode.templates] at h
        exact .map (delivers_templateParts hvalue (h _ (by simp))) fun _ hparts => .template hparts
      | number d =>
        refine .ok (.literal ?_)
        rintro _ ⟨⟩
        exact hvalue
      | null | bool => exact .ok (.literal (by rintro _ ⟨⟩))
  | array o items =>
    cases hnode with
    | array hlength hitems =>
      rw [JsonNode.templates] at h
      exact .map (delivers_exprs items hitems h) fun _ hes => .tuple (hes.1.trans_le hlength) hes.2
  | object o pairs =>
    cases hnode with
    | object hlength hpairs =>
      rw [JsonNode.templates] at h
      exact .map (delivers_objectItems pairs hpairs h) fun _ hes =>
        .object (hes.1.trans hlength) hes.2

/-- Values stand for as many expressions. -/
theorem delivers_exprs (nodes : List JsonNode) (hnodes : ∀ node ∈ nodes, node.Bounded)
    (h : ∀ p ∈ JsonNode.itemTemplates nodes, TemplateInRange p) :
    Delivers (fun es => es.length = nodes.length ∧ ∀ e ∈ es, e.Bounded) ReadError.Worded
      (exprs nodes) := by
  cases nodes with
  | nil => exact .ok ⟨rfl, by simp⟩
  | cons node rest =>
    rw [JsonNode.itemTemplates, List.forall_mem_append] at h
    refine .bind (delivers_expr node (hnodes node (by simp)) h.1) fun e he => ?_
    refine .bind (delivers_exprs rest (fun n hn => hnodes n (by simp [hn])) h.2) fun es hes => ?_
    exact .ok ⟨congrArg (· + 1) hes.1, List.forall_mem_cons.2 ⟨he, hes.2⟩⟩

/-- Members stand for no more items, as comments are left out. -/
theorem delivers_objectItems (pairs : List JsonPair) (hpairs : ∀ p ∈ pairs, p.Bounded)
    (h : ∀ p ∈ JsonNode.pairTemplates pairs, TemplateInRange p) :
    Delivers (fun items => items.length ≤ pairs.length ∧ ∀ i ∈ items, i.Bounded) ReadError.Worded
      (objectItems pairs) := by
  match pairs with
  | [] => exact .ok ⟨Nat.le_refl _, by simp⟩
  | .mk key pos value :: rest =>
    obtain ⟨hpair, hrest⟩ := List.forall_mem_cons.1 hpairs
    rw [JsonNode.pairTemplates] at h
    rw [objectItems]
    split
    · next hcomment =>
      -- A comment makes no item, and its name and its value are not read.
      rw [if_pos hcomment] at h
      exact (delivers_objectItems rest hrest h).mono fun items hitems =>
        ⟨hitems.1.trans (Nat.le_succ _), hitems.2⟩
    · next hcomment =>
      rw [if_neg hcomment, List.forall_mem_append, List.forall_mem_cons] at h
      cases hpair with
      | mk hkey hvalue =>
        have hkeys : Delivers Expr.Bounded ReadError.Worded (keyExpr pos key) :=
          .map (delivers_templateParts hkey h.1.1) fun _ hparts => .template hparts
        refine .bind hkeys fun k hk => .bind (delivers_expr value hvalue h.1.2) fun v hv => ?_
        refine .bind (delivers_objectItems rest hrest h.2) fun items hitems => .ok ⟨?_, ?_⟩
        · exact Nat.succ_le_succ hitems.1
        · exact List.forall_mem_cons.2 ⟨.mk hk hv, hitems.2⟩

end

end Json

end ResourceTables
