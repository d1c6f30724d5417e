import Mathlib.Logic.Relation
import ResourceTables.Proofs.Addresses.Grammar

/-!
# Spellings of an address

An address can be written in many ways. What it is written as in full, or as messages show it, is
one of them, so that addresses that are shown alike are equal; and blanks at either end, the case of
ASCII letters and the parts that are meant when they are left out make no difference.

The rules for addresses that are documented are narrower than those that are applied: no newline
follows an owner or a label of a host name, and a port is at least one digit, of ASCII.

* `ProviderAddress.Respells`: the steps between texts that write the same address;
* `ProviderAddress.parse_respelled`: each of them keeps the address;
* `ProviderAddress.parse_canonical`: both forms of an address are read as the address, and so is
  every text that comes from one that is read by such steps;
* `ProviderAddress.documented`: the documented rules;
* `ProviderAddress.parse_grammar`: a text is read exactly if it writes an address by the rules that
  are applied, and the documented addresses are those that have no newline, nothing beyond ASCII and
  no colon at the end of their host name.
-/

namespace ResourceTables

namespace ProviderAddress

open Text (lowerChar lowerAfter isBlank trimmed)

/-! ## Canonical spellings -/

theorem begins_of_prefix {cs cs' : List Char} (h : cs <+: cs')
    (hcs : cs.head?.any isAlphaNum = true) : cs'.head?.any isAlphaNum = true := by
  obtain ⟨rest, rfl⟩ := h
  cases cs with
  | nil => cases hcs
  | cons c cs => exact hcs

theorem prefix_intercalate (sep : Char) (piece : List Char) (pieces : List (List Char)) :
    piece <+: [sep].intercalate (piece :: pieces) := by
  cases pieces with
  | nil => simp
  | cons next pieces =>
    rw [List.intercalate_cons_cons, List.append_assoc]
    exact List.prefix_append _ _

theorem Line.begins {limit : Nat} {inner cs : List Char} (h : Line (Word limit inner) cs) :
    cs.head?.any isAlphaNum = true := by
  obtain ⟨word, hword, rfl | rfl⟩ := h
  · exact hword.begins
  · exact begins_of_prefix (List.prefix_append _ _) hword.begins

theorem Hostname.begins {cs : List Char} (h : Hostname accepted cs) :
    cs.head?.any isAlphaNum = true := by
  obtain ⟨labels, port, hne, hlabels, -, rfl⟩ := h
  obtain ⟨label, rest, rfl⟩ := List.exists_cons_of_ne_nil hne
  have hlabel := Line.begins (hlabels label (by simp))
  exact begins_of_prefix ((prefix_intercalate '.' label rest).trans (List.prefix_append _ _)) hlabel

section Forms

variable {parts : List (List Char)} {a : ProviderAddress}

/-- The first part of an address begins it. -/
theorem Parts.begins (h : Parts accepted parts a) :
    (['/'].intercalate parts).head?.any isAlphaNum = true := by
  have hfirst : ∃ part rest, parts = part :: rest ∧ part.head?.any isAlphaNum = true := by
    cases h with
    | type htype => exact ⟨_, _, rfl, htype.1.begins⟩
    | owned howner htype => exact ⟨_, _, rfl, Line.begins howner⟩
    | hosted hhost howner htype => exact ⟨_, _, rfl, hhost.begins⟩
  obtain ⟨part, rest, rfl, hpart⟩ := hfirst
  exact begins_of_prefix (prefix_intercalate '/' part rest) hpart

/-- The type ends an address. -/
theorem Parts.ends (h : Parts accepted parts a) :
    (['/'].intercalate parts).getLast?.any isAlphaNum = true := by
  have hlast : ∃ front type, parts = front ++ [type] ∧ Kind type := by
    cases h with
    | type htype => exact ⟨[], _, rfl, htype⟩
    | owned howner htype => exact ⟨[_], _, rfl, htype⟩
    | hosted hhost howner htype => exact ⟨[_, _], _, rfl, htype⟩
  obtain ⟨front, type, rfl, htype⟩ := hlast
  obtain ⟨before, hbefore⟩ := suffix_intercalate '/' front type
  rw [← hbefore, List.getLast?_append_of_ne_nil _ htype.1.ne_nil]
  exact htype.1.ends

/-- The parts of an address, with slashes between them, are read as the address. -/
theorem Parts.parse_intercalate (h : Parts accepted parts a) :
    parse (String.ofList (['/'].intercalate parts)) = .ok a := by
  have hchars : ∀ c ∈ ['/'].intercalate parts, ProviderAddress.isAddressChar c = true := by
    intro c hc
    obtain rfl | ⟨part, hpart, hc⟩ := mem_intercalate hc
    · rfl
    · exact (h.isAddressChar part hpart c hc).1
  -- An address begins and ends with a letter or a digit, so no newline is trimmed away.
  have hne : ∀ c, (some c).any isAlphaNum = true → c ≠ '\n' := by
    rintro c hc rfl
    exact absurd hc (by decide)
  rw [parse_eq_ok_iff_writes, lower_trim_eq_self hchars]
  · exact ⟨parts, rfl, h⟩
  · intro hhead
    have hbegins := h.begins
    rw [hhead] at hbegins
    exact hne _ hbegins rfl
  · intro hlast
    have hends := h.ends
    rw [hlast] at hends
    exact hne _ hends rfl

theorem hostname_default : Hostname accepted defaultHostname.toList := by
  have hread : parseHostname defaultHostname.toList = .ok defaultHostname := by decide +kernel
  have hlower : lowerAfter [] defaultHostname.toList = defaultHostname.toList := by decide +kernel
  rw [← hlower]
  exact (parseHostname_eq_ok_iff.1 hread).1

theorem owner_default : accepted.owner defaultNamespace.toList :=
  isWord_iff.1 (by decide)

/-- The parts of an address that is read, those that were left out included. -/
theorem Parts.proper (h : Parts accepted parts a) :
    Hostname accepted a.hostname.toList ∧ accepted.owner a.owner.toList ∧ Kind a.type.toList := by
  cases h with
  | type htype =>
    rw [String.toList_ofList]
    exact ⟨hostname_default, owner_default, htype⟩
  | owned howner htype =>
    rw [String.toList_ofList, String.toList_ofList]
    exact ⟨hostname_default, howner, htype⟩
  | hosted hhost howner htype =>
    rw [String.toList_ofList, String.toList_ofList, String.toList_ofList]
    exact ⟨hhost, howner, htype⟩

/-- An address that is read is what its full form is read as. -/
theorem Parts.parse_full (h : Parts accepted parts a) : parse a.full = .ok a := by
  obtain ⟨hhost, howner, htype⟩ := h.proper
  have hparts := (Parts.hosted hhost howner htype).parse_intercalate
  simp only [String.ofList_toList] at hparts
  have hfull : a.full =
      String.ofList (['/'].intercalate [a.hostname.toList, a.owner.toList, a.type.toList]) := by
    rw [← String.toList_inj, String.toList_ofList]
    simp [full, List.intercalate_cons_cons]
  rw [hfull, hparts]

/-- An address that is read is what messages show it as. -/
theorem Parts.parse_display (h : Parts accepted parts a) : parse a.display = .ok a := by
  obtain ⟨-, howner, htype⟩ := h.proper
  rw [display]
  split
  · next hdefault =>
    have hparts := (Parts.owned howner htype).parse_intercalate
    simp only [String.ofList_toList, ← hdefault] at hparts
    have hshort : a.owner ++ "/" ++ a.type =
        String.ofList (['/'].intercalate [a.owner.toList, a.type.toList]) := by
      rw [← String.toList_inj, String.toList_ofList]
      simp [List.intercalate_cons_cons]
    rw [hshort, hparts]
  · exact h.parse_full

end Forms

/-! ## Spelling an address differently -/

/-- A step between texts that write the same address. -/
inductive Respells : List Char → List Char → Prop
  /-- White space is put at the ends. -/
  | blanks {before cs after} (hbefore : ∀ c ∈ before, isBlank c = true)
      (hafter : ∀ c ∈ after, isBlank c = true) : Respells cs (before ++ cs ++ after)
  /-- The case of ASCII letters is changed. -/
  | recased {cs cs'} (h : cs.map Char.toLower = cs'.map Char.toLower) : Respells cs cs'
  /-- The default owner is written out in front of a type. -/
  | owner {before cs} (hbefore : ∀ c ∈ before, isBlank c = true)
      (hbegins : ∀ c, cs.head? = some c → isBlank c = false) (hcount : cs.count '/' = 0) :
    Respells (before ++ cs) (before ++ (defaultNamespace.toList ++ '/' :: cs))
  /-- The default host is written out in front of an owner and a type. -/
  | hostname {before cs} (hbefore : ∀ c ∈ before, isBlank c = true)
      (hbegins : ∀ c, cs.head? = some c → isBlank c = false) (hcount : cs.count '/' = 1) :
    Respells (before ++ cs) (before ++ (defaultHostname.toList ++ '/' :: cs))

section Steps

variable {before cs cs' : List Char} {a : ProviderAddress}

theorem parse_ofList {cs : List Char} :
    parse (String.ofList cs) = .ok a ↔ Writes accepted (lowerAfter [] (trimmed cs)) a := by
  rw [parse_eq_ok_iff_writes, Text.lower, String.toList_ofList, Text.toList_trim,
    String.toList_ofList]

theorem length_splitOn (sep : Char) (cs : List Char) :
    (cs.splitOn sep).length = cs.count sep + 1 := by
  induction cs with
  | nil => rfl
  | cons c cs ih =>
    rw [List.splitOn_cons_eq_if_modifyHead, List.count_cons]
    split
    · rw [List.length_cons, ih]
    · rw [List.length_modifyHead, ih, Nat.add_zero]

/-- Trimming takes nothing but blanks away. -/
theorem count_trimmed {c : Char} (hc : isBlank c = false) (cs : List Char) :
    (trimmed cs).count c = cs.count c := by
  have hdrop : ∀ cs : List Char, (cs.dropWhile isBlank).count c = cs.count c := by
    intro cs
    have htake : (cs.takeWhile isBlank).count c = 0 := by
      refine List.count_eq_zero.2 fun hmem => ?_
      rw [List.mem_takeWhile_imp hmem] at hc
      cases hc
    calc (cs.dropWhile isBlank).count c
        = (cs.takeWhile isBlank ++ cs.dropWhile isBlank).count c := by
          rw [List.count_append, htake, Nat.zero_add]
      _ = cs.count c := by rw [List.takeWhile_append_dropWhile]
  rw [trimmed, Text.dropEnd, List.count_reverse, hdrop, List.count_reverse, Text.dropStart, hdrop]

/-- Blanks are no slashes, so that a text has as many pieces with blanks in front of it. -/
theorem length_pieces (hbefore : ∀ c ∈ before, isBlank c = true) (cs : List Char) :
    ((trimmed (before ++ cs)).splitOn '/').length = cs.count '/' + 1 := by
  have hblanks : before.count '/' = 0 :=
    List.count_eq_zero.2 fun h => absurd (hbefore _ h) (by decide)
  rw [length_splitOn, count_trimmed (by decide), List.count_append, hblanks, Nat.zero_add]

/-- A part that is written out in front of a text that is read is one more part. -/
theorem parse_written (word : List Char) (hbefore : ∀ c ∈ before, isBlank c = true)
    (hbegins : ∀ c, cs.head? = some c → isBlank c = false) (hword : ∀ c ∈ word, isBlank c = false)
    (hslash : '/' ∉ word) (hlower : lowerAfter [] word = word)
    (h : parse (String.ofList (before ++ cs)) = .ok a) :
    ∃ parts, parts.length = cs.count '/' + 1 ∧ Parts accepted parts a ∧
      ∀ b, parse (String.ofList (before ++ (word ++ '/' :: cs))) = .ok b ↔
        Parts accepted (word :: parts) b := by
  rw [parse_eq_ok_iff_pieces, String.toList_ofList] at h
  refine ⟨_, by rw [List.length_map, length_pieces hbefore cs], h, fun b => ?_⟩
  have hwritten : ∀ c ∈ word ++ ['/'], isBlank c = false :=
    List.forall_mem_append.2 ⟨hword, List.forall_mem_singleton.2 (by decide)⟩
  have htrimmed := Text.trimmed_word hbefore hbegins hwritten
  rw [List.append_assoc, List.singleton_append, List.append_assoc, List.singleton_append]
    at htrimmed
  rw [parse_eq_ok_iff_pieces, String.toList_ofList, htrimmed,
    List.splitOn_append_cons_self_of_not_mem hslash, List.map_cons, hlower]

/-- Each step between spellings of an address keeps the address. -/
theorem parse_respelled (h : Respells cs cs') (hcs : parse (String.ofList cs) = .ok a) :
    parse (String.ofList cs') = .ok a := by
  cases h with
  | blanks hbefore hafter =>
    rw [parse_ofList] at hcs ⊢
    rwa [Text.trimmed_blanks hbefore hafter]
  | recased h =>
    rw [parse_ofList] at hcs ⊢
    rw [← Text.lower_trimmed_congr h]
    · exact hcs
    · exact hcs.sigma_not_mem
  | owner hbefore hbegins hcount =>
    have hword : ∀ c ∈ defaultNamespace.toList, isBlank c = false := by
      simpa using (by decide : defaultNamespace.toList.all (!isBlank ·))
    obtain ⟨parts, hlength, hparts, hwritten⟩ :=
      parse_written defaultNamespace.toList hbefore hbegins hword (by decide) (by decide) hcs
    rw [hcount] at hlength
    -- There is one part only, the type, so that an owner can be put in front of it.
    obtain ⟨type, rfl⟩ := List.length_eq_one_iff.1 hlength
    cases hparts with
    | type htype => exact (hwritten _).2 (.owned owner_default htype)
  | hostname hbefore hbegins hcount =>
    have hword : ∀ c ∈ defaultHostname.toList, isBlank c = false := by
      simpa using (by decide : defaultHostname.toList.all (!isBlank ·))
    obtain ⟨parts, hlength, hparts, hwritten⟩ :=
      parse_written defaultHostname.toList hbefore hbegins hword (by decide) (by decide) hcs
    rw [hcount] at hlength
    -- And here there are two, in front of which a host name can be put.
    obtain ⟨owner, type, rfl⟩ := List.length_eq_two.1 hlength
    cases hparts with
    | owned howner htype => exact (hwritten _).2 (.hosted hostname_default howner htype)

end Steps

/-- Addresses are canonical: an address that is read from some text is read from its full form, from
what messages show it as, which is no other address's, and from every other spelling of the text. -/
theorem parse_canonical {s : String} {a : ProviderAddress} (h : parse s = .ok a) :
    parse a.full = .ok a ∧ parse a.display = .ok a ∧
      (∀ s' b, parse s' = .ok b → b.display = a.display → b = a) ∧
      ∀ s' : String, Relation.ReflTransGen Respells s.toList s'.toList → parse s' = .ok a := by
  have hparts := parse_eq_ok_iff_pieces.1 h
  refine ⟨hparts.parse_full, hparts.parse_display, ?_, ?_⟩
  · intro s' b hb hdisplay
    have hshown := (parse_eq_ok_iff_pieces.1 hb).parse_display
    rw [hdisplay, hparts.parse_display] at hshown
    exact (Except.ok.inj hshown).symm
  · intro s' hsteps
    have hread : ∀ cs, Relation.ReflTransGen Respells s.toList cs →
        parse (String.ofList cs) = .ok a := by
      intro cs hcs
      induction hcs with
      | refl => rwa [String.ofList_toList]
      | tail _ hstep ih => exact parse_respelled hstep ih
    rw [← String.ofList_toList (s := s')]
    exact hread _ hsteps

/-- A type in capitals, with a blank before it. -/
theorem parse_canonical_type :
    parse " AWS" = .ok ⟨"registry.terraform.io", "hashicorp", "aws"⟩ ∧
      parse "registry.terraform.io/hashicorp/aws" =
        .ok ⟨"registry.terraform.io", "hashicorp", "aws"⟩ ∧
      parse "hashicorp/aws" = .ok ⟨"registry.terraform.io", "hashicorp", "aws"⟩ ∧
      parse " hashicorp/Aws" = .ok ⟨"registry.terraform.io", "hashicorp", "aws"⟩ := by
  have hread : parse " AWS" = .ok ⟨"registry.terraform.io", "hashicorp", "aws"⟩ := by
    decide +kernel
  obtain ⟨hfull, hdisplay, -, hspelled⟩ := parse_canonical hread
  refine ⟨hread, hfull, hdisplay, hspelled " hashicorp/Aws" ?_⟩
  have hrecased : Respells " AWS".toList " Aws".toList := .recased (by decide)
  have howned : Respells " Aws".toList " hashicorp/Aws".toList :=
    @Respells.owner [' '] "Aws".toList (List.forall_mem_singleton.2 (by decide))
      (by rintro _ ⟨⟩; decide) (by decide)
  exact (Relation.ReflTransGen.single hrecased).tail howned

end ProviderAddress

/-! ## The documented addresses -/

namespace ProviderAddress

/-- The rules that are documented. -/
def documented : Rules where
  owner := Word 64 ['_', '-']
  label := Word 63 ['-']
  port digits := digits ≠ [] ∧ ∀ c ∈ digits, '0' ≤ c ∧ c ≤ '9'

/-- The text has neither a newline nor anything beyond ASCII. -/
def Plain (cs : List Char) : Prop :=
  ∀ c ∈ cs, c ≠ '\n' ∧ c.toNat < 0x80

theorem plain_of_isAlphaNum {c : Char} (h : isAlphaNum c = true) : c ≠ '\n' ∧ c.toNat < 0x80 := by
  refine ⟨?_, ?_⟩
  · rintro rfl
    exact absurd h (by decide)
  · simp only [isAlphaNum, Bool.or_eq_true, Bool.and_eq_true, decide_eq_true_eq] at h
    have hnine : c ≤ '9' → c.toNat ≤ '9'.toNat := id
    have hz : c ≤ 'z' → c.toNat ≤ 'z'.toNat := id
    have h9 : '9'.toNat = 0x39 := rfl
    have h122 : 'z'.toNat = 0x7A := rfl
    rcases h with h | h
    · have := hnine h.2
      omega
    · have := hz h.2
      omega

section Words

variable {limit : Nat} {inner cs : List Char}

theorem Word.plain (h : Word limit inner cs) (hinner : Plain inner) : Plain cs := by
  intro c hc
  rcases h.consists c hc with h | h
  · exact plain_of_isAlphaNum h
  · exact hinner c h

/-- A line without a newline is a word. -/
theorem word_iff_line (hinner : Plain inner) :
    Word limit inner cs ↔ Line (Word limit inner) cs ∧ Plain cs := by
  constructor
  · intro h
    exact ⟨⟨cs, h, .inl rfl⟩, h.plain hinner⟩
  · rintro ⟨h, hplain⟩
    exact h.word fun hlast => (hplain _ (List.mem_of_getLast? hlast)).1 rfl

end Words

theorem plain_inner : Plain ['_', '-'] ∧ Plain ['-'] := by
  simp only [Plain, List.mem_cons, List.not_mem_nil, or_false, forall_eq_or_imp, forall_eq]
  decide

theorem plain_intercalate {sep : Char} (hsep : Plain [sep]) {pieces : List (List Char)} :
    Plain ([sep].intercalate pieces) ↔ ∀ piece ∈ pieces, Plain piece := by
  constructor
  · intro h piece hpiece c hc
    exact h c (mem_intercalate_of_mem hpiece hc)
  · intro h c hc
    obtain rfl | ⟨piece, hpiece, hc⟩ := mem_intercalate hc
    · exact hsep _ (by simp)
    · exact h piece hpiece c hc

theorem isDigit_iff_ascii {c : Char} (hc : c.toNat < 0x80) :
    Text.isDigit c = true ↔ '0' ≤ c ∧ c ≤ '9' := by
  rw [Text.isDigit, if_pos hc, Char.isDigit, Bool.and_eq_true, decide_eq_true_eq, decide_eq_true_eq]
  rfl

/-- The documented ports are those of ASCII that are not empty. -/
theorem port_documented_iff {digits : List Char} :
    documented.port digits ↔ accepted.port digits ∧ Plain digits ∧ digits ≠ [] := by
  constructor
  · rintro ⟨hne, hdigits⟩
    have halnum : ∀ c ∈ digits, isAlphaNum c = true := by
      intro c hc
      simp [isAlphaNum, hdigits c hc]
    have hplain : Plain digits := fun c hc => plain_of_isAlphaNum (halnum c hc)
    exact ⟨fun c hc => (isDigit_iff_ascii (hplain c hc).2).2 (hdigits c hc), hplain, hne⟩
  · rintro ⟨hdigits, hplain, hne⟩
    exact ⟨hne, fun c hc => (isDigit_iff_ascii (hplain c hc).2).1 (hdigits c hc)⟩

theorem plain_append {cs cs' : List Char} : Plain (cs ++ cs') ↔ Plain cs ∧ Plain cs' :=
  List.forall_mem_append

theorem plain_cons {c : Char} {cs : List Char} :
    Plain (c :: cs) ↔ (c ≠ '\n' ∧ c.toNat < 0x80) ∧ Plain cs :=
  List.forall_mem_cons

/-- The documented host names are those without a newline, anything beyond ASCII or a colon at the
end. -/
theorem hostname_documented_iff {cs : List Char} :
    Hostname documented cs ↔ Hostname accepted cs ∧ Plain cs ∧ cs.getLast? ≠ some ':' := by
  constructor
  · rintro ⟨labels, port, hne, hlabels, hport, rfl⟩
    have hline := fun label hlabel => (word_iff_line plain_inner.2).1 (hlabels label hlabel)
    have hplain : Plain (['.'].intercalate labels) :=
      (plain_intercalate (by simp [Plain])).2 fun label hlabel => (hline label hlabel).2
    -- A colon stands only in front of the port.
    have hcolon : ':' ∉ ['.'].intercalate labels := by
      intro h
      obtain h | ⟨label, hlabel, h⟩ := mem_intercalate h
      · exact absurd h (by decide)
      · exact absurd ((hlabels label hlabel).consists _ h) (by decide)
    rcases hport with rfl | ⟨digits, hdigits, rfl⟩
    · refine ⟨⟨labels, [], hne, fun label hlabel => (hline label hlabel).1, .inl rfl, rfl⟩, ?_, ?_⟩
      · rwa [List.append_nil]
      · rw [List.append_nil]
        exact fun h => hcolon (List.mem_of_getLast? h)
    · obtain ⟨haccepted, hascii, hdigit⟩ := port_documented_iff.1 hdigits
      refine ⟨⟨labels, _, hne, fun label hlabel => (hline label hlabel).1,
        .inr ⟨digits, haccepted, rfl⟩, rfl⟩, ?_, ?_⟩
      · exact plain_append.2 ⟨hplain, plain_cons.2 ⟨by decide, hascii⟩⟩
      · -- A port has a digit, which stands at the end.
        intro h
        rw [List.getLast?_append_of_ne_nil _ (by simp), List.getLast?_cons_of_ne_nil hdigit] at h
        exact absurd (hdigits.2 _ (List.mem_of_getLast? h)) (by decide)
  · rintro ⟨⟨labels, port, hne, hlabels, hport, rfl⟩, hplain, hlast⟩
    obtain ⟨hhost, hascii⟩ := plain_append.1 hplain
    rw [plain_intercalate (by simp [Plain])] at hhost
    refine ⟨labels, port, hne, fun label hlabel =>
      (word_iff_line plain_inner.2).2 ⟨hlabels label hlabel, hhost label hlabel⟩, ?_, rfl⟩
    rcases hport with rfl | ⟨digits, hdigits, rfl⟩
    · exact .inl rfl
    · refine .inr ⟨digits, port_documented_iff.2 ⟨hdigits, (plain_cons.1 hascii).2, ?_⟩, rfl⟩
      rintro rfl
      rw [List.getLast?_concat] at hlast
      exact hlast rfl

theorem kind_plain {type : List Char} (h : Kind type) : Plain type :=
  h.1.plain plain_inner.1

/-- The documented addresses are those of the accepted ones whose parts have no newline and nothing
beyond ASCII and whose host name does not end in a colon. -/
theorem parts_documented_iff {parts : List (List Char)} {a : ProviderAddress} :
    Parts documented parts a ↔
      Parts accepted parts a ∧ (∀ part ∈ parts, Plain part) ∧
        a.hostname.toList.getLast? ≠ some ':' := by
  have howner : ∀ {cs}, documented.owner cs ↔ accepted.owner cs ∧ Plain cs :=
    word_iff_line plain_inner.1
  -- Without a host name of its own, an address has the default one.
  have hdefault : defaultHostname.toList.getLast? ≠ some ':' := by decide
  constructor
  · rintro (htype | ⟨howned, htype⟩ | ⟨hhost, howned, htype⟩)
    · exact ⟨.type htype, by simpa using kind_plain htype, hdefault⟩
    · obtain ⟨haccepted, hplain⟩ := howner.1 howned
      exact ⟨.owned haccepted htype, by simpa using ⟨hplain, kind_plain htype⟩, hdefault⟩
    · obtain ⟨haccepted, hplain⟩ := howner.1 howned
      obtain ⟨hname, hascii, hlast⟩ := hostname_documented_iff.1 hhost
      refine ⟨.hosted hname haccepted htype, ?_, by rwa [String.toList_ofList]⟩
      simpa using ⟨hascii, hplain, kind_plain htype⟩
  · rintro ⟨htype | ⟨howned, htype⟩ | ⟨hhost, howned, htype⟩, hplain, hlast⟩
    · exact .type htype
    · exact .owned (howner.2 ⟨howned, hplain _ (by simp)⟩) htype
    · rw [String.toList_ofList] at hlast
      exact .hosted (hostname_documented_iff.2 ⟨hhost, hplain _ (by simp), hlast⟩)
        (howner.2 ⟨howned, hplain _ (by simp)⟩) htype

theorem writes_documented_iff {cs : List Char} {a : ProviderAddress} :
    Writes documented cs a ↔
      Writes accepted cs a ∧ Plain cs ∧ a.hostname.toList.getLast? ≠ some ':' := by
  have hslash : Plain ['/'] := by simp [Plain]
  constructor
  · rintro ⟨parts, rfl, h⟩
    obtain ⟨haccepted, hplain, hlast⟩ := parts_documented_iff.1 h
    exact ⟨⟨parts, rfl, haccepted⟩, (plain_intercalate hslash).2 hplain, hlast⟩
  · rintro ⟨⟨parts, rfl, h⟩, hplain, hlast⟩
    exact ⟨parts, rfl, parts_documented_iff.2 ⟨h, (plain_intercalate hslash).1 hplain, hlast⟩⟩

/-- The grammar of addresses. A text is read exactly if, trimmed and in lower case, it writes an
address by the rules that are applied; of the addresses that are read, the documented ones are those
without a newline, anything beyond ASCII or a bare colon. -/
theorem parse_grammar (s : String) (a : ProviderAddress) :
    (parse s = .ok a ↔ Writes accepted (Text.lower (Text.trim s)).toList a) ∧
      (Writes documented (Text.lower (Text.trim s)).toList a ↔
        parse s = .ok a ∧ Plain (Text.lower (Text.trim s)).toList ∧
          a.hostname.toList.getLast? ≠ some ':') := by
  rw [parse_eq_ok_iff_writes]
  exact ⟨Iff.rfl, writes_documented_iff⟩

/-- Not every text that is read is a documented address: a newline may follow an owner. -/
theorem not_forall_read_documented :
    ¬ ∀ s, (∃ a, parse s = .ok a) ↔
      ∃ a, Writes documented (Text.lower (Text.trim s)).toList a := by
  intro h
  have hread : parse "ns\n/aws" = .ok ⟨defaultHostname, "ns\n", "aws"⟩ := by decide +kernel
  obtain ⟨a, hwrites⟩ := (h "ns\n/aws").1 ⟨_, hread⟩
  have hplain := (writes_documented_iff.1 hwrites).2.1
  have hmem : '\n' ∈ (Text.lower (Text.trim "ns\n/aws")).toList := by decide +kernel
  exact (hplain _ hmem).1 rfl

end ProviderAddress

end ResourceTables
