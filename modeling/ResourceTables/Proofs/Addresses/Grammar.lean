import ResourceTables.Proofs.Addresses.Letters
import ResourceTables.Proofs.Ensures

/-!
# The grammar of addresses

Which texts are read as addresses, and what each of them writes. The rules say what words the parts
of an address are; a newline may follow an owner or a label of a host name, and a port is any number
of digits, of any script.

* `ProviderAddress.Writes`: a text in lower case writes an address, by given rules;
* `ProviderAddress.accepted`: the rules that are applied;
* `ProviderAddress.parse_eq_ok_iff_writes`: a text is read as an address exactly if, trimmed and in
  lower case, it writes it by these rules.
-/

namespace ResourceTables

namespace ProviderAddress

open Text (lowerChar lowerAfter isBlank trimmed)

/-! ## Rules -/

/-- A text of at most `limit` characters, alphanumeric ones and those in `inner`, that begins and
ends with an alphanumeric one. -/
structure Word (limit : Nat) (inner cs : List Char) : Prop where
  /-- The first character is alphanumeric. -/
  begins : cs.head?.any isAlphaNum = true
  /-- The last character is alphanumeric. -/
  ends : cs.getLast?.any isAlphaNum = true
  /-- All of them are alphanumeric or in `inner`. -/
  consists : ∀ c ∈ cs, isAlphaNum c = true ∨ c ∈ inner
  /-- There are not too many of them. -/
  length_le : cs.length ≤ limit

/-- A text with the property, or one that a newline follows. -/
def Line (P : List Char → Prop) (cs : List Char) : Prop :=
  ∃ word, P word ∧ (cs = word ∨ cs = word ++ ['\n'])

/-- What the parts of addresses have to be that not every rule agrees on. -/
structure Rules where
  /-- The owner. -/
  owner : List Char → Prop
  /-- A label of the host name. -/
  label : List Char → Prop
  /-- The port, after the colon. -/
  port : List Char → Prop

/-- The rules that are applied. -/
def accepted : Rules where
  owner := Line (Word 64 ['_', '-'])
  label := Line (Word 63 ['-'])
  port digits := ∀ c ∈ digits, Text.isDigit c = true

/-- A host name: labels with points between them, perhaps with a port. -/
def Hostname (rules : Rules) (cs : List Char) : Prop :=
  ∃ labels port, labels ≠ [] ∧ (∀ label ∈ labels, rules.label label) ∧
    (port = [] ∨ ∃ digits, rules.port digits ∧ port = ':' :: digits) ∧
    cs = ['.'].intercalate labels ++ port

/-- A type: a word that does not repeat what repositories are called. -/
def Kind (cs : List Char) : Prop :=
  Word 64 ['_', '-'] cs ∧ ¬ repositoryPrefix.toList <+: cs

/-- The parts of an address, of which the first two may be missing. -/
inductive Parts (rules : Rules) : List (List Char) → ProviderAddress → Prop
  | type {type} (htype : Kind type) :
    Parts rules [type] ⟨defaultHostname, defaultNamespace, String.ofList type⟩
  | owned {owner type} (howner : rules.owner owner) (htype : Kind type) :
    Parts rules [owner, type] ⟨defaultHostname, String.ofList owner, String.ofList type⟩
  | hosted {host owner type} (hhost : Hostname rules host) (howner : rules.owner owner)
    (htype : Kind type) :
    Parts rules [host, owner, type] ⟨String.ofList host, String.ofList owner, String.ofList type⟩

/-- The text consists of the parts of the address, with slashes between them. -/
def Writes (rules : Rules) (cs : List Char) (a : ProviderAddress) : Prop :=
  ∃ parts, cs = ['/'].intercalate parts ∧ Parts rules parts a

/-! ## Pieces -/

theorem splitAt_eq_splitOn (sep : Char) (cs : List Char) : splitAt sep cs = cs.splitOn sep := by
  induction cs with
  | nil => rfl
  | cons c cs ih =>
    rw [splitAt, ih, List.splitOn_cons_eq_if_modifyHead]
    simp only [beq_iff_eq]
    cases h : cs.splitOn sep with
    | nil => exact absurd h (List.splitOn_ne_nil sep cs)
    | cons piece pieces => rfl

theorem splitOn_append {sep : Char} {front : List Char} (h : sep ∉ front) (cs : List Char) :
    (front ++ cs).splitOn sep = (cs.splitOn sep).modifyHead (front ++ ·) := by
  induction front with
  | nil => cases h : cs.splitOn sep <;> simp [h]
  | cons c front ih =>
    rw [List.mem_cons, not_or] at h
    rw [List.cons_append, List.splitOn_cons_eq_if_modifyHead, if_neg (by simpa using Ne.symm h.1),
      ih h.2]
    cases cs.splitOn sep <;> rfl

/-- Lower case keeps the pieces apart. -/
theorem splitOn_flatMap_lowerChar (cs : List Char) :
    (cs.flatMap lowerChar).splitOn '/' = (cs.splitOn '/').map (·.flatMap lowerChar) := by
  induction cs with
  | nil => rfl
  | cons c cs ih =>
    rw [List.flatMap_cons, List.splitOn_cons_eq_if_modifyHead]
    by_cases hc : c = '/'
    · have hslash : lowerChar '/' = ['/'] := by decide
      rw [hc, hslash, List.singleton_append, List.splitOn_cons_eq_if_modifyHead,
        if_pos (beq_self_eq_true '/'), ih, if_pos (beq_self_eq_true '/')]
      rfl
    · have hmem : '/' ∉ lowerChar c := fun h =>
        hc (Text.eq_of_mem_lowerChar h (by decide) (by decide)).symm
      rw [splitOn_append hmem, ih, if_neg (by simpa using hc)]
      cases cs.splitOn '/' <;> simp

theorem flatMap_intercalate (f : Char → List Char) {sep : Char} (hsep : f sep = [sep])
    (pieces : List (List Char)) :
    ([sep].intercalate pieces).flatMap f = [sep].intercalate (pieces.map (·.flatMap f)) := by
  induction pieces with
  | nil => rfl
  | cons piece pieces ih =>
    cases pieces with
    | nil => simp
    | cons next pieces =>
      rw [List.intercalate_cons_cons, List.flatMap_append, List.flatMap_append, ih,
        List.flatMap_singleton, hsep, List.map_cons, List.map_cons, List.map_cons,
        List.intercalate_cons_cons]

theorem mem_intercalate {sep : Char} {pieces : List (List Char)} {c : Char}
    (h : c ∈ [sep].intercalate pieces) : c = sep ∨ ∃ piece ∈ pieces, c ∈ piece := by
  induction pieces with
  | nil => simp at h
  | cons piece pieces ih =>
    cases pieces with
    | nil => exact .inr ⟨piece, by simp, by simpa using h⟩
    | cons next pieces =>
      rw [List.intercalate_cons_cons, List.mem_append, List.mem_append, List.mem_singleton] at h
      rcases h with (h | h) | h
      · exact .inr ⟨piece, by simp, h⟩
      · exact .inl h
      · exact (ih h).imp_right fun ⟨piece', hmem, hc⟩ => ⟨piece', by simp [hmem], hc⟩

theorem mem_intercalate_of_mem {sep : Char} {pieces : List (List Char)} {piece : List Char}
    {c : Char} (hpiece : piece ∈ pieces) (hc : c ∈ piece) : c ∈ [sep].intercalate pieces := by
  induction pieces with
  | nil => cases hpiece
  | cons first pieces ih =>
    cases pieces with
    | nil => simpa [List.mem_singleton.1 hpiece] using hc
    | cons next pieces =>
      rw [List.intercalate_cons_cons]
      rcases List.mem_cons.1 hpiece with rfl | hpiece
      · simp [hc]
      · exact List.mem_append_right _ (ih hpiece)

theorem suffix_intercalate (sep : Char) (front : List (List Char)) (piece : List Char) :
    piece <:+ [sep].intercalate (front ++ [piece]) := by
  induction front with
  | nil => simp
  | cons first front ih =>
    rw [List.cons_append, List.intercalate_cons_of_ne_nil (by simp)]
    exact ih.trans (List.suffix_append _ _)

/-! ## Words -/

section Words

variable {limit : Nat} {inner cs : List Char}

theorem Word.ne_nil (h : Word limit inner cs) : cs ≠ [] := by
  rintro rfl
  exact absurd h.begins (by simp)

theorem Word.getLast?_ne (h : Word limit inner cs) {c : Char} (hc : isAlphaNum c = false) :
    cs.getLast? ≠ some c := by
  intro hlast
  have hends := h.ends
  rw [hlast, Option.any_some, hc] at hends
  cases hends

theorem isWord_iff : isWord limit inner cs = true ↔ Line (Word limit inner) cs := by
  -- The tests are made on the whole text or on the text without a newline at its end.
  have hword : ∀ word : List Char,
      (word.length ≤ limit && word.head?.any isAlphaNum && word.getLast?.any isAlphaNum &&
        word.all fun c => isAlphaNum c || inner.contains c) = true ↔ Word limit inner word := by
    intro word
    constructor
    · intro h
      simp only [Bool.and_eq_true, decide_eq_true_eq, List.all_eq_true, Bool.or_eq_true,
        List.contains_iff_mem] at h
      obtain ⟨⟨⟨hlength, hbegins⟩, hends⟩, hconsists⟩ := h
      exact ⟨hbegins, hends, hconsists, hlength⟩
    · intro h
      simpa [h.begins, h.ends, h.length_le] using h.consists
  rw [isWord, hword]
  constructor
  · split
    · next hlast =>
      intro h
      exact ⟨cs.dropLast, h, .inr (List.dropLast_append_getLast? _ hlast).symm⟩
    · intro h
      exact ⟨cs, h, .inl rfl⟩
  · rintro ⟨word, h, rfl | rfl⟩
    · rwa [if_neg (h.getLast?_ne (by decide))]
    · rwa [List.getLast?_concat, if_pos rfl, List.dropLast_concat]

theorem Line.ne_nil (h : Line (Word limit inner) cs) : cs ≠ [] := by
  obtain ⟨word, hword, rfl | rfl⟩ := h
  · exact hword.ne_nil
  · simp

/-- A line that does not end in a newline is a word. -/
theorem Line.word (h : Line (Word limit inner) cs) (hends : cs.getLast? ≠ some '\n') :
    Word limit inner cs := by
  obtain ⟨word, hword, rfl | rfl⟩ := h
  · exact hword
  · simp at hends

theorem Line.mem (h : Line (Word limit inner) cs) {c : Char} (hc : c ∈ cs) :
    isAlphaNum c = true ∨ c ∈ inner ∨ c = '\n' := by
  obtain ⟨word, hword, rfl | rfl⟩ := h
  · exact (hword.consists c hc).imp_right .inl
  · rcases List.mem_append.1 hc with hc | hc
    · exact (hword.consists c hc).imp_right .inl
    · exact .inr (.inr (List.mem_singleton.1 hc))

end Words

/-- What an owner can consist of. -/
theorem isAddressChar_of_owner {cs : List Char} (h : accepted.owner cs) {c : Char} (hc : c ∈ cs) :
    isAddressChar c = true ∧ c ≠ '/' := by
  have hmem : ∀ d ∈ ['_', '-', '\n'], isAddressChar d = true ∧ d ≠ '/' := by
    simp only [List.mem_cons, List.not_mem_nil, or_false, forall_eq_or_imp, forall_eq]
    decide
  rcases Line.mem h hc with h | h | rfl
  · refine ⟨by simp [isAddressChar, h], ?_⟩
    rintro rfl
    exact absurd h (by decide)
  · exact hmem c (List.mem_append_left ['\n'] h)
  · exact hmem _ (by simp)

/-! ## Host names -/

theorem Hostname.mem {cs : List Char} (h : Hostname accepted cs) {c : Char} (hc : c ∈ cs) :
    isAlphaNum c = true ∨ Text.isDigit c = true ∨ c ∈ ['-', '.', ':', '\n'] := by
  obtain ⟨labels, port, -, hlabels, hport, rfl⟩ := h
  rcases List.mem_append.1 hc with hc | hc
  · rcases mem_intercalate hc with rfl | ⟨label, hlabel, hc⟩
    · simp
    · rcases (hlabels label hlabel).mem hc with h | h | rfl
      · exact .inl h
      · simp [List.mem_singleton.1 h]
      · simp
  · rcases hport with rfl | ⟨digits, hdigits, rfl⟩
    · cases hc
    · rcases List.mem_cons.1 hc with rfl | hc
      · simp
      · exact .inr (.inl (hdigits c hc))

/-- What a host name can consist of. -/
theorem isAddressChar_of_hostname {cs : List Char} (h : Hostname accepted cs) {c : Char}
    (hc : c ∈ cs) : isAddressChar c = true ∧ c ≠ '/' := by
  have hinner : ∀ d ∈ ['-', '.', ':', '\n'], isAddressChar d = true ∧ d ≠ '/' := by
    simp only [List.mem_cons, List.not_mem_nil, or_false, forall_eq_or_imp, forall_eq]
    decide
  rcases h.mem hc with h | h | h
  · refine ⟨by simp [isAddressChar, h], ?_⟩
    rintro rfl
    exact absurd h (by decide)
  · refine ⟨by simp [isAddressChar, h], ?_⟩
    rintro rfl
    exact absurd h (by decide)
  · exact hinner c h

/-- The tests on a host name and its port are the rules for it. -/
theorem hostname_accepted_iff {cs : List Char} :
    Hostname accepted cs ↔
      (∀ c ∈ (cs.dropWhile (· != ':')).drop 1, Text.isDigit c = true) ∧
        ∀ label ∈ (cs.takeWhile (· != ':')).splitOn '.', accepted.label label := by
  constructor
  · rintro ⟨labels, port, hne, hlabels, hport, rfl⟩
    -- No label holds a point or a colon, so the name falls apart where it was put together.
    have hlabel : ∀ label ∈ labels, ∀ c, isAlphaNum c = false → c ∉ ['-', '\n'] → c ∉ label := by
      intro label hmem c hc hinner h
      rcases (hlabels label hmem).mem h with h | h | h <;> simp_all
    have hhost : ∀ c ∈ ['.'].intercalate labels, (c != ':') = true := by
      intro c hc
      rw [bne_iff_ne]
      rintro rfl
      rcases mem_intercalate hc with h | ⟨label, hmem, h⟩
      · exact absurd h (by decide)
      · exact hlabel label hmem ':' (by decide) (by decide) h
    have hsplit := List.splitOn_intercalate '.'
      (fun label hmem => hlabel label hmem '.' (by decide) (by decide)) hne
    rw [List.dropWhile_append_of_pos hhost, List.takeWhile_append_of_pos hhost]
    rcases hport with rfl | ⟨digits, hdigits, rfl⟩
    · simpa [hsplit] using hlabels
    · have hcolon : (':' :: digits).dropWhile (· != ':') = ':' :: digits := rfl
      have htake : (':' :: digits).takeWhile (· != ':') = [] := rfl
      rw [hcolon, htake, List.append_nil, hsplit]
      exact ⟨hdigits, hlabels⟩
  · rintro ⟨hport, hlabels⟩
    refine ⟨_, cs.dropWhile (· != ':'), List.splitOn_ne_nil _ _, hlabels, ?_, ?_⟩
    · cases hdrop : cs.dropWhile (· != ':') with
      | nil => exact .inl rfl
      | cons c digits =>
        have hc : c = ':' := by
          have hhead := List.head?_dropWhile_not (· != ':') cs
          rw [hdrop] at hhead
          simpa using hhead
        rw [hdrop, List.drop_one, List.tail_cons] at hport
        exact .inr ⟨digits, hport, by rw [hc]⟩
    · rw [List.intercalate_splitOn, List.takeWhile_append_dropWhile]

/-! ## Reading -/

/-- A port is refused if it has a character that is no digit. -/
theorem port_refused_iff {digits : List Char} :
    (!(String.ofList digits).isEmpty && !Text.isNumeral (String.ofList digits)) = true ↔
      ¬ ∀ c ∈ digits, Text.isDigit c = true := by
  cases digits with
  | nil => simp [Text.isNumeral]
  | cons c digits =>
    have hall : Text.isNumeral (String.ofList (c :: digits)) = (c :: digits).all Text.isDigit := by
      rw [Text.isNumeral, String.toList_ofList]
      simp
    rw [hall, ← List.all_eq_true]
    cases (c :: digits).all Text.isDigit <;> simp

theorem labels_iff {cs : List Char} :
    (cs.isEmpty || !(splitAt '.' cs).all (isWord 63 ['-'])) = true ↔
      ¬ ∀ label ∈ cs.splitOn '.', accepted.label label := by
  have hall : (splitAt '.' cs).all (isWord 63 ['-']) = true ↔
      ∀ label ∈ cs.splitOn '.', accepted.label label := by
    rw [splitAt_eq_splitOn, List.all_eq_true]
    exact forall₂_congr fun label _ => isWord_iff
  rw [← hall]
  cases cs with
  | nil => decide
  | cons c cs => simp

theorem parseHostname_eq_ok_iff {written : List Char} {host : String} :
    parseHostname written = .ok host ↔
      Hostname accepted (lowerAfter [] written) ∧ host = String.ofList (lowerAfter [] written) := by
  rw [hostname_accepted_iff, parseHostname, Text.lower, String.toList_ofList]
  simp only [String.toList_ofList]
  split
  · next h => simp only [reduceCtorEq, port_refused_iff.1 h, false_and]
  · next h =>
    rw [port_refused_iff, not_not] at h
    split
    · next hlabels => simp only [reduceCtorEq, labels_iff.1 hlabels, and_false, false_and]
    · next hlabels =>
      rw [labels_iff, not_not] at hlabels
      rw [Except.ok.injEq, and_iff_right ⟨h, hlabels⟩, eq_comm]

theorem parsePart_eq_ok_iff {which : AddressPart} {written : List Char} {part : String} :
    parsePart which written = .ok part ↔
      accepted.owner (lowerAfter [] written) ∧ part = String.ofList (lowerAfter [] written) := by
  have howner : ∀ cs, accepted.owner cs ↔ isWord 64 ['_', '-'] cs = true := 
    fun cs => isWord_iff.symm
  simp only [howner, parsePart, Text.lower, String.toList_ofList]
  split
  · next h => rw [and_iff_right h, Except.ok.injEq, eq_comm]
  · next h => simp only [reduceCtorEq, h, false_and]

theorem ofParts_eq_ok_iff {hostname owner : Option (List Char)} {type : List Char}
    {a : ProviderAddress} :
    ofParts hostname owner type = .ok a ↔
      (match hostname with
        | some written => parseHostname written = .ok a.hostname
        | none => a.hostname = defaultHostname) ∧
      (match owner with
        | some written => parsePart .owner written = .ok a.owner
        | none => a.owner = defaultNamespace) ∧
      parsePart .type type = .ok a.type ∧ ¬ repositoryPrefix.toList <+: a.type.toList := by
  -- The name of the provider is tested when everything has been read.
  have hlast : ∀ host own kind : String,
      (if repositoryPrefix.toList.isPrefixOf kind.toList then do
        throw (.repositoryName own (String.ofList (kind.toList.drop repositoryPrefix.length)))
        pure ⟨host, own, kind⟩
      else pure ⟨host, own, kind⟩ : Except AddressCause ProviderAddress) = .ok a ↔
        a.hostname = host ∧ a.owner = own ∧ a.type = kind ∧
          ¬ repositoryPrefix.toList <+: a.type.toList := by
    intro host own kind
    constructor
    · split
      · nofun
      · next h =>
        intro ha
        obtain rfl := Except.ok.inj ha
        exact ⟨rfl, rfl, rfl, by rwa [← List.isPrefixOf_iff_prefix]⟩
    · rintro ⟨rfl, rfl, rfl, h⟩
      rw [← List.isPrefixOf_iff_prefix] at h
      rw [if_neg h]
      rfl
  have hpure : ∀ x y : String, (pure x : Except AddressCause String) = .ok y ↔ y = x := by
    intro x y
    exact Except.ok.injEq x y ▸ eq_comm
  cases hostname <;> cases owner <;>
  · simp only [ofParts, bind_eq_ok_iff, hpure, hlast]
    constructor
    · rintro ⟨_, hhost, _, howner, _, htype, rfl, rfl, rfl, hprefix⟩
      exact ⟨hhost, howner, htype, hprefix⟩
    · rintro ⟨hhost, howner, htype, hprefix⟩
      exact ⟨_, hhost, _, howner, _, htype, rfl, rfl, rfl, hprefix⟩

/-- What is put in lower case ends in a newline only if it did before. -/
theorem getLast?_flatMap_lowerChar {cs : List Char}
    (h : (cs.flatMap lowerChar).getLast? = some '\n') : cs.getLast? = some '\n' := by
  obtain rfl | ⟨front, c, rfl⟩ := List.eq_nil_or_concat cs
  · cases h
  · rw [List.concat_eq_append] at h ⊢
    have hne : lowerChar c ≠ [] := by
      rw [lowerChar]
      split
      · simp
      · split
        · simp
        · split <;> simp
    rw [List.flatMap_append, List.flatMap_singleton, List.getLast?_append_of_ne_nil _ hne] at h
    rw [List.getLast?_concat,
      Text.eq_of_mem_lowerChar (List.mem_of_getLast? h) (by decide) (by decide)]

/-- Without a newline at its end, a type is read exactly if it is one in lower case. -/
theorem kind_iff {type : List Char} (hends : type.getLast? ≠ some '\n') {kind : String} :
    parsePart .type type = .ok kind ∧ ¬ repositoryPrefix.toList <+: kind.toList ↔
      Kind (lowerAfter [] type) ∧ kind = String.ofList (lowerAfter [] type) := by
  have hword : accepted.owner (lowerAfter [] type) ↔ Word 64 ['_', '-'] (lowerAfter [] type) := by
    refine ⟨fun h => h.word fun hlast => ?_, fun h => ⟨_, h, .inl rfl⟩⟩
    have hsigma := sigma_not_mem fun c hc => (isAddressChar_of_owner h hc).1
    rw [Text.lowerAfter_eq_flatMap hsigma] at hlast
    exact hends (getLast?_flatMap_lowerChar hlast)
  rw [parsePart_eq_ok_iff, hword, Kind]
  constructor
  · rintro ⟨⟨hkind, rfl⟩, hprefix⟩
    rw [String.toList_ofList] at hprefix
    exact ⟨⟨hkind, hprefix⟩, rfl⟩
  · rintro ⟨⟨hkind, hprefix⟩, rfl⟩
    rw [String.toList_ofList]
    exact ⟨⟨hkind, rfl⟩, hprefix⟩

section Pieces

variable {pieces : List (List Char)} {a : ProviderAddress}

/-- Up to three pieces are read exactly if they are the parts of an address in lower case. -/
theorem ofPieces_eq_ok_iff : pieces.length ≤ 3 →
    (∀ type, pieces.getLast? = some type → type.getLast? ≠ some '\n') →
    ((match pieces with
      | [type] => ofParts none none type
      | [owner, type] => ofParts none (some owner) type
      | hostname :: owner :: type :: _ => ofParts (some hostname) (some owner) type
      | [] => .error .empty : Except AddressCause ProviderAddress) = .ok a ↔
      Parts accepted (pieces.map (lowerAfter [])) a) := by
  intro hlength hends
  obtain ⟨host', owner', kind⟩ := a
  -- How many pieces there are tells which parts they are.
  match pieces, hlength with
  | [], _ => exact ⟨nofun, nofun⟩
  | [type], _ =>
    simp only [ofParts_eq_ok_iff, kind_iff (hends type rfl)]
    constructor
    · rintro ⟨rfl, rfl, htype, rfl⟩
      exact .type htype
    · rintro ⟨⟩
      next htype => exact ⟨rfl, rfl, htype, rfl⟩
  | [owner, type], _ =>
    simp only [ofParts_eq_ok_iff, kind_iff (hends type rfl)]
    simp only [parsePart_eq_ok_iff]
    constructor
    · rintro ⟨rfl, ⟨howner, rfl⟩, htype, rfl⟩
      exact .owned howner htype
    · rintro ⟨⟩
      next howner htype => exact ⟨rfl, ⟨howner, rfl⟩, htype, rfl⟩
  | [host, owner, type], _ =>
    simp only [ofParts_eq_ok_iff, kind_iff (hends type rfl)]
    simp only [parsePart_eq_ok_iff, parseHostname_eq_ok_iff]
    constructor
    · rintro ⟨⟨hhost, rfl⟩, ⟨howner, rfl⟩, htype, rfl⟩
      exact .hosted hhost howner htype
    · rintro ⟨⟩
      next hhost howner htype => exact ⟨⟨hhost, rfl⟩, ⟨howner, rfl⟩, htype, rfl⟩

theorem Parts.length_le {rules : Rules} (h : Parts rules pieces a) : pieces.length ≤ 3 := by
  cases h <;> simp

theorem Hostname.ne_nil {cs : List Char} (h : Hostname accepted cs) : cs ≠ [] := by
  rintro rfl
  have hlabels := (hostname_accepted_iff.1 h).2
  exact (hlabels [] (by simp)).ne_nil rfl

theorem Parts.ne_nil (h : Parts accepted pieces a) : ∀ piece ∈ pieces, piece ≠ [] := by
  cases h with
  | type htype => simpa using htype.1.ne_nil
  | owned howner htype => simpa using ⟨howner.ne_nil, htype.1.ne_nil⟩
  | hosted hhost howner htype => simpa using ⟨hhost.ne_nil, howner.ne_nil, htype.1.ne_nil⟩

/-- What the parts of an address consist of. -/
theorem Parts.isAddressChar (h : Parts accepted pieces a) :
    ∀ piece ∈ pieces, ∀ c ∈ piece, isAddressChar c = true ∧ c ≠ '/' := by
  have hkind : ∀ {type}, Kind type → ∀ c ∈ type, ProviderAddress.isAddressChar c = true ∧ c ≠ '/' :=
    fun htype c => isAddressChar_of_owner ⟨_, htype.1, .inl rfl⟩
  have howned : ∀ {owner}, accepted.owner owner →
      ∀ c ∈ owner, ProviderAddress.isAddressChar c = true ∧ c ≠ '/' :=
    fun howner c => isAddressChar_of_owner howner
  cases h with
  | type htype => simpa using hkind htype
  | owned howner htype => simpa using ⟨howned howner, hkind htype⟩
  | hosted hhost howner htype =>
    simpa using ⟨fun c => isAddressChar_of_hostname hhost, howned howner, hkind htype⟩

end Pieces

theorem guard_eq_ok_iff {c : Prop} [Decidable c] {e : AddressError}
    {x : Except AddressError ProviderAddress} {a : ProviderAddress} (h : c → x ≠ .ok a) :
    (if c then .error e else x) = .ok a ↔ x = .ok a := by
  split
  · next hc => exact ⟨nofun, fun hx => absurd hx (h hc)⟩
  · rfl

/-- The last piece of a text that has been trimmed does not end in a newline. -/
theorem getLast?_piece {cs type : List Char}
    (h : ((trimmed cs).splitOn '/').getLast? = some type) : type.getLast? ≠ some '\n' := by
  intro hlast
  obtain ⟨front, hfront⟩ := List.getLast?_eq_some_iff.1 h
  obtain ⟨before, hbefore⟩ := suffix_intercalate '/' front type
  rw [← hfront, List.intercalate_splitOn] at hbefore
  have hends : (trimmed cs).getLast? = some '\n' := by
    rw [← hbefore, List.getLast?_append, hlast, Option.some_or]
  exact absurd (Text.isBlank_getLast?_trimmed hends) (by decide)

/-- A text is read exactly if its pieces, in lower case, are the parts of an address. -/
theorem parse_eq_ok_iff_pieces {s : String} {a : ProviderAddress} :
    parse s = .ok a ↔
      Parts accepted (((trimmed s.toList).splitOn '/').map (lowerAfter [])) a := by
  simp only [parse, splitAt_eq_splitOn, Text.toList_trim]
  by_cases hlength : ((trimmed s.toList).splitOn '/').length ≤ 3
  · have hread := ofPieces_eq_ok_iff (a := a) hlength fun type => getLast?_piece
    -- Empty texts and empty pieces are refused before, but they are no parts of an address anyway.
    rw [guard_eq_ok_iff, if_neg (by omega), guard_eq_ok_iff, mapError_eq_ok_iff]
    · exact hread
    · intro hempty hok
      obtain ⟨piece, hmem, hpiece⟩ := List.any_eq_true.1 hempty
      have hparts := hread.1 (mapError_eq_ok_iff.1 hok)
      refine hparts.ne_nil [] (List.mem_map.2 ⟨piece, hmem, ?_⟩) rfl
      rw [List.isEmpty_iff.1 hpiece]
      rfl
    · intro hempty hok
      rw [List.isEmpty_iff.1 hempty] at hok
      cases hok
  · have hparts : ¬ Parts accepted (((trimmed s.toList).splitOn '/').map (lowerAfter [])) a :=
      fun h => hlength (by simpa using h.length_le)
    have hempty : trimmed s.toList ≠ [] := by
      intro hempty
      simp [hempty] at hlength
    rw [if_neg (by simpa using hempty), if_pos (by omega)]
    exact ⟨nofun, fun h => absurd h hparts⟩

/-- A text whose lower case writes an address has no capital sigma, so each of its letters is
lowered by itself. -/
theorem Writes.sigma_not_mem {cs : List Char} {a : ProviderAddress}
    (h : Writes accepted (lowerAfter [] cs) a) : 'Σ' ∉ cs := by
  obtain ⟨parts, heq, hparts⟩ := h
  refine ProviderAddress.sigma_not_mem fun c hc => ?_
  rw [heq] at hc
  obtain rfl | ⟨part, hpart, hc⟩ := mem_intercalate hc
  · rfl
  · exact (hparts.isAddressChar part hpart c hc).1

/-- In lower case, the pieces of a text are those of the text in lower case. -/
theorem parts_iff_writes {cs : List Char} {a : ProviderAddress} :
    Parts accepted ((cs.splitOn '/').map (lowerAfter [])) a ↔
      Writes accepted (lowerAfter [] cs) a := by
  have hpieces : ['/'].intercalate (cs.splitOn '/') = cs := List.intercalate_splitOn '/'
  -- A capital sigma is the only letter whose lower case depends on where it stands.
  have hmap : 'Σ' ∉ cs →
      (cs.splitOn '/').map (lowerAfter []) = (cs.splitOn '/').map (·.flatMap lowerChar) := by
    intro hsigma
    refine List.map_congr_left fun piece hpiece => Text.lowerAfter_eq_flatMap fun h => hsigma ?_
    rw [← hpieces]
    exact mem_intercalate_of_mem hpiece h
  constructor
  · intro hparts
    have hsigma : 'Σ' ∉ cs := by
      intro h
      rw [← hpieces] at h
      obtain h | ⟨piece, hpiece, h⟩ := mem_intercalate h
      · exact absurd h (by decide)
      · refine sigma_not_mem (fun c hc => ?_) h
        exact (hparts.isAddressChar _ (List.mem_map_of_mem hpiece) c hc).1
    refine ⟨_, ?_, hparts⟩
    rw [hmap hsigma, Text.lowerAfter_eq_flatMap hsigma, ← flatMap_intercalate lowerChar (by decide),
      hpieces]
  · intro hwrites
    have hsigma := hwrites.sigma_not_mem
    obtain ⟨parts, heq, hparts⟩ := hwrites
    have hsplit : (lowerAfter [] cs).splitOn '/' = parts := by
      rw [heq, List.splitOn_intercalate]
      · intro part hpart h
        exact (hparts.isAddressChar part hpart '/' h).2 rfl
      · rintro rfl
        cases hparts
    rwa [hmap hsigma, ← splitOn_flatMap_lowerChar, ← Text.lowerAfter_eq_flatMap hsigma, hsplit]

theorem parse_eq_ok_iff_writes {s : String} {a : ProviderAddress} :
    parse s = .ok a ↔ Writes accepted (Text.lower (Text.trim s)).toList a := by
  rw [parse_eq_ok_iff_pieces, parts_iff_writes, Text.lower, String.toList_ofList, Text.toList_trim]

end ProviderAddress

end ResourceTables
