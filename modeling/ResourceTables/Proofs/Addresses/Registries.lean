import Mathlib.Data.Finset.Card
import Mathlib.Data.Finset.Dedup
import ResourceTables.Proofs.Addresses.Spellings
import ResourceTables.Proofs.Ensures
import ResourceTables.Provider.Registry

/-!
# What a registry finds

A registry is keyed by addresses, and both the entries that it is made of and the questions that it
is asked name them in any spelling. What it finds for a text is what the last entry with the same
address says.

* `Registry.LastFor`: the last entry of a list that denotes an address;
* `Registry.find?_set`, `Registry.map_fst_set`: one more entry replaces what its address had;
* `Registry.ensures_ofEntries`: a registry holds the last entry for each address, and each address
  once;
* `Registry.lookup_ofEntries`: when there is a registry, what it finds, and how large it is.
-/

namespace ResourceTables.Registry

open ProviderAddress (parse)

/-- The entry is the last one whose source denotes the address. -/
def LastFor (a : ProviderAddress) (entries : List (String × Document))
    (entry : String × Document) : Prop :=
  ∃ before after, entries = before ++ entry :: after ∧ parse entry.1 = .ok a ∧
    ∀ other ∈ after, parse other.1 ≠ .ok a

/-- The addresses that the sources of the entries denote. -/
def denoted (entries : List (String × Document)) : Finset ProviderAddress :=
  (entries.filterMap fun entry => (parse entry.1).toOption).toFinset

theorem mem_denoted {entries : List (String × Document)} {a : ProviderAddress} :
    a ∈ denoted entries ↔ ∃ entry ∈ entries, parse entry.1 = .ok a := by
  have hoption : ∀ x : Except AddressError ProviderAddress,
      x.toOption = some a ↔ x = .ok a := by
    rintro (e | b) <;> simp [Except.toOption]
  simp only [denoted, List.mem_toFinset, List.mem_filterMap, hoption]

section Last

variable {a b : ProviderAddress} {entries : List (String × Document)}
  {entry last : String × Document}

/-- An entry at the end is the last one for its address. -/
theorem lastFor_append_self (h : parse entry.1 = .ok a) :
    LastFor a (entries ++ [entry]) last ↔ last = entry := by
  constructor
  · rintro ⟨before, after, hentries, -, hafter⟩
    rcases List.eq_nil_or_concat' after with rfl | ⟨rest, final, rfl⟩
    · exact (List.append_singleton_inj.1 hentries).2.symm
    · -- The entry at the end denotes the address, so nothing else is the last one.
      rw [← List.cons_append, ← List.append_assoc] at hentries
      obtain rfl := (List.append_singleton_inj.1 hentries).2
      exact absurd h (hafter entry (by simp))
  · rintro rfl
    exact ⟨entries, [], rfl, h, by simp⟩

/-- It changes nothing for other addresses. -/
theorem lastFor_append_of_ne (h : parse entry.1 = .ok a) (hne : b ≠ a) :
    LastFor b (entries ++ [entry]) last ↔ LastFor b entries last := by
  have hother : parse entry.1 ≠ .ok b := by
    rw [h]
    exact fun heq => hne (Except.ok.inj heq).symm
  constructor
  · rintro ⟨before, after, hentries, hlast, hafter⟩
    rcases List.eq_nil_or_concat' after with rfl | ⟨rest, final, rfl⟩
    · obtain rfl := (List.append_singleton_inj.1 hentries).2
      exact absurd hlast hother
    · rw [← List.cons_append, ← List.append_assoc] at hentries
      obtain ⟨rfl, rfl⟩ := List.append_singleton_inj.1 hentries
      exact ⟨before, rest, rfl, hlast, fun other hmem => hafter other (by simp [hmem])⟩
  · rintro ⟨before, after, rfl, hlast, hafter⟩
    refine ⟨before, after ++ [entry], by simp, hlast, ?_⟩
    exact List.forall_mem_append.2 ⟨hafter, List.forall_mem_singleton.2 hother⟩

end Last

/-! ## One more entry -/

variable {r : Registry} {a b : ProviderAddress} {entries : List (String × Document)}

/-- What is looked up among the pairs once the schema of one address has been replaced. -/
theorem lookup_map_set (providers : List (ProviderAddress × ProviderSchema)) (a : ProviderAddress)
    (schema : ProviderSchema) (b : ProviderAddress) :
    (providers.map fun (c, old) => if c == a then (c, schema) else (c, old)).lookup b =
      (providers.lookup b).map fun old => if b = a then schema else old := by
  induction providers with
  | nil => rfl
  | cons pair providers ih =>
    obtain ⟨c, old⟩ := pair
    have hpair : (if c == a then (c, schema) else (c, old)) =
        (c, if c = a then schema else old) := by
      by_cases hc : c = a <;> simp [hc]
    rw [List.map_cons]
    dsimp only
    rw [hpair, List.lookup_cons, List.lookup_cons]
    by_cases hb : b = c
    · simp [hb]
    · simp only [beq_false_of_ne hb, ih]

theorem lookup_eq_none_iff_not_mem {providers : List (ProviderAddress × ProviderSchema)} :
    providers.lookup b = none ↔ b ∉ providers.map Prod.fst := by
  rw [List.lookup_eq_none_iff, List.mem_map]
  constructor
  · rintro h ⟨pair, hpair, rfl⟩
    exact absurd (h pair hpair) (by simp)
  · exact fun h pair hpair => bne_iff_ne.2 fun heq => h ⟨pair, hpair, heq.symm⟩

theorem any_fst_iff {providers : List (ProviderAddress × ProviderSchema)} :
    providers.any (·.1 == a) = true ↔ a ∈ providers.map Prod.fst := by
  simp [List.any_eq_true, List.mem_map]

/-- One more entry is what is found for its address, and for others what was there is. -/
theorem find?_set (r : Registry) (a : ProviderAddress) (schema : ProviderSchema)
    (b : ProviderAddress) :
    (r.set a schema).find? b = if b = a then some schema else r.find? b := by
  unfold set
  split
  · next hthere =>
    -- The pair of the address keeps its place and gets the schema.
    rw [find?, lookup_map_set]
    by_cases hb : b = a
    · have hsome : r.providers.lookup a ≠ none := fun hnone =>
        lookup_eq_none_iff_not_mem.1 hnone (any_fst_iff.1 hthere)
      obtain ⟨old, hold⟩ := Option.ne_none_iff_exists'.1 hsome
      rw [hb, hold]
      simp
    · simp [hb, find?]
  · next hmissing =>
    -- A new pair stands behind the others, where it is found if they have no other pair for it.
    rw [find?]
    dsimp only
    rw [List.lookup_append]
    by_cases hb : b = a
    · have hnone : r.providers.lookup a = none :=
        lookup_eq_none_iff_not_mem.2 fun hmem => hmissing (any_fst_iff.2 hmem)
      rw [hb, hnone]
      simp
    · simp [hb, find?, List.lookup_cons, beq_false_of_ne hb]

/-- An address that is there keeps its place, and another one comes behind all others. -/
theorem map_fst_set (r : Registry) (a : ProviderAddress) (schema : ProviderSchema) :
    (r.set a schema).providers.map Prod.fst =
      if a ∈ r.providers.map Prod.fst then r.providers.map Prod.fst
      else r.providers.map Prod.fst ++ [a] := by
  unfold set
  split
  · next hthere =>
    rw [if_pos (any_fst_iff.1 hthere), List.map_map]
    refine List.map_congr_left fun pair _ => ?_
    dsimp only [Function.comp_apply]
    split <;> rfl
  · next hmissing =>
    rw [if_neg fun hmem => hmissing (any_fst_iff.2 hmem), List.map_append]
    rfl

/-! ## All entries -/

/-- The registry is what the entries make: for each address that they denote it holds what the last
of its entries says, and it holds no address twice. -/
structure Holds (entries : List (String × Document)) (r : Registry) : Prop where
  /-- Every source is an address. -/
  sources : ∀ entry ∈ entries, ∃ a, parse entry.1 = .ok a
  /-- The addresses are different. -/
  nodup : (r.providers.map Prod.fst).Nodup
  /-- They are those that the sources denote. -/
  addresses : (r.providers.map Prod.fst).toFinset = denoted entries
  /-- The schema of an address is that of its last entry. -/
  last : ∀ a schema, r.find? a = some schema ↔
    ∃ entry, LastFor a entries entry ∧ ProviderSchema.ofDocument? entry.2 = some schema

/-- A registry of no entries is empty. -/
theorem holds_nil : Holds [] {} where
  sources := by simp
  nodup := List.nodup_nil
  addresses := rfl
  last a schema := by
    constructor
    · intro h
      cases h
    · rintro ⟨entry, ⟨before, after, hentries, -⟩, -⟩
      exact absurd hentries (by simp)

theorem denoted_append_singleton {entry : String × Document} (h : parse entry.1 = .ok a) :
    denoted (entries ++ [entry]) = insert a (denoted entries) := by
  ext b
  simp only [mem_denoted, Finset.mem_insert, List.mem_append, List.mem_singleton]
  constructor
  · rintro ⟨other, hmem | rfl, hother⟩
    · exact .inr ⟨other, hmem, hother⟩
    · rw [h] at hother
      exact .inl (Except.ok.inj hother).symm
  · rintro (rfl | ⟨other, hmem, hother⟩)
    · exact ⟨entry, .inr rfl, h⟩
    · exact ⟨other, .inl hmem, hother⟩

/-- One more entry makes the registry with it. -/
theorem Holds.set {entry : String × Document} {schema : ProviderSchema} (h : Holds entries r)
    (hsource : parse entry.1 = .ok a) (hschema : ProviderSchema.ofDocument? entry.2 = some schema) :
    Holds (entries ++ [entry]) (r.set a schema) where
  sources := List.forall_mem_append.2 ⟨h.sources, List.forall_mem_singleton.2 ⟨a, hsource⟩⟩
  -- An address that is there is replaced in its place, any other is put at the end.
  nodup := by
    rw [map_fst_set]
    split
    · exact h.nodup
    · next hnew => exact h.nodup.append (List.nodup_singleton a) (by simpa using hnew)
  addresses := by
    rw [denoted_append_singleton hsource, ← h.addresses, map_fst_set]
    split
    · next hmem => exact (Finset.insert_eq_self.2 (List.mem_toFinset.2 hmem)).symm
    · rw [List.toFinset_append, List.toFinset_cons, List.toFinset_nil, Finset.union_comm]
      rfl
  last b other := by
    rw [find?_set]
    by_cases hb : b = a
    · subst hb
      simp [lastFor_append_self hsource, hschema]
    · rw [if_neg hb, h.last]
      simp only [lastFor_append_of_ne hsource hb]

/-- A registry that is made of entries holds the last entry for each address. -/
theorem ensures_ofEntries (entries : List (String × Document)) :
    Ensures (Holds entries) (ofEntries entries) := by
  refine .foldlM_taken (I := Holds) (fun taken r entry _ hr => ?_) holds_nil
  cases hschema : ProviderSchema.ofDocument? entry.2 with
  | none =>
    simp only [add, hschema]
    exact .error
  | some schema =>
    simp only [add, hschema]
    cases hsource : parse entry.1 with
    | error e => exact .error
    | ok a => exact .ok (hr.set hsource hschema)

/-- Of entries that are well-formed, none can be refused but for its source. -/
theorem ofEntries_cases (h : ∀ entry ∈ entries, (ProviderSchema.ofDocument? entry.2).isSome) :
    (∃ r, ofEntries entries = .ok r) ∨
      ∃ entry ∈ entries, ∃ e,
        parse entry.1 = .error e ∧ ofEntries entries = .error (.address e) := by
  -- The registry that the entries are added to is arbitrary, since it grows from entry to entry.
  unfold ofEntries
  generalize ({} : Registry) = r
  induction entries generalizing r with
  | nil => exact .inl ⟨r, rfl⟩
  | cons entry entries ih =>
    obtain ⟨hentry, hentries⟩ := List.forall_mem_cons.1 h
    obtain ⟨schema, hschema⟩ := Option.isSome_iff_exists.1 hentry
    rw [List.foldlM_cons]
    simp only [add, hschema]
    cases hsource : parse entry.1 with
    | error e => exact .inr ⟨entry, by simp, e, hsource, rfl⟩
    | ok a =>
      rcases ih hentries (r.set a schema) with hok | ⟨other, hmem, herror⟩
      · exact .inl hok
      · exact .inr ⟨other, List.mem_cons_of_mem entry hmem, herror⟩

/-- Some source is no address, or all of them are. -/
theorem ofEntries_eq_ok_iff
    (h : ∀ entry ∈ entries, (ProviderSchema.ofDocument? entry.2).isSome) :
    (∃ r, ofEntries entries = .ok r) ↔ ∀ entry ∈ entries, ∃ a, parse entry.1 = .ok a := by
  constructor
  · rintro ⟨r, hr⟩
    exact (ensures_ofEntries entries r hr).sources
  · intro hsources
    rcases ofEntries_cases h with hok | ⟨entry, hmem, e, hsource, -⟩
    · exact hok
    · obtain ⟨a, ha⟩ := hsources entry hmem
      rw [hsource] at ha
      cases ha

theorem ofEntries_eq_error_iff
    (h : ∀ entry ∈ entries, (ProviderSchema.ofDocument? entry.2).isSome) :
    (∃ e, ofEntries entries = .error (.address e)) ↔
      ∃ entry ∈ entries, ∃ e, parse entry.1 = .error e := by
  constructor
  · rintro ⟨e, he⟩
    rcases ofEntries_cases h with ⟨r, hr⟩ | ⟨entry, hmem, e', hsource, -⟩
    · rw [he] at hr
      cases hr
    · exact ⟨entry, hmem, e', hsource⟩
  · rintro ⟨entry, hmem, e, hsource⟩
    rcases ofEntries_cases h with ⟨r, hr⟩ | ⟨_, _, e', _, herror⟩
    · obtain ⟨a, ha⟩ := (ensures_ofEntries entries r hr).sources entry hmem
      rw [hsource] at ha
      cases ha
    · exact ⟨e', herror⟩

/-! ## Looking up -/

section Lookup

variable {t : String} {e : RegistryError}

theorem lookup_of_parse (r : Registry) (ht : parse t = .ok a) :
    r.lookup t = match r.find? a with
      | some schema => .ok schema
      | none => .error (.unknown a) := by
  rw [lookup, ht]
  change (match r.find? a with
    | some schema => pure schema
    | none => throw (RegistryError.unknown a)) = _
  cases r.find? a <;> rfl

/-- What is looked up is what the last entry with the address says. -/
theorem Holds.lookup_eq_ok_iff (hr : Holds entries r) (ht : parse t = .ok a)
    (schema : ProviderSchema) :
    r.lookup t = .ok schema ↔
      ∃ entry, LastFor a entries entry ∧ ProviderSchema.ofDocument? entry.2 = some schema := by
  rw [lookup_of_parse r ht, ← hr.last]
  cases r.find? a <;> simp

/-- Nothing is found exactly if no entry has the address. -/
theorem Holds.lookup_eq_error_iff (hr : Holds entries r) (ht : parse t = .ok a) :
    r.lookup t = .error e ↔ e = .unknown a ∧ ∀ entry ∈ entries, parse entry.1 ≠ .ok a := by
  have hmissing : r.find? a = none ↔ ∀ entry ∈ entries, parse entry.1 ≠ .ok a := by
    rw [find?, lookup_eq_none_iff_not_mem, ← List.mem_toFinset, hr.addresses, mem_denoted]
    simp
  rw [← hmissing, lookup_of_parse r ht]
  cases r.find? a <;> simp [eq_comm]

/-- There are as many providers as addresses. -/
theorem Holds.size_eq (hr : Holds entries r) : r.size = (denoted entries).card := by
  rw [← hr.addresses, List.toFinset_card_of_nodup hr.nodup, List.length_map, size]

/-- Another spelling of an address finds the same. -/
theorem lookup_respelled {t' : String} (r : Registry) (ht : parse t = .ok a)
    (h : ProviderAddress.Respells t.toList t'.toList) : r.lookup t' = r.lookup t := by
  have ht' : parse (String.ofList t'.toList) = .ok a :=
    ProviderAddress.parse_respelled h (by rwa [String.ofList_toList])
  rw [String.ofList_toList] at ht'
  rw [lookup_of_parse r ht, lookup_of_parse r ht']

end Lookup

/-- A registry of well-formed entries: it is refused, and for an address, exactly if one of the
sources is none. What is found for a text is what the last entry with the same address says, however
either of them is spelled, and nothing is found exactly if no entry has this address. There are as
many providers as addresses that the sources denote. -/
theorem lookup_ofEntries
    (h : ∀ entry ∈ entries, (ProviderSchema.ofDocument? entry.2).isSome) :
    ((∃ e, ofEntries entries = .error (.address e)) ↔
        ∃ entry ∈ entries, ∃ e, parse entry.1 = .error e) ∧
      ((∃ r, ofEntries entries = .ok r) ↔ ∀ entry ∈ entries, ∃ a, parse entry.1 = .ok a) ∧
      ∀ r, ofEntries entries = .ok r →
        (∀ t a, parse t = .ok a →
          (∀ schema, r.lookup t = .ok schema ↔
            ∃ entry, LastFor a entries entry ∧ ProviderSchema.ofDocument? entry.2 = some schema) ∧
          (∀ e, r.lookup t = .error e ↔
            e = .unknown a ∧ ∀ entry ∈ entries, parse entry.1 ≠ .ok a) ∧
          ∀ t' : String, ProviderAddress.Respells t.toList t'.toList → r.lookup t' = r.lookup t) ∧
        r.size = (denoted entries).card := by
  refine ⟨ofEntries_eq_error_iff h, ofEntries_eq_ok_iff h, fun r hr => ?_⟩
  have hholds := ensures_ofEntries entries r hr
  refine ⟨fun t a ht => ⟨hholds.lookup_eq_ok_iff ht, fun e => hholds.lookup_eq_error_iff ht, ?_⟩,
    hholds.size_eq⟩
  exact fun t' ht' => lookup_respelled r ht ht'

/-- Two entries of one address in two spellings, and one of another address between them. -/
def respelledEntries : List (String × Document) :=
  [("aws", .object [("resource_schemas", .object [("aws_vpc", .object [])])]),
    ("cloudflare/cloudflare", .object []), (" hashicorp/AWS", .object [])]

/-- The later of the two counts, in a third spelling too, and the two providers are both there. -/
theorem lookup_ofEntries_respelled :
    (∀ entry ∈ respelledEntries, (ProviderSchema.ofDocument? entry.2).isSome) ∧
      ∃ r, ofEntries respelledEntries = .ok r ∧
        r.lookup "registry.terraform.io/hashicorp/aws" = .ok ⟨[]⟩ ∧
        r.lookup "google" = .error (.unknown ⟨"registry.terraform.io", "hashicorp", "google"⟩) ∧
        r.size = 2 := by
  have hshape : ∀ entry ∈ respelledEntries, (ProviderSchema.ofDocument? entry.2).isSome := by
    decide
  have haws : parse "aws" = .ok ⟨"registry.terraform.io", "hashicorp", "aws"⟩ := by
    decide +kernel
  have hcloudflare : parse "cloudflare/cloudflare" =
      .ok ⟨"registry.terraform.io", "cloudflare", "cloudflare"⟩ := by
    decide +kernel
  have hrespelled : parse " hashicorp/AWS" =
      .ok ⟨"registry.terraform.io", "hashicorp", "aws"⟩ := by
    decide +kernel
  have hfull : parse "registry.terraform.io/hashicorp/aws" =
      .ok ⟨"registry.terraform.io", "hashicorp", "aws"⟩ := by
    decide +kernel
  have hgoogle : parse "google" = .ok ⟨"registry.terraform.io", "hashicorp", "google"⟩ := by
    decide +kernel
  obtain ⟨-, hok, hlookup⟩ := lookup_ofEntries hshape
  obtain ⟨r, hr⟩ := hok.2 (by simp [respelledEntries, haws, hcloudflare, hrespelled])
  -- No key is evaluated again: what is found follows from the addresses.
  obtain ⟨hfound, hsize⟩ := hlookup r hr
  refine ⟨hshape, r, hr, ?_, ?_, ?_⟩
  · refine ((hfound _ _ hfull).1 ⟨[]⟩).2
      ⟨_, ⟨respelledEntries.take 2, [], rfl, hrespelled, ?_⟩, rfl⟩
    simp
  · refine ((hfound _ _ hgoogle).2.1 _).2 ⟨rfl, ?_⟩
    simp [respelledEntries, haws, hcloudflare, hrespelled]
  · rw [hsize]
    simp only [denoted, respelledEntries, List.filterMap_cons, List.filterMap_nil, haws,
      hcloudflare, hrespelled, Except.toOption]
    decide

end ResourceTables.Registry
