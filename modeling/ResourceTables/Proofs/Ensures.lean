/-!
# What a computation that may fail ensures

`Ensures P x` says of a computation that its result, if it has one, has the property `P`. It follows
the structure of a computation: what the steps ensure one after the other, the whole ensures.
`FailsWith P x` says the like of the error that it fails with, if it fails, and `Delivers P E x`
says both.
-/

namespace ResourceTables

/-- The computation gives something with the property, unless it fails. -/
def Ensures (P : α → Prop) (x : Except ε α) : Prop :=
  ∀ a, x = .ok a → P a

namespace Ensures

variable {P : α → Prop} {Q : β → Prop} {x : Except ε α}

theorem ok {a : α} (h : P a) : Ensures P (.ok a : Except ε α) := by
  intro b hb
  cases hb
  exact h

theorem error {err : ε} : Ensures P (.error err : Except ε α) := by
  intro a ha
  cases ha

theorem trivial : Ensures (fun _ => True) x :=
  fun _ _ => True.intro

instance [DecidablePred P] : (x : Except ε α) → Decidable (Ensures P x)
  | .ok a => decidable_of_iff (P a) ⟨ok, fun h => h a rfl⟩
  | .error _ => .isTrue error

theorem mono {P' : α → Prop} (h : Ensures P x) (himp : ∀ a, P a → P' a) : Ensures P' x :=
  fun a ha => himp a (h a ha)

theorem and {P' : α → Prop} (h : Ensures P x) (h' : Ensures P' x) :
    Ensures (fun a => P a ∧ P' a) x :=
  fun a ha => ⟨h a ha, h' a ha⟩

/-- Of computations one after the other, the second may rely on what the first ensures. -/
theorem bind {f : α → Except ε β} (hx : Ensures P x) (hf : ∀ a, P a → Ensures Q (f a)) :
    Ensures Q (x >>= f) := by
  cases x with
  | ok a => exact hf a (hx a rfl)
  | error err => exact error

theorem map {f : α → β} (hx : Ensures P x) (hf : ∀ a, P a → Q (f a)) : Ensures Q (x.map f) := by
  cases x with
  | ok a => exact ok (hf a (hx a rfl))
  | error err => exact error

/-- A computation for each element of a list ensures of all results what it ensures of each. -/
theorem mapM {f : α → Except ε β} {as : List α} (h : ∀ a ∈ as, Ensures Q (f a)) :
    Ensures (fun bs => ∀ b ∈ bs, Q b) (as.mapM f) := by
  induction as with
  | nil =>
    rw [List.mapM_nil]
    exact ok (by simp)
  | cons a as ih =>
    rw [List.mapM_cons]
    refine bind (h a (by simp)) fun b hb => ?_
    refine bind (ih fun a' ha' => h a' (by simp [ha'])) fun bs hbs => ok ?_
    intro b' hb'
    rcases List.mem_cons.1 hb' with rfl | hmem
    · exact hb
    · exact hbs b' hmem

/-- What is computed for an element of a list is among all results. -/
theorem mem_mapM {f : α → Except ε β} {as : List α} {a : α} (ha : a ∈ as) :
    Ensures (fun bs => ∃ b ∈ bs, f a = .ok b) (as.mapM f) := by
  induction as with
  | nil => cases ha
  | cons first as ih =>
    rw [List.mapM_cons]
    refine bind (fun b hb => hb) fun b hb => ?_
    rcases List.mem_cons.1 ha with rfl | ha
    · exact bind trivial fun bs _ => ok ⟨b, List.mem_cons_self, hb⟩
    · refine bind (ih ha) fun bs hbs => ok ?_
      obtain ⟨b', hb', hfa⟩ := hbs
      exact ⟨b', List.mem_cons_of_mem b hb', hfa⟩

/-- Of lists computed for each element, all members have what each list's members have. -/
theorem flatten {f : α → Except ε (List β)} {as : List α}
    (h : ∀ a ∈ as, Ensures (fun bs => ∀ b ∈ bs, Q b) (f a)) :
    Ensures (fun bs => ∀ b ∈ bs, Q b) (do return (← as.mapM f).flatten) := by
  refine bind (mapM h) fun groups hgroups => ok ?_
  intro b hb
  obtain ⟨bs, hbs, hb⟩ := List.mem_flatten.1 hb
  exact hgroups bs hbs b hb

/-- A property that taking in each element keeps holds of what is made of all of them. -/
theorem foldlM {f : β → α → Except ε β} {as : List α}
    (h : ∀ b, Q b → ∀ a ∈ as, Ensures Q (f b a)) {b : β} (hb : Q b) :
    Ensures Q (as.foldlM f b) := by
  induction as generalizing b with
  | nil => exact ok hb
  | cons a as ih =>
    rw [List.foldlM_cons]
    exact bind (h b hb a (by simp)) fun b' hb' =>
      ih (fun b hb a' ha' => h b hb a' (by simp [ha'])) hb'

/-- A relation between what has been taken in and what has been made of it, which taking in one more
keeps, holds between all elements and what is made of them. -/
theorem foldlM_taken {f : β → α → Except ε β} {I : List α → β → Prop} {as : List α} {b : β}
    (h : ∀ taken b a, a ∈ as → I taken b → Ensures (I (taken ++ [a])) (f b a)) (hb : I [] b) :
    Ensures (I as) (as.foldlM f b) := by
  have hfrom : ∀ taken rest b, (∀ a ∈ rest, a ∈ as) → I taken b →
      Ensures (I (taken ++ rest)) (rest.foldlM f b) := by
    intro taken rest
    induction rest generalizing taken with
    | nil =>
      intro b _ hb
      rw [List.append_nil]
      exact ok hb
    | cons a rest ih =>
      intro b hmem hb
      rw [List.foldlM_cons]
      refine bind (h taken b a (hmem a (by simp)) hb) fun b' hb' => ?_
      have hrest := ih (taken ++ [a]) b' (fun a' ha' => hmem a' (by simp [ha'])) hb'
      rwa [List.append_assoc] at hrest
  simpa using hfrom [] as b (fun _ ha => ha) hb

end Ensures

/-- If the computation fails, it does so with an error that has the property. -/
def FailsWith (P : ε → Prop) (x : Except ε α) : Prop :=
  ∀ e, x = .error e → P e

namespace FailsWith

variable {P : ε → Prop} {x : Except ε α}

theorem ok {a : α} : FailsWith P (.ok a : Except ε α) := by
  intro e he
  cases he

theorem error {e : ε} (h : P e) : FailsWith P (.error e : Except ε α) := by
  intro e' he
  cases he
  exact h

theorem bind {f : α → Except ε β} (hx : FailsWith P x) (hf : ∀ a, FailsWith P (f a)) :
    FailsWith P (x >>= f) := by
  cases x with
  | ok a => exact hf a
  | error e => exact error (hx e rfl)

theorem mapError {x : Except δ α} {f : δ → ε} (h : ∀ e, P (f e)) : FailsWith P (x.mapError f) := by
  cases x with
  | ok a => exact ok
  | error e => exact error (h e)

theorem foldlM {f : β → α → Except ε β} {as : List α} (h : ∀ b a, FailsWith P (f b a)) {b : β} :
    FailsWith P (as.foldlM f b) := by
  induction as generalizing b with
  | nil => exact ok
  | cons a as ih =>
    rw [List.foldlM_cons]
    exact bind (h b a) fun _ => ih

end FailsWith

/-- The computation gives something with the first property, or fails with an error that has the
second. -/
def Delivers (P : α → Prop) (E : ε → Prop) : Except ε α → Prop
  | .ok a => P a
  | .error e => E e

namespace Delivers

variable {P : α → Prop} {Q : β → Prop} {E : ε → Prop} {x : Except ε α}

theorem ok {a : α} (h : P a) : Delivers P E (.ok a) := h

theorem error {e : ε} (h : E e) : Delivers P E (.error e) := h

theorem intro (h : Ensures P x) (h' : FailsWith E x) : Delivers P E x := by
  cases x with
  | ok a => exact h a rfl
  | error e => exact h' e rfl

theorem ensures (h : Delivers P E x) : Ensures P x := by
  rintro a rfl
  exact h

theorem failsWith (h : Delivers P E x) : FailsWith E x := by
  rintro e rfl
  exact h

theorem mono {P' : α → Prop} (h : Delivers P E x) (himp : ∀ a, P a → P' a) : Delivers P' E x := by
  cases x with
  | ok a => exact himp a h
  | error e => exact h

/-- What the computation gives is its result. -/
theorem result (h : Delivers P E x) : Delivers (fun a => P a ∧ x = .ok a) E x := by
  cases x with
  | ok a => exact ⟨h, rfl⟩
  | error e => exact h

/-- Of computations one after the other, the second may rely on what the first gives. -/
theorem bind {f : α → Except ε β} (hx : Delivers P E x) (hf : ∀ a, P a → Delivers Q E (f a)) :
    Delivers Q E (x >>= f) := by
  cases x with
  | ok a => exact hf a hx
  | error e => exact hx

theorem map {f : α → β} (hx : Delivers P E x) (hf : ∀ a, P a → Q (f a)) :
    Delivers Q E (x.map f) := by
  cases x with
  | ok a => exact hf a hx
  | error e => exact hx

theorem mapError {E' : δ → Prop} {f : ε → δ} (hx : Delivers P E x) (hf : ∀ e, E e → E' (f e)) :
    Delivers P E' (x.mapError f) := by
  cases x with
  | ok a => exact hx
  | error e => exact hf e hx

/-- A computation for each element of a list gives as many results, each with what it gives for
one. -/
theorem mapM {f : α → Except ε β} {as : List α} (h : ∀ a ∈ as, Delivers Q E (f a)) :
    Delivers (fun bs => bs.length = as.length ∧ ∀ b ∈ bs, Q b) E (as.mapM f) := by
  induction as with
  | nil =>
    rw [List.mapM_nil]
    exact ⟨rfl, by simp⟩
  | cons a as ih =>
    rw [List.mapM_cons]
    refine bind (h a (by simp)) fun b hb => ?_
    refine bind (ih fun a' ha' => h a' (by simp [ha'])) fun bs hbs => ok ⟨?_, ?_⟩
    · rw [List.length_cons, List.length_cons, hbs.1]
    · exact List.forall_mem_cons.2 ⟨hb, hbs.2⟩

/-- Of lists computed for each element, all members have what each list's members have. -/
theorem flatten {f : α → Except ε (List β)} {as : List α}
    (h : ∀ a ∈ as, Delivers (fun bs => ∀ b ∈ bs, Q b) E (f a)) :
    Delivers (fun bs => ∀ b ∈ bs, Q b) E (do return (← as.mapM f).flatten) := by
  refine bind (mapM h) fun groups hgroups => ok ?_
  intro b hb
  obtain ⟨bs, hbs, hb⟩ := List.mem_flatten.1 hb
  exact hgroups.2 bs hbs b hb

/-- A property that taking in each element keeps holds of what is made of all of them. -/
theorem foldlM {f : β → α → Except ε β} {as : List α}
    (h : ∀ b, Q b → ∀ a ∈ as, Delivers Q E (f b a)) {b : β} (hb : Q b) :
    Delivers Q E (as.foldlM f b) := by
  induction as generalizing b with
  | nil => exact hb
  | cons a as ih =>
    rw [List.foldlM_cons]
    exact bind (h b hb a (by simp)) fun b' hb' =>
      ih (fun b hb a' ha' => h b hb a' (by simp [ha'])) hb'

end Delivers

/-! ## Results -/

theorem bind_eq_ok_iff {x : Except ε α} {g : α → Except ε β} {b : β} :
    x >>= g = .ok b ↔ ∃ a, x = .ok a ∧ g a = .ok b := by
  cases x with
  | error e => exact ⟨nofun, fun ⟨_, h, _⟩ => nomatch h⟩
  | ok a => exact ⟨fun h => ⟨a, rfl, h⟩, fun ⟨_, ha, h⟩ => by cases ha; exact h⟩

theorem map_eq_ok_iff {x : Except ε α} {g : α → β} {b : β} :
    x.map g = .ok b ↔ ∃ a, x = .ok a ∧ g a = b := by
  cases x <;> simp [Except.map]

theorem mapError_eq_ok_iff {x : Except ε α} {g : ε → δ} {a : α} :
    x.mapError g = .ok a ↔ x = .ok a := by
  cases x with
  | ok b =>
    constructor <;> intro h <;> cases h <;> rfl
  | error e =>
    constructor <;> intro h <;> cases h

theorem exists_bind_iff {x : Except ε α} {f : α → Except ε β} :
    (∃ b, x >>= f = .ok b) ↔ ∃ a, x = .ok a ∧ ∃ b, f a = .ok b := by
  simp only [bind_eq_ok_iff]
  exact ⟨fun ⟨b, a, ha, hb⟩ => ⟨a, ha, b, hb⟩, fun ⟨a, ha, b, hb⟩ => ⟨b, a, ha, hb⟩⟩

theorem exists_map_iff {x : Except ε α} {f : α → β} :
    (∃ b, x.map f = .ok b) ↔ ∃ a, x = .ok a := by
  cases x <;> simp [Except.map]

/-- There are results for all elements of a list exactly if there is one for each. -/
theorem exists_mapM_iff {f : α → Except ε β} {as : List α} :
    (∃ bs, as.mapM f = .ok bs) ↔ ∀ a ∈ as, ∃ b, f a = .ok b := by
  constructor
  · rintro ⟨bs, hbs⟩ a ha
    obtain ⟨b, -, hb⟩ := Ensures.mem_mapM ha bs hbs
    exact ⟨b, hb⟩
  · intro h
    induction as with
    | nil => exact ⟨[], rfl⟩
    | cons a as ih =>
      obtain ⟨b, hb⟩ := h a List.mem_cons_self
      obtain ⟨bs, hbs⟩ := ih fun a' ha' => h a' (List.mem_cons_of_mem a ha')
      exact ⟨b :: bs, by rw [List.mapM_cons, hb, hbs]; rfl⟩

/-- Lists for all elements are put together exactly if there is one for each. -/
theorem exists_flatten_mapM_iff {f : α → Except ε (List β)} {as : List α} :
    (∃ bs, (do return (← as.mapM f).flatten : Except ε (List β)) = .ok bs) ↔
      ∀ a ∈ as, ∃ bs, f a = .ok bs := by
  rw [exists_bind_iff, ← exists_mapM_iff]
  exact ⟨fun ⟨groups, hgroups, _⟩ => ⟨groups, hgroups⟩, fun ⟨groups, hgroups⟩ =>
    ⟨groups, hgroups, _, rfl⟩⟩

end ResourceTables
