import ResourceTables.Proofs.Inventory.Loading

/-!
# A cache over a changing disk

Files are asked for again and again while the disk changes in between. A cache answers with what a
file was when it was first read without failure; until then it reads the file each time.

* `ParseCache.Event`, `ParseCache.run`: the disk changes or a file is asked for, and the calls that
  come of a list of such events;
* `ParseCache.Traced calls c`: the cache holds exactly what the first successful calls read;
* `ParseCache.traced_ask`: one more call keeps this;
* `ParseCache.traced_run`: however many events come one after the other, it is so;
* `ParseCache.first_reads_kept`: what follows for the answers and for what is held, and for loading
  a module with a fresh cache.
-/

namespace ResourceTables

namespace ParseCache

/-- Something that happens to a disk and a cache. -/
inductive Event where
  /-- Files are written, replaced and removed, until the disk is this one. -/
  | change (d : Disk)
  /-- The file at a path is asked for. -/
  | ask (path : String)

/-- A file that was asked for, on the disk as it was then, and the answer. -/
structure Call where
  /-- The disk at the time of the call. -/
  disk : Disk
  /-- The file that was asked for. -/
  path : String
  /-- The body of the file, or why there is none. -/
  answer : Except ReadError Body

/-- Whether the call asked for the file and was given its body. -/
def Call.succeeds (call : Call) (path : String) : Bool :=
  call.path == path && call.answer.isOk

/-- The answer of the cache, and what it holds then. A failure leaves it as it was. -/
def ask (c : ParseCache) (d : Disk) (path : String) : Except ReadError Body × ParseCache :=
  match c.get d path with
  | .ok (body, c') => (.ok body, c')
  | .error e => (.error e, c)

/-- The calls that the events make one after the other, and the cache after them. -/
def run : Disk → ParseCache → List Event → List Call × ParseCache
  | _, c, [] => ([], c)
  | _, c, .change d :: events => run d c events
  | d, c, .ask path :: events =>
    let (answer, c') := c.ask d path
    let (calls, c'') := run d c' events
    (⟨d, path, answer⟩ :: calls, c'')

/-- The cache holds what the first successful call for each file read, and nothing else. -/
def Traced (calls : List Call) (c : ParseCache) : Prop :=
  ∀ path, match calls.find? (·.succeeds path) with
    | some first => ∃ body, first.disk.readConfig path = .ok body ∧ c.find? path = some body
    | none => c.find? path = none

variable {c : ParseCache} {d : Disk} {path : String} {calls : List Call}

/-! ## One call -/

/-- A file that is held is not read, and nothing changes. -/
theorem ask_of_find? {body : Body} (h : c.find? path = some body) :
    c.ask d path = (.ok body, c) := by
  rw [ask, get_of_find? h]

/-- A file that is not held is read, and is held from then on if this succeeds. -/
theorem ask_of_find?_eq_none (h : c.find? path = none) :
    c.ask d path = (d.readConfig path,
      (d.readConfig path).toOption.elim c fun body => ⟨c.files ++ [(path, body)]⟩) := by
  rw [ask, get, h]
  cases d.readConfig path <;> rfl

/-- A failure leaves the cache as it was. -/
theorem ask_snd_of_error {e : ReadError} (h : (c.ask d path).1 = .error e) :
    (c.ask d path).2 = c := by
  rw [ask] at h ⊢
  cases hget : c.get d path with
  | ok found =>
    rw [hget] at h
    cases h
  | error e' => rfl

/-- A call changes what is held for its own file only. -/
theorem find?_ask_of_ne {other : String} (h : other ≠ path) :
    (c.ask d path).2.find? other = c.find? other := by
  cases hfind : c.find? path with
  | some body => rw [ask_of_find? hfind]
  | none =>
    rw [ask_of_find?_eq_none hfind]
    cases d.readConfig path with
    | error e => rfl
    | ok body => exact (find?_added hfind body other).trans (if_neg h)

/-- One more call is answered from the first successful one, or from the disk if there is none, and
the cache then holds what the first successful calls read. -/
theorem traced_ask (h : Traced calls c) (d : Disk) (path : String) :
    let call : Call := ⟨d, path, (c.ask d path).1⟩
    call.answer = ((calls.find? (·.succeeds path)).getD call).disk.readConfig path ∧
      Traced (calls ++ [call]) (c.ask d path).2 := by
  intro call
  have hpath := h path
  -- A file other than the one asked for keeps its first successful call and its body.
  have hother : ∀ other, other ≠ path →
      (calls ++ [call]).find? (·.succeeds other) = calls.find? (·.succeeds other) := by
    intro other hne
    have hnot : call.succeeds other = false := by
      simp [Call.succeeds, call, hne.symm]
    simp [List.find?_append, hnot]
  suffices hown : call.answer =
      ((calls.find? (·.succeeds path)).getD call).disk.readConfig path ∧
        match (calls ++ [call]).find? (·.succeeds path) with
        | some first => ∃ body, first.disk.readConfig path = .ok body ∧
            (c.ask d path).2.find? path = some body
        | none => (c.ask d path).2.find? path = none by
    refine ⟨hown.1, fun other => ?_⟩
    by_cases hne : other = path
    · rw [hne]
      exact hown.2
    · rw [hother other hne, find?_ask_of_ne hne]
      exact h other
  rw [List.find?_append]
  cases hfirst : calls.find? (·.succeeds path) with
  | some first =>
    rw [hfirst] at hpath
    obtain ⟨body, hread, hfind⟩ := hpath
    have hask := ask_of_find? (d := d) hfind
    refine ⟨?_, ?_⟩
    · show (c.ask d path).1 = _
      rw [hask]
      exact hread.symm
    · rw [hask]
      exact ⟨body, hread, hfind⟩
  | none =>
    rw [hfirst] at hpath
    have hask := ask_of_find?_eq_none (d := d) hpath
    have hanswer : call.answer = d.readConfig path := by
      show (c.ask d path).1 = _
      rw [hask]
    refine ⟨hanswer, ?_⟩
    rw [hask, Option.none_or, List.find?_cons]
    cases hread : d.readConfig path with
    | ok body =>
      have hsucceeds : call.succeeds path = true := by
        simp [Call.succeeds, call, hask, hread, Except.isOk, Except.toBool]
      rw [hsucceeds]
      exact ⟨body, hread, (find?_added hpath body path).trans (if_pos rfl)⟩
    | error e =>
      have hfails : call.succeeds path = false := by
        simp [Call.succeeds, call, hask, hread, Except.isOk, Except.toBool]
      rw [hfails]
      exact hpath

/-! ## Any number of events -/

/-- However many events come, each call is answered from the first successful one for its file, or
from the disk of the moment if there is none, and the cache holds what these calls read. -/
theorem traced_run (h : Traced calls c) (d : Disk) (events : List Event) :
    Traced (calls ++ (run d c events).1) (run d c events).2 ∧
      ∀ before call after, (run d c events).1 = before ++ call :: after →
        call.answer = (((calls ++ before).find? (·.succeeds call.path)).getD
          call).disk.readConfig call.path := by
  induction events generalizing calls c d with
  | nil =>
    refine ⟨by simpa [run] using h, fun before call after heq => ?_⟩
    cases before <;> cases heq
  | cons event events ih =>
    cases event with
    -- A change of the disk asks nothing, so only the disk of later calls is another.
    | change d' => exact ih h d'
    | ask path =>
      -- This call is one that later calls look back on.
      obtain ⟨hanswer, htraced⟩ := traced_ask h d path
      obtain ⟨hlast, hcalls⟩ := ih htraced d
      rw [List.append_assoc] at hlast
      refine ⟨hlast, fun before call after heq => ?_⟩
      cases before with
      | nil =>
        obtain ⟨rfl, -⟩ := List.cons.inj heq
        rw [List.append_nil]
        exact hanswer
      | cons first before =>
        obtain ⟨rfl, hrest⟩ := List.cons.inj heq
        have hcall := hcalls before call after hrest
        rwa [List.append_assoc] at hcall

/-- What is held after a call that succeeded. -/
theorem find?_of_get {found : Body × ParseCache} (h : c.get d path = .ok found) (other : String) :
    found.2.find? other = if other = path then some found.1 else c.find? other := by
  have hask : c.ask d path = (.ok found.1, found.2) := by
    rw [ask, h]
  split
  · next heq =>
    rw [heq]
    exact (c.ensures_get d path found h).1
  · next hne =>
    have hkept := find?_ask_of_ne (c := c) (d := d) hne
    rwa [hask] at hkept

end ParseCache

/-- A module that is loaded with a fresh cache leaves exactly its configuration files in it, as they
are on the disk. -/
theorem Module.ensures_loadCached_files (d : Disk) (directory : String) :
    Ensures (fun loaded => loaded.2.From d ∧
      ∀ path, loaded.2.contains path = true ↔ path ∈ configFiles d directory)
      (loadCached {} d directory) := by
  refine ensures_loadWith (I := fun taken (loaded : Module × ParseCache) =>
      loaded.2.From d ∧ ∀ path, loaded.2.contains path = true ↔ path ∈ taken)
    ⟨.empty d, by simp [ParseCache.contains, ParseCache.find?]⟩ ?_
  rintro taken m c path body c' m' ⟨hfrom, hheld⟩ hget -
  refine ⟨(c.ensures_get d path _ hget).2.2 hfrom, fun other => ?_⟩
  have hother := ParseCache.find?_of_get hget other
  rw [ParseCache.contains, hother, List.mem_append, List.mem_singleton]
  split
  · next heq => simp [heq]
  · next hne =>
    rw [← ParseCache.contains, hheld other]
    exact (or_iff_left hne).symm

/-- However the disk changes between the calls on a cache: each call gives the file as it was at the
first successful call for it, or reads it anew if there was none; a file is held exactly if a call
for it succeeded; a failure leaves the cache as it was; and no call changes what is held for another
file. So loading a module with a fresh cache gives the same as loading it without one, and leaves
exactly its configuration files in the cache. -/
theorem ParseCache.first_reads_kept (d : Disk) (events : List Event) :
    (∀ before call after, (run d {} events).1 = before ++ call :: after →
      call.answer =
        ((before.find? (·.succeeds call.path)).getD call).disk.readConfig call.path) ∧
      (∀ path, (run d {} events).2.contains path = true ↔
        ∃ call ∈ (run d {} events).1, call.succeeds path = true) ∧
      (∀ (c : ParseCache) (d : Disk) (path : String) (e : ReadError),
        (c.ask d path).1 = .error e → (c.ask d path).2 = c) ∧
      (∀ (c : ParseCache) (d : Disk) (path other : String), other ≠ path →
        (c.ask d path).2.find? other = c.find? other) ∧
      ∀ directory, (Module.loadCached {} d directory).map Prod.fst = Module.load d directory ∧
        ∀ m c, Module.loadCached {} d directory = .ok (m, c) →
          ∀ path, (c.contains path = true ↔ path ∈ Module.configFiles d directory) ∧
            ∀ body, c.find? path = some body → d.readConfig path = .ok body := by
  have hempty : Traced [] {} := fun path => rfl
  obtain ⟨htraced, hcalls⟩ := traced_run hempty d events
  refine ⟨hcalls, fun path => ?_, fun _ _ _ _ => ask_snd_of_error, fun _ _ _ _ => find?_ask_of_ne,
    fun directory => ⟨Module.loadCached_map_fst d directory, fun m c hload path => ?_⟩⟩
  · -- What is held is what the first successful call gave.
    have hpath := htraced path
    rw [List.nil_append] at hpath
    rw [← List.find?_isSome, contains]
    cases hfirst : (run d {} events).1.find? (·.succeeds path) with
    | some first =>
      rw [hfirst] at hpath
      obtain ⟨body, -, hfind⟩ := hpath
      rw [hfind]
      exact iff_of_true rfl rfl
    | none =>
      rw [hfirst] at hpath
      rw [hpath]
      rfl
  · obtain ⟨hfrom, hheld⟩ := Module.ensures_loadCached_files d directory _ hload
    exact ⟨hheld path, hfrom path⟩

/-- A file that cannot be parsed is mended and then removed: the last of three calls gives it as it
was when it was mended. -/
theorem ParseCache.first_reads_kept_removed :
    let broken : Disk := ⟨[], [(["a.tf"], .file "x".toUTF8)]⟩
    let mended : Disk := ⟨[], [(["a.tf"], .file "x = 1\n".toUTF8)]⟩
    let calls := (run broken {} [.ask "a.tf", .change mended, .ask "a.tf", .change {},
      .ask "a.tf"]).1
    calls.map (·.answer.isOk) = [false, true, true] ∧
      ∃ before last, calls = before ++ [last] ∧ last.answer = mended.readConfig "a.tf" := by
  intro broken mended calls
  obtain ⟨first, second, last, hcalls, hpath, hdisk, hfirst, hsecond⟩ :
      ∃ first second last, calls = [first, second] ++ [last] ∧ last.path = "a.tf" ∧
        second.disk = mended ∧ first.succeeds "a.tf" = false ∧ second.succeeds "a.tf" = true :=
    ⟨_, _, _, rfl, rfl, rfl, by decide +kernel, by decide +kernel⟩
  refine ⟨by decide +kernel, [first, second], last, hcalls, ?_⟩
  have hanswer := (first_reads_kept broken _).1 [first, second] last [] hcalls
  rwa [hpath, List.find?_cons, hfirst, List.find?_cons, hsecond, Option.getD_some, hdisk]
    at hanswer

end ResourceTables
