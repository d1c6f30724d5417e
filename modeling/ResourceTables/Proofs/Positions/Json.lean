import ResourceTables.Json.Tree
import ResourceTables.Proofs.Ensures
import ResourceTables.Proofs.Positions.Native

/-!
# Places in JSON files

As in native files, all places of a JSON tree carry the path of the file that it was read from.

* `JsonNode.In file node`: the value and all values and keys inside of it have their places in the
  file;
* `Json.Reader.stays_feed`: one token keeps this of what the reader holds;
* `Json.ensures_parseNode`: so the tree of a whole file has its places in the file.
-/

namespace ResourceTables

mutual

/-- The value and everything inside of it have their places in the file. -/
inductive JsonNode.In (file : String) : JsonNode → Prop
  | scalar {o : Origin} {value : JsonScalar} (h : o.pos.file = file) :
      JsonNode.In file (.scalar o value)
  | array {o : Origin} {items : List JsonNode} (h : o.pos.file = file)
      (hitems : ∀ node ∈ items, JsonNode.In file node) : JsonNode.In file (.array o items)
  | object {o : Origin} {pairs : List JsonPair} (h : o.pos.file = file)
      (hpairs : ∀ p ∈ pairs, JsonPair.In file p) : JsonNode.In file (.object o pairs)

/-- The key, its value and everything inside of that have their places in the file. -/
inductive JsonPair.In (file : String) : JsonPair → Prop
  | mk {key : String} {pos : Pos} {value : JsonNode} (h : pos.file = file)
      (hvalue : JsonNode.In file value) : JsonPair.In file (.mk key pos value)

end

namespace Json

open Native (Mark)

variable {file : String}

/-- The token begins in the file. -/
def Token.In (file : String) (t : Token) : Prop :=
  t.start.pos.file = file

/-- The piece is in the file. -/
def Piece.In (file : String) : Piece → Prop
  | .inl m => m.pos.file = file
  | .inr t => t.In file

/-- The text of a file is cut into pieces of the file. -/
theorem pieces_in (fuel : Nat) {m : Mark} (hm : m.pos.file = file) :
    ∀ piece ∈ pieces fuel m, Piece.In file piece := by
  induction fuel generalizing m with
  | zero =>
    rw [pieces]
    simp
  | succ fuel ih =>
    -- Going on stays in the file.
    have hadvance : ∀ n (m : Mark), m.pos.file = file → (m.advance n).pos.file = file :=
      fun n m hm => (Mark.advance_file n m).trans hm
    have hblank := hadvance (m.rest.takeWhile isSpace).length m hm
    rw [pieces]
    split
    · simp
    · split
      · simpa [Piece.In] using hblank
      · next kind n _ =>
        intro piece hpiece
        rcases List.mem_cons.1 hpiece with rfl | hmem
        · exact hblank
        · exact ih (hadvance n _ hblank) piece hmem

/-! ## Readers -/

/-- What the drafts of pairs say has its places in the file. -/
def PairsIn (file : String) (pairs : List (Draft JsonPair)) : Prop :=
  ∀ d ∈ pairs, Ensures (JsonPair.In file) d

/-- What an open array or object keeps has its places in the file. -/
def Frame.In (file : String) : Frame → Prop
  | .items start found => start.pos.file = file ∧ ∀ d ∈ found, Ensures (JsonNode.In file) d
  | .name start pairs => start.pos.file = file ∧ PairsIn file pairs
  | .colon start pairs key | .member start pairs key =>
    start.pos.file = file ∧ PairsIn file pairs ∧ key.In file

namespace Reader

/-- All that the reader keeps has its places in the file. -/
structure In (file : String) (r : Reader) : Prop where
  /-- The value that was read last. -/
  value : ∀ d, r.value = some d → Ensures (JsonNode.In file) d
  /-- The open arrays and objects. -/
  frames : ∀ f ∈ r.frames, f.In file

/-- If there is a reader, all that it keeps has its places in the file. -/
def StaysIn (file : String) (r : Option Reader) : Prop :=
  ∀ r', r = some r' → r'.In file

variable {frames outer : List Frame} {t : Token}

theorem stays_none : StaysIn file none := by
  intro r' hr'
  cases hr'

theorem stays_after {value : Draft JsonNode} (hvalue : Ensures (JsonNode.In file) value)
    (h : ∀ f ∈ frames, f.In file) : StaysIn file (after value frames) := by
  rintro r' ⟨⟩
  refine ⟨?_, h⟩
  rintro d ⟨⟩
  exact hvalue

theorem stays_inside {f : Frame} (hf : f.In file) (h : ∀ f ∈ outer, f.In file) :
    StaysIn file (inside (f :: outer)) := by
  rintro r' ⟨⟩
  refine ⟨nofun, ?_⟩
  intro g hg
  rcases List.mem_cons.1 hg with rfl | hmem
  · exact hf
  · exact h g hmem

theorem ensures_scalar (ht : t.In file) (value : Draft JsonScalar) :
    Ensures (JsonNode.In file) (scalar t value) :=
  .map .trivial fun _ _ => .scalar ht

theorem ensures_array {start : Mark} {stop : Nat} {items : List (Draft JsonNode)}
    (hstart : start.pos.file = file) (h : ∀ d ∈ items, Ensures (JsonNode.In file) d) :
    Ensures (JsonNode.In file) (array start stop items) :=
  .map (.mapM h) fun _ hitems => .array hstart hitems

theorem ensures_object {start : Mark} {stop : Nat} {pairs : List (Draft JsonPair)}
    (hstart : start.pos.file = file) (h : PairsIn file pairs) :
    Ensures (JsonNode.In file) (object start stop pairs) :=
  .map (.mapM h) fun _ hpairs => .object hstart hpairs

/-- A member has its place where its name stands. -/
theorem ensures_pair {name : Token} {value : Draft JsonNode} (hname : name.In file)
    (hvalue : Ensures (JsonNode.In file) value) : Ensures (JsonPair.In file) (pair name value) :=
  .bind .trivial fun _ _ => .bind hvalue fun _ hv => .ok (.mk hname hv)

theorem stays_beginValue (ht : t.In file) (h : ∀ f ∈ frames, f.In file) :
    StaysIn file (beginValue frames t) := by
  unfold beginValue
  split
  · exact stays_inside ⟨ht, by simp [PairsIn]⟩ h
  · exact stays_inside ⟨ht, by simp⟩ h
  · exact stays_after (ensures_scalar ht _) h
  · exact stays_after (ensures_scalar ht _) h
  · exact stays_after (ensures_scalar ht _) h
  · exact stays_after (ensures_scalar ht _) h
  · exact stays_after (ensures_scalar ht _) h
  · exact stays_none

theorem stays_feedOpen (ht : t.In file) (h : ∀ f ∈ frames, f.In file) :
    StaysIn file (feedOpen frames t) := by
  unfold feedOpen
  split
  · exact stays_beginValue ht h
  · next frame outer =>
    have hframe : frame.In file := h frame (by simp)
    have houter : ∀ f ∈ outer, f.In file := fun f hf => h f (by simp [hf])
    split
    · exact stays_after (ensures_array hframe.1 (by simp)) houter
    · exact stays_beginValue ht h
    · exact stays_after (ensures_object hframe.1 (by simp [PairsIn])) houter
    · exact stays_inside ⟨hframe.1, hframe.2, ht⟩ houter
    · exact stays_inside hframe houter
    · exact stays_beginValue ht h
    · exact stays_none

theorem stays_feedAfter {value : Draft JsonNode} (hvalue : Ensures (JsonNode.In file) value)
    (h : ∀ f ∈ frames, f.In file) : StaysIn file (feedAfter value frames t) := by
  unfold feedAfter
  split
  · next start items outer =>
    obtain ⟨hstart, hitems⟩ : Frame.In file (.items start items) := h _ (by simp)
    have houter : ∀ f ∈ outer, f.In file := fun f hf => h f (by simp [hf])
    -- The value is one item more.
    have hall : ∀ d ∈ value :: items, Ensures (JsonNode.In file) d := by
      simpa using ⟨hvalue, hitems⟩
    split
    · exact stays_inside ⟨hstart, hall⟩ houter
    · exact stays_after (ensures_array hstart fun d hd => hall d (List.mem_reverse.1 hd)) houter
    · exact stays_none
  · next start pairs name outer =>
    obtain ⟨hstart, hpairs, hname⟩ : Frame.In file (.member start pairs name) := h _ (by simp)
    have houter : ∀ f ∈ outer, f.In file := fun f hf => h f (by simp [hf])
    have hall : PairsIn file (pair name value :: pairs) := by
      simpa [PairsIn] using ⟨ensures_pair hname hvalue, hpairs⟩
    split
    · exact stays_inside ⟨hstart, hall⟩ houter
    · exact stays_after (ensures_object hstart fun d hd => hall d (List.mem_reverse.1 hd)) houter
    · exact stays_none
  · exact stays_none

/-- What a reader keeps has its places in the file after a token of the file as it had before. -/
theorem stays_feed {r : Reader} (hr : r.In file) (ht : t.In file) : StaysIn file (r.feed t) := by
  unfold feed
  split
  · next value hvalue => exact stays_feedAfter (hr.value value hvalue) hr.frames
  · exact stays_feedOpen ht hr.frames

end Reader

/-! ## Files -/

theorem ensures_readPieces {line : Nat} {r : Reader} {found : List Piece} (hr : r.In file)
    (hfound : ∀ piece ∈ found, Piece.In file piece) :
    Ensures (Ensures (JsonNode.In file)) (readPieces file line r found) := by
  fun_induction readPieces file line r found with
  | case1 line value => exact .ok (hr.value value rfl)
  | case2 => exact .error
  | case3 => exact .error
  | case4 line r t rest r' hfeed ih =>
    have ht : t.In file := hfound (.inr t) (by simp)
    exact ih (Reader.stays_feed hr ht r' hfeed) fun piece hpiece => hfound piece (by simp [hpiece])
  | case5 => exact .error

/-- The whole tree of a file has its places in the file. -/
theorem ensures_parseNode (file text : String) :
    Ensures (JsonNode.In file) (parseNode file text) := by
  have hstart : Reader.In file ⟨none, []⟩ := ⟨nofun, by simp⟩
  exact .bind (ensures_readPieces hstart (pieces_in _ rfl)) fun _ hvalue => hvalue

end Json

end ResourceTables
