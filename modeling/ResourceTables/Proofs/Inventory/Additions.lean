import ResourceTables.Config.Content
import ResourceTables.Proofs.Ensures

/-!
# What one part of a body adds

A body is decoded item by item, or member by member. Whatever the schema, each of these steps that
succeeds passes its part over or adds what it is to the content. What holds of a content all along
follows from these few cases, so nothing else here opens the steps to show it.

* `Body.AddsItem`, `Body.AddsPair`: how a content grows by an item of a native body and by a member
  of a JSON body;
* `Body.addItem_eq_ok_iff`, `Body.addPair_eq_ok_iff`: the steps that succeed are exactly these.
-/

namespace ResourceTables.Body

variable {schema : BodySchema} {c c' : Content} {item : Item} {p : JsonPair}

/-- How a content grows by an item of a native body. -/
inductive AddsItem (schema : BodySchema) (c : Content) : Item → Content → Prop
  /-- An argument that the schema names is added, unless there is one of its name. -/
  | «attribute» {a : Attribute} (named : schema.attributes.contains a.name = true)
    (new : c.attribute? a.name = none) : AddsItem schema c (.attribute a) (c.addAttribute a)
  /-- Another argument is passed over, unless it has the name of a block type. -/
  | otherAttribute {a : Attribute} (unnamed : schema.attributes.contains a.name = false)
    (noBlock : schema.block? a.name = none) : AddsItem schema c (.attribute a) c
  /-- A block of a type that the schema names is added with its labels. -/
  | block {type : String} {labels : List String} {pos : Pos} {items : List Item}
    {header : BlockHeader} (named : schema.block? type = some header)
    (checked : Block.checkLabels ⟨type, labels, .native items, pos⟩ header = .ok ()) :
    AddsItem schema c (.block type labels pos items)
      (c.addBlocks [⟨type, labels, .native items, pos⟩])
  /-- Another block is passed over, unless its type is the name of an argument. -/
  | otherBlock {type : String} {labels : List String} {pos : Pos} {items : List Item}
    (unnamed : schema.block? type = none) (noArgument : schema.attributes.contains type = false) :
    AddsItem schema c (.block type labels pos items) c

theorem addItem_eq_ok_iff : addItem schema c item = .ok c' ↔ AddsItem schema c item c' := by
  constructor
  · intro h
    cases item with
    | «attribute» a =>
      rw [addItem] at h
      split at h
      · next named =>
        split at h
        · cases h
        · next new =>
          cases h
          exact .attribute named new
      · next unnamed =>
        split at h
        · cases h
        · next noBlock =>
          cases h
          exact .otherAttribute (Bool.eq_false_iff.2 unnamed) (by simpa using noBlock)
    | block type labels pos items =>
      rw [addItem] at h
      split at h
      · next unnamed =>
        split at h
        · cases h
        · next noArgument =>
          cases h
          exact .otherBlock unnamed (Bool.eq_false_iff.2 noArgument)
      · next header named =>
        obtain ⟨_, checked, h⟩ := bind_eq_ok_iff.1 h
        cases h
        exact .block named checked
  · intro h
    cases h with
    | «attribute» named new => simp only [addItem, named, new, if_true]
    | otherAttribute unnamed noBlock =>
      simp only [addItem, unnamed, noBlock, Option.isSome_none, Bool.false_eq_true, if_false]
    | block named checked =>
      simp only [addItem, named, checked]
      rfl
    | otherBlock unnamed noArgument =>
      simp only [addItem, unnamed, noArgument, Bool.false_eq_true, if_false]

/-- How a content grows by a member of a JSON body. -/
inductive AddsPair (schema : BodySchema) (c : Content) (p : JsonPair) : Content → Prop
  /-- A comment is passed over. -/
  | comment (comment : p.isComment = true) : AddsPair schema c p c
  /-- An argument that the schema names is added, unless there is one of its name. -/
  | «attribute» {a : Attribute} (noComment : p.isComment = false)
    (named : schema.attributes.contains p.key = true) (new : c.attribute? p.key = none)
    (read : memberAttribute p = .ok a) : AddsPair schema c p (c.addAttribute a)
  /-- The blocks below a name that the schema has as a block type are added. -/
  | blocks {header : BlockHeader} {bs : List Block} (noComment : p.isComment = false)
    (noArgument : schema.attributes.contains p.key = false)
    (named : schema.block? p.key = some header)
    (read : jsonBlocks p.key header.labels [] p.pos p.value = .ok bs) :
    AddsPair schema c p (c.addBlocks bs)
  /-- A member that the schema does not name is passed over. -/
  | other (noComment : p.isComment = false) (noArgument : schema.attributes.contains p.key = false)
    (noBlock : schema.block? p.key = none) : AddsPair schema c p c

theorem addPair_eq_ok_iff : addPair schema c p = .ok c' ↔ AddsPair schema c p c' := by
  constructor
  · intro h
    rw [addPair] at h
    split at h
    · next comment =>
      cases h
      exact .comment comment
    · next noComment =>
      have noComment := Bool.eq_false_iff.2 noComment
      split at h
      · next named =>
        split at h
        · cases h
        · next new =>
          obtain ⟨a, read, rfl⟩ := map_eq_ok_iff.1 h
          exact .attribute noComment named (by simpa using new) read
      · next noArgument =>
        have noArgument := Bool.eq_false_iff.2 noArgument
        split at h
        · next noBlock =>
          cases h
          exact .other noComment noArgument noBlock
        · next header named =>
          obtain ⟨bs, read, rfl⟩ := map_eq_ok_iff.1 h
          exact .blocks noComment noArgument named read
  · intro h
    cases h with
    | comment comment => rw [addPair, if_pos comment]
    | «attribute» noComment named new read =>
      simp only [addPair, noComment, named, new, read, Option.isSome_none, Bool.false_eq_true,
        if_true, if_false]
      rfl
    | blocks noComment noArgument named read =>
      simp only [addPair, noComment, noArgument, named, read, Bool.false_eq_true, if_false]
      rfl
    | other noComment noArgument noBlock =>
      simp only [addPair, noComment, noArgument, noBlock, Bool.false_eq_true, if_false]

end ResourceTables.Body
