import SchemaDiagram.Proofs.SnapshotRoundTrip

/-!
# Snapshots in other spellings

A snapshot need not look as if it had been written by the program. A text that spells a valid
catalog (`Format.Spells`) is read as that catalog, whatever the order of the members of its records,
whatever other members there are, whatever defaults are left out and however it is laid out: at
every depth and in every combination.
-/

namespace SchemaDiagram

open Snapshot Json

/-- **Spellings are read back.** Every spelling of a valid catalog is read as that catalog; the text
that is written for it is one of its spellings. -/
theorem spelled_catalogs_read_back :
    (∀ (c : Catalog) (text : String), c.validate = .ok () → catalogFormat.Spells c.toVal text →
      Catalog.ofSnapshot text = .ok c) ∧
    ∀ c : Catalog, catalogFormat.Spells c.toVal c.toSnapshot := by
  refine ⟨fun c text hvalid hspells => ?_, fun c => ?_⟩
  · rw [Catalog.ofSnapshot_of_spells hspells, hvalid]
  · exact Catalog.spells_toSnapshot c rfl (List.append_nil _).symm

/-! ### A snapshot by hand -/

namespace ByHand

/-- A column whose type has nothing but a name. -/
def column : Column := ⟨"id", ⟨"integer", none, false, false⟩, false, false, none⟩

/-- A table with that column. -/
def table : Table := ⟨"users", [column], []⟩

/-- A catalog with that table. -/
def catalog : Catalog := ⟨[⟨"app", [table]⟩]⟩

/-- The column, with its members in another order, others among them, two that have no value as
`null` and the flags left out. -/
def columnMembers : ObjectMembers :=
  .ofList [("comment", .string "surrogate"), ("precision", .null),
    ("type", .ofMembers [("internal_name", .null), ("name", .string "integer")]),
    ("name", .string "id"), ("position", .ofNat 1)]

/-- The table without its relations. -/
def tableMembers : ObjectMembers :=
  .ofList [("columns", .ofList [.object columnMembers]), ("name", .string "users")]

/-- The catalog, with the version of something in front. -/
def catalogMembers : ObjectMembers :=
  .ofList [("version", .ofList [.ofNat 2, .null]), ("schemas", .ofList [
    .ofMembers [("tables", .ofList [.object tableMembers]), ("name", .string "app")]])]

/-- The text, indented deeper than need be. -/
def text : String := String.ofList ((Value.object catalogMembers).write 3)

theorem spans_singleton {inner : Format} {v : inner.Val} {entry : Value}
    (h : ∀ level rest, inner.Spans v (entry.write level ++ rest) rest) (level : Nat)
    (rest : List Char) :
    (Format.list inner).Spans [v] ((Value.ofList [entry]).write level ++ rest) rest :=
  list_spans_write level (fun _ => entry) [v] rest fun v' hv' rest => by
    rw [List.mem_singleton.1 hv']
    exact h (level + 1) rest

theorem column_spans (level : Nat) (rest : List Char) :
    columnFormat.Spans column.toVal ((Value.object columnMembers).write level ++ rest) rest := by
  have htype : ∀ level rest, sqlTypeFormat.Spans column.type.toVal ((Value.ofMembers
      [("internal_name", .null), ("name", .string "integer")]).write level ++ rest) rest := by
    refine fun level rest => record_spans_write _ level _ rest fun tail => ?_
    -- The name and a null are written, and the two flags take their default.
    exact ⟨.inl ⟨_, rfl, textSpan_encodeString _ _⟩, .inl ⟨_, rfl, rfl⟩, .inr ⟨rfl, rfl, rfl⟩,
      .inr ⟨rfl, rfl, rfl⟩, trivial⟩
  refine record_spans_write _ level _ rest fun tail => ?_
  -- Name, type and precision are written, in this order of the record and not of the text.
  exact ⟨.inl ⟨_, rfl, textSpan_encodeString _ _⟩, .inl ⟨_, rfl, htype _ _⟩,
    .inr ⟨rfl, rfl, rfl⟩, .inr ⟨rfl, rfl, rfl⟩, .inl ⟨_, rfl, rfl⟩, trivial⟩

theorem table_spans (level : Nat) (rest : List Char) :
    tableFormat.Spans table.toVal ((Value.object tableMembers).write level ++ rest) rest := by
  refine record_spans_write _ level _ rest fun tail => ?_
  -- There is no member for the relations, whose default is the empty list.
  exact ⟨.inl ⟨_, rfl, textSpan_encodeString _ _⟩, .inl ⟨_, rfl, spans_singleton column_spans _ _⟩,
    .inr ⟨rfl, rfl, rfl⟩, trivial⟩

theorem text_spells : catalogFormat.Spells catalog.toVal text := by
  have hschema : ∀ level rest, schemaFormat.Spans ("app", [table.toVal], ()) ((Value.ofMembers
      [("tables", .ofList [.object tableMembers]), ("name", .string "app")]).write level ++ rest)
      rest := by
    refine fun level rest => record_spans_write _ level _ rest fun tail => ?_
    exact ⟨.inl ⟨_, rfl, textSpan_encodeString _ _⟩, .inl ⟨_, rfl, spans_singleton table_spans _ _⟩,
      trivial⟩
  have hspans : catalogFormat.Spans catalog.toVal
      ((Value.object catalogMembers).write 3 ++ []) [] := by
    refine record_spans_write _ 3 _ [] fun tail => ?_
    exact ⟨.inl ⟨_, rfl, spans_singleton hschema _ _⟩, trivial⟩
  rw [List.append_nil] at hspans
  -- The text is the object and nothing behind it.
  refine ⟨[], ?_, rfl⟩
  rw [text, String.toList_ofList, (Format.proper catalogFormat).skipSpace hspans]
  exact hspans

end ByHand

theorem spelled_catalogs_read_back_byHand :
    ByHand.catalog.validate = .ok () ∧ catalogFormat.Spells ByHand.catalog.toVal ByHand.text ∧
      Catalog.ofSnapshot ByHand.text = .ok ByHand.catalog :=
  ⟨rfl, ByHand.text_spells,
    spelled_catalogs_read_back.1 ByHand.catalog ByHand.text rfl ByHand.text_spells⟩

end SchemaDiagram
