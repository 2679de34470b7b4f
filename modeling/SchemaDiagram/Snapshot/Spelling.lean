import SchemaDiagram.Json.Grammar
import SchemaDiagram.Snapshot.Read

/-!
# Spellings of snapshots

Which texts stand for a value of a format. A text need not look as if it had been written by
`Format.toJson`:

* white space may stand wherever the grammar of JSON has it, and the characters of strings may be
  escaped in any way;
* the members of a record may stand in any order (`Members.SpelledBy`);
* other members may stand among them, with any values at all, except that their names are none of
  the record's own;
* a member that may be absent may be left out where it has the default of its format, and an
  optional member without a value may also be written as `null`.

As in the grammar of JSON, a **span** is given by a text and the end of it that follows the
spelling: `format.Spans v cs rest`.
-/

namespace SchemaDiagram.Snapshot

open Json

/-- **Item:** a member of an object as it stands in a text, with the texts at which its value
begins and ends. -/
structure Item where
  name : String
  before : List Char
  after : List Char

/-- The items of an object and its end. -/
def ItemsSpan (first : Bool) : List Item → List Char → List Char → Prop
  | [], cs, rest => skipSpace cs = '\x7d' :: rest
  | item :: items, cs, rest =>
    MemberSpan false first item.name cs item.before ∧ ItemsSpan false items item.after rest

/-- The entries of an array and its end. -/
def EntriesSpan {α : Type} (spans : α → List Char → List Char → Prop) (first : Bool) :
    List α → List Char → List Char → Prop
  | [], cs, rest => skipSpace cs = ']' :: rest
  | v :: vs, cs, rest => ∃ before after, Separated first cs before ∧ spans v before after ∧
    EntriesSpan spans false vs after rest

/-- An index entry is an object whose only member is one of the cases. -/
def EntrySpan (entry : IndexEntry) (cs rest : List Char) : Prop :=
  ∃ name make text inner before after, (name, make) ∈ entryCases ∧ make text = entry ∧
    cs = '\x7b' :: inner ∧ MemberSpan false true name inner before ∧
    TextSpan false text before after ∧ skipSpace after = '\x7d' :: rest

mutual
/-- **The spellings of a value** of a format. -/
def Format.Spans : (format : Format) → format.Val → List Char → List Char → Prop
  | .text, (s : String), cs, rest => TextSpan false s cs rest
  | .flag, (b : Bool), cs, rest => (Value.bool b).Spans cs rest
  | .word, (n : UInt32), cs, rest => cs = Nat.toDigits 10 n.toNat ++ rest
  | .kind, (k : RelationKind), cs, rest => TextSpan false k.tag cs rest
  | .entry, (e : IndexEntry), cs, rest => EntrySpan e cs rest
  | .optional inner, (v? : Option inner.Val), cs, rest =>
    match v? with
    | some v => inner.Spans v cs rest
    | none => Value.null.Spans cs rest
  | .list inner, (vs : List inner.Val), cs, rest =>
    ∃ entries, cs = '[' :: entries ∧ EntriesSpan inner.Spans true vs entries rest
  | .record _ members, vs, cs, rest =>
    ∃ inner items, cs = '\x7b' :: inner ∧ ItemsSpan true items inner rest ∧
      members.SpelledBy vs items ∧ ∀ item ∈ items, item.name ∉ members.names →
        ∃ value : Value, value.Spans item.before item.after

/-- **The items spell the members of a record,** in any order: each member occurs once, or it does
not occur and has its default. -/
def Members.SpelledBy : (members : Members) → members.Val → List Item → Prop
  | .nil, (), _ => True
  | .cons member format rest, (v, vs), items =>
    ((∃ item, items.filter (·.name = member.name) = [item] ∧
        format.Spans v item.before item.after) ∨
      items.filter (·.name = member.name) = [] ∧ member.mayBeAbsent ∧ format.default? = some v) ∧
    rest.SpelledBy vs items
end

/-- **A text spells a value** of a format if it is a spelling of it with nothing but white space
around. -/
def Format.Spells (format : Format) (v : format.Val) (text : String) : Prop :=
  ∃ rest, format.Spans v (skipSpace text.toList) rest ∧ skipSpace rest = []

end SchemaDiagram.Snapshot
