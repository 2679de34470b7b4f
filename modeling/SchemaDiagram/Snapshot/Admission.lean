import SchemaDiagram.Json.Schema
import SchemaDiagram.Snapshot.Publish
import SchemaDiagram.Snapshot.Read

/-!
# Admitted values

Which JSON values a format admits, apart from how they are written in a text: the values that are
read are among them, and the published schema accepts these and no others. Records are objects here;
that they may also be written as arrays is not published (`Format.asObjects`).

A number is admitted as a word if it is whole and not negative, however large it is and however it
is written. This is all that the published schema says about words; the reader asks for more.
-/

namespace SchemaDiagram.Snapshot

open Json

mutual
/-- **All records are written as objects** in this value, as far as it has any. -/
def Format.asObjects : Format → Value → Bool
  | .optional inner, v => inner.asObjects v
  | .list inner, .array entries => entries.toList.all inner.asObjects
  | .record _ _, .array _ => false
  | .record _ members, .object object =>
    object.toList.all fun item => members.asObjectsAt item.1 item.2
  | _, _ => true

/-- So they are in a value of this name. -/
def Members.asObjectsAt : Members → String → Value → Bool
  | .nil, _, _ => true
  | .cons member format members, name, v =>
    (decide (name ≠ member.name) || format.asObjects v) && members.asObjectsAt name v
end

/-- The value is a string. -/
def isText : Value → Bool
  | .string _ => true
  | _ => false

/-- The object has members of this name only, at least one, and they are strings. -/
def isEntryCase (name : String) (object : ObjectMembers) : Bool :=
  (object.toList.all fun item => decide (item.1 = name) && isText item.2) &&
    decide (name ∈ object.toList.map (·.1))

mutual
/-- **The format admits the value.** -/
def Format.admits : Format → Value → Bool
  | .text, v => isText v
  | .flag, .bool _ => true
  | .word, .number significand exponent => isWhole significand exponent && decide (0 ≤ significand)
  | .kind, .string tag => RelationKind.all.any fun kind => decide (tag = kind.tag)
  | .entry, .object object => entryCases.any fun entryCase => isEntryCase entryCase.1 object
  | .optional _, .null => true
  | .optional inner, v => inner.admits v
  | .list inner, .array entries => entries.toList.all inner.admits
  | .record _ members, .object object =>
    (object.toList.all fun item => members.admitsAt item.1 item.2) &&
      members.requiredNames.all fun name => decide (name ∈ object.toList.map (·.1))
  | _, _ => false

/-- A record admits the value under this name; it admits any value under the name of none of its
members. -/
def Members.admitsAt : Members → String → Value → Bool
  | .nil, _, _ => true
  | .cons member format members, name, v =>
    (decide (name ≠ member.name) || format.admits v) && members.admitsAt name v
end

/-! ### Optional values and members -/

variable {name : String} {v : Value} {member : Member} {format : Format} {members : Members}

theorem Format.admits_optional (h : v ≠ .null) :
    (Format.optional format).admits v = format.admits v := by
  cases v with
  | null => exact absurd rfl h
  | bool | number | string | array | object => rfl

theorem Members.asObjectsAt_cons : (Members.cons member format members).asObjectsAt name v ↔
    (name = member.name → format.asObjects v) ∧ members.asObjectsAt name v := by
  rw [asObjectsAt, Bool.and_eq_true, Bool.or_eq_true, decide_eq_true_eq, ← Decidable.imp_iff_not_or]

theorem Members.asObjectsAt_other : ∀ members : Members, name ∉ members.names →
    members.asObjectsAt name v
  | .nil, _ => rfl
  | .cons _ _ members, h => by
    obtain ⟨hname, hothers⟩ := not_or.1 (mt List.mem_cons.2 h)
    exact asObjectsAt_cons.2 ⟨fun heq => absurd heq hname, asObjectsAt_other members hothers⟩

theorem Members.admitsAt_cons : (Members.cons member format members).admitsAt name v ↔
    (name = member.name → format.admits v) ∧ members.admitsAt name v := by
  rw [admitsAt, Bool.and_eq_true, Bool.or_eq_true, decide_eq_true_eq, ← Decidable.imp_iff_not_or]

theorem Members.admitsAt_other : ∀ members : Members, name ∉ members.names →
    members.admitsAt name v
  | .nil, _ => rfl
  | .cons _ _ members, h => by
    obtain ⟨hname, hothers⟩ := not_or.1 (mt List.mem_cons.2 h)
    exact admitsAt_cons.2 ⟨fun heq => absurd heq hname, admitsAt_other members hothers⟩

end SchemaDiagram.Snapshot
