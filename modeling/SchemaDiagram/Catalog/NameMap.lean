/-!
# Maps from names

A `NameMap` keeps values under names, in the increasing order of the names. The order is part of
the map, so a name occurs once and the entries of two maps with the same names stand side by side.

* `NameMap.find?`: the value under a name;
* `NameMap.upsert`: changes the value under a name, which starts from a default if there is none;
* `NameMap.erase`: takes a name out.
-/

namespace SchemaDiagram

/-- **Name map:** values under names, in the order of the names. -/
structure NameMap (α : Type) where
  entries : List (String × α)
  ordered : entries.Pairwise fun a b => a.1 < b.1

namespace NameMap

variable {α β : Type}

/-- The map without names. -/
def empty : NameMap α := ⟨[], .nil⟩

/-- The names, in order. -/
def names (map : NameMap α) : List String := map.entries.map Prod.fst

/-- The value under a name. -/
def find? (map : NameMap α) (name : String) : Option α := map.entries.lookup name

/-! ### Changing a value -/

/-- The entries after the value under a name is changed; a new name goes where its order says. -/
def upsertEntry (name : String) (default : α) (change : α → α) :
    List (String × α) → List (String × α)
  | [] => [(name, change default)]
  | (other, value) :: rest =>
    if name < other then (name, change default) :: (other, value) :: rest
    else if name = other then (name, change value) :: rest
    else (other, value) :: upsertEntry name default change rest

/-- Names after a change: the old ones and the changed one. -/
theorem mem_names_upsertEntry {name : String} {default : α} {change : α → α}
    {entries : List (String × α)} {other : String} :
    other ∈ (upsertEntry name default change entries).map Prod.fst →
      other = name ∨ other ∈ entries.map Prod.fst := by
  induction entries with
  | nil =>
    intro h
    exact .inl (List.mem_singleton.1 h)
  | cons entry rest ih =>
    intro h
    unfold upsertEntry at h
    split at h
    · exact List.mem_cons.1 h
    · split at h
      · next heq => exact .inr (by rwa [List.map_cons, ← heq])
      · rcases List.mem_cons.1 h with rfl | h
        · exact .inr List.mem_cons_self
        · exact (ih h).imp_right (List.mem_cons_of_mem _)

/-- A change keeps the order. -/
theorem upsertEntry_ordered (name : String) (default : α) (change : α → α)
    {entries : List (String × α)} (h : entries.Pairwise fun a b => a.1 < b.1) :
    (upsertEntry name default change entries).Pairwise fun a b => a.1 < b.1 := by
  induction entries with
  | nil => exact List.pairwise_singleton _ _
  | cons entry rest ih =>
    obtain ⟨hfirst, hrest⟩ := List.pairwise_cons.1 h
    unfold upsertEntry
    split
    · next hlt =>
      refine List.pairwise_cons.2 ⟨fun other hother => ?_, h⟩
      rcases List.mem_cons.1 hother with rfl | hother
      · exact hlt
      · exact String.lt_trans hlt (hfirst other hother)
    · next hnlt =>
      split
      · next heq =>
        exact List.pairwise_cons.2 ⟨fun other hother => heq ▸ hfirst other hother, hrest⟩
      · next hne =>
        refine List.pairwise_cons.2 ⟨fun other hother => ?_, ih hrest⟩
        -- The changed name is beyond the first one, and so are the others.
        rcases mem_names_upsertEntry (List.mem_map_of_mem hother) with hname | hname
        · rw [hname]
          exact Decidable.byContradiction fun hnot =>
            hne (String.le_antisymm (String.not_lt.1 hnot) (String.not_lt.1 hnlt))
        · obtain ⟨known, hknown, hsame⟩ := List.mem_map.1 hname
          rw [← hsame]
          exact hfirst known hknown

/-- **Changing the value under a name.** It starts from the default if the name is new. -/
def upsert (map : NameMap α) (name : String) (default : α) (change : α → α) : NameMap α :=
  ⟨upsertEntry name default change map.entries, upsertEntry_ordered _ _ _ map.ordered⟩

/-- **Taking out a name.** -/
def erase (map : NameMap α) (name : String) : NameMap α :=
  ⟨map.entries.filter fun entry => decide (entry.1 ≠ name), map.ordered.filter _⟩

/-! ### Looking up names -/

/-- The names increase. -/
theorem names_ordered (map : NameMap α) : map.names.Pairwise (· < ·) :=
  List.pairwise_map.2 map.ordered

/-- An entry under another name is passed over. -/
theorem lookup_cons_of_ne {name : String} {entry : String × α} (h : name ≠ entry.1)
    (rest : List (String × α)) : (entry :: rest).lookup name = rest.lookup name := by
  rw [List.lookup_cons, beq_false_of_ne h]

/-- A name that comes before all others is not among them. -/
theorem lookup_eq_none_of_lt {name : String} {entries : List (String × α)}
    (h : ∀ entry ∈ entries, name < entry.1) : entries.lookup name = none := by
  refine List.lookup_eq_none_iff.2 fun entry hentry => ?_
  exact bne_iff_ne.2 (String.ne_of_lt (h entry hentry))

/-- What is found among ordered entries after a change. -/
theorem lookup_upsertEntry (name : String) (default : α) (change : α → α) (other : String)
    {entries : List (String × α)} (h : entries.Pairwise fun a b => a.1 < b.1) :
    (upsertEntry name default change entries).lookup other =
      if other = name then some (change ((entries.lookup name).getD default))
      else entries.lookup other := by
  induction entries with
  | nil =>
    unfold upsertEntry
    split
    · next heq => rw [heq, List.lookup_cons_self]; rfl
    · next hne => exact lookup_cons_of_ne hne []
  | cons entry rest ih =>
    obtain ⟨hfirst, hrest⟩ := List.pairwise_cons.1 h
    obtain ⟨first, value⟩ := entry
    unfold upsertEntry
    by_cases hlt : name < first
    · -- The name is new, since it comes before all others.
      have hnone : ((first, value) :: rest).lookup name = none := by
        refine lookup_eq_none_of_lt fun entry hentry => ?_
        rcases List.mem_cons.1 hentry with rfl | hentry
        · exact hlt
        · exact String.lt_trans hlt (hfirst entry hentry)
      rw [if_pos hlt, hnone, Option.getD_none]
      split
      · next heq => rw [heq, List.lookup_cons_self]
      · next hne => exact lookup_cons_of_ne hne _
    · rw [if_neg hlt]
      by_cases hname : name = first
      · subst hname
        rw [if_pos rfl, List.lookup_cons_self, Option.getD_some]
        split
        · next heq => rw [heq, List.lookup_cons_self]
        · next hne => rw [lookup_cons_of_ne hne, lookup_cons_of_ne hne]
      · have hpassed : ((first, value) :: rest).lookup name = rest.lookup name :=
          lookup_cons_of_ne hname rest
        rw [if_neg hname, hpassed]
        by_cases hother : other = first
        · rw [hother, List.lookup_cons_self, List.lookup_cons_self, if_neg (Ne.symm hname)]
        · rw [lookup_cons_of_ne hother, lookup_cons_of_ne hother, ih hrest]

/-- **What is found after a change:** the changed value, and all others as before. -/
theorem find?_upsert (map : NameMap α) (name : String) (default : α) (change : α → α)
    (other : String) : (map.upsert name default change).find? other =
      if other = name then some (change ((map.find? name).getD default)) else map.find? other :=
  lookup_upsertEntry name default change other map.ordered

/-- Taking out a name leaves what is found under the others. -/
theorem find?_erase_of_ne (map : NameMap α) {name other : String} (h : other ≠ name) :
    (map.erase name).find? other = map.find? other := by
  unfold erase find?
  dsimp only
  induction map.entries with
  | nil => rfl
  | cons entry rest ih =>
    by_cases hentry : entry.1 = name
    · rw [List.filter_cons_of_neg (by simpa using hentry), ih,
        lookup_cons_of_ne (fun heq => h (heq.trans hentry))]
    · rw [List.filter_cons_of_pos (by simpa using hentry), List.lookup_cons, List.lookup_cons, ih]

/-- What stands under a name is found there. -/
theorem find?_of_mem {map : NameMap α} {name : String} {value : α}
    (h : (name, value) ∈ map.entries) : map.find? name = some value := by
  obtain ⟨before, after, hentries⟩ := List.append_of_mem h
  refine List.lookup_eq_some_iff.2 ⟨before, after, hentries, fun entry hentry => ?_⟩
  have hordered := map.ordered
  rw [hentries] at hordered
  have hlt := (List.pairwise_append.1 hordered).2.2 entry hentry _ List.mem_cons_self
  exact bne_iff_ne.2 (Ne.symm (String.ne_of_lt hlt))

/-- The names are those under which a value is found. -/
theorem mem_names {map : NameMap α} {name : String} :
    name ∈ map.names ↔ ∃ value, map.find? name = some value := by
  constructor
  · intro h
    obtain ⟨entry, hentry, rfl⟩ := List.mem_map.1 h
    exact ⟨entry.2, find?_of_mem hentry⟩
  · rintro ⟨value, h⟩
    obtain ⟨before, after, hentries, -⟩ := List.lookup_eq_some_iff.1 h
    rw [names, hentries]
    exact List.mem_map.2 ⟨_, List.mem_append_right _ List.mem_cons_self, rfl⟩

/-- The names after a change: the changed one and the others. -/
theorem mem_names_upsert {map : NameMap α} {name : String} {default : α} {change : α → α}
    {other : String} : other ∈ (map.upsert name default change).names ↔
      other = name ∨ other ∈ map.names := by
  rw [mem_names, mem_names, find?_upsert]
  split
  · next h => exact iff_of_true ⟨_, rfl⟩ (.inl h)
  · next h => rw [or_iff_right h]

/-- **A pass over the entries** depends on the names and on what is found under them. -/
theorem map_entries {map : NameMap α} {f : String × α → β} {g : String → β}
    (h : ∀ name value, map.find? name = some value → f (name, value) = g name) :
    map.entries.map f = map.names.map g := by
  rw [names, List.map_map]
  exact List.map_congr_left fun entry hentry => h entry.1 entry.2 (find?_of_mem hentry)

end NameMap

end SchemaDiagram
