import Mathlib.Data.List.Basic
import SchemaDiagram.Text.Order

/-!
# Lists determined by their members

Most lists of a built catalog stand in an order that their members decide: names by code point,
schemas by their first mention, columns and index entries by their positions. Such a list is
known as soon as its members are, whatever the order of the facts it was collected from:

* `eq_of_pairwise_of_mem_iff`: two lists in one strict order with the same members are equal;
* `exists_first`: the first member with a property comes before all others that have it;
* `sortedNames_pairwise`, `mem_sortedNames`: the increasing list of names;
* `find?_map_of_name`: things that are made from their names are found under them;
* `sorted_pairwise_lt`, `sorted_eq_of_perm`: entries in the order of distinct positions;
* `sorted_filter_position`: entries of equal position keep their order;
* `eraseDups_pairwise_idxOf`: a list without its repetitions stands in the order of first
  mention.
-/

namespace SchemaDiagram

variable {α : Type}

/-! ### Strict orders -/

/-- **A strictly ordered list is determined by its members.** -/
theorem eq_of_pairwise_of_mem_iff {R : α → α → Prop} (asymm : ∀ a b, R a b → ¬R b a)
    {l₁ l₂ : List α} (h₁ : l₁.Pairwise R) (h₂ : l₂.Pairwise R) (h : ∀ a, a ∈ l₁ ↔ a ∈ l₂) :
    l₁ = l₂ := by
  have ne_of_rel : ∀ {a b}, R a b → a ≠ b := by
    rintro a b hab rfl
    exact asymm a a hab hab
  -- Two lists without repetitions and with the same members are permutations of each other, and
  -- of a permutation only one order is strict.
  have hperm : l₁.Perm l₂ :=
    (List.perm_ext_iff_of_nodup (h₁.imp ne_of_rel) (h₂.imp ne_of_rel)).2 h
  exact hperm.eq_of_pairwise (fun a b _ _ hab hba => absurd hba (asymm a b hab)) h₁ h₂

/-- **The first member with a property** in an ordered list comes before all others. -/
theorem exists_first {R : α → α → Prop} {p : α → Prop} {l : List α} (hl : l.Pairwise R)
    (h : ∃ a ∈ l, p a) : ∃ before a after, l = before ++ a :: after ∧ p a ∧
      (∀ b ∈ before, ¬p b) ∧ ∀ b ∈ l, p b → b = a ∨ R a b := by
  -- By the list: either its head is the first with the property, or it is one of those before.
  induction l with
  | nil => simp at h
  | cons c l ih =>
    obtain ⟨hc, hl⟩ := List.pairwise_cons.1 hl
    by_cases hp : p c
    · exact ⟨[], c, l, rfl, hp, nofun, fun b hb _ => (List.mem_cons.1 hb).imp_right (hc b)⟩
    · -- The first member has not the property, so the first that has it is further down.
      obtain ⟨a, ha, hpa⟩ := h
      have htail : a ∈ l := (List.mem_cons.1 ha).resolve_left fun e => hp (e ▸ hpa)
      obtain ⟨before, a, after, rfl, hpa, hbefore, hothers⟩ := ih hl ⟨a, htail, hpa⟩
      refine ⟨c :: before, a, after, rfl, hpa, ?_, ?_⟩
      · exact List.forall_mem_cons.2 ⟨hp, hbefore⟩
      · intro b hb hpb
        exact hothers b ((List.mem_cons.1 hb).resolve_left fun e => hp (e ▸ hpb)) hpb

/-! ### First mentions -/

variable [DecidableEq α]

/-- Leaving out other members keeps the order of two first mentions. -/
theorem idxOf_lt_of_filter {p : α → Bool} {a b : α} (ha : p a) (hb : p b) {l : List α}
    (h : (l.filter p).idxOf a < (l.filter p).idxOf b) : l.idxOf a < l.idxOf b := by
  induction l with
  | nil => simp at h
  | cons c l ih =>
    by_cases hc : p c
    · rw [List.filter_cons_of_pos hc] at h
      -- The member is kept, so both places are measured from it in either list.
      simp only [List.idxOf_cons] at h ⊢
      grind
    · rw [List.filter_cons_of_neg hc] at h
      -- The member is left out, so it is neither of the two, and both places move by one.
      have hca : ¬c = a := fun e => hc (e ▸ ha)
      have hcb : ¬c = b := fun e => hc (e ▸ hb)
      rw [List.idxOf_cons_ne l hca, List.idxOf_cons_ne l hcb]
      exact Nat.add_lt_add_right (ih h) 1

/-- **Order of first mention.** A list without its repetitions names its members in the order
in which the list first mentions them. -/
theorem eraseDups_pairwise_idxOf (l : List α) :
    l.eraseDups.Pairwise fun a b => l.idxOf a < l.idxOf b := by
  match l with
  | [] => simp
  | c :: l =>
    -- The recursion is on the list less the repetitions of its first member, which is shorter.
    rw [List.eraseDups_cons]
    have hlength := List.length_filter_le (fun b => !b == c) l
    have ih := eraseDups_pairwise_idxOf (l.filter fun b => !b == c)
    refine List.pairwise_cons.2 ⟨fun b hb => ?_, ?_⟩
    · have hne : ¬c = b := by
        rintro rfl
        simp at hb
      simp [hne]
    · -- Both members differ from the first one, so both places move by one.
      refine List.Pairwise.imp_of_mem (fun {a b} ha hb hab => ?_) ih
      rw [List.mem_eraseDups, List.mem_filter] at ha hb
      have hca : ¬c = a := fun e => by simp [e] at ha
      have hcb : ¬c = b := fun e => by simp [e] at hb
      rw [List.idxOf_cons_ne l hca, List.idxOf_cons_ne l hcb]
      exact Nat.add_lt_add_right
        (idxOf_lt_of_filter (p := fun b => !b == c) ha.2 hb.2 hab) 1
termination_by l.length
decreasing_by simp only [List.length_cons]; omega

/-- A list without its repetitions has none. -/
theorem nodup_eraseDups (l : List α) : l.eraseDups.Nodup := by
  refine (eraseDups_pairwise_idxOf l).imp fun {a b} h => ?_
  rintro rfl
  exact Nat.lt_irrefl _ h

/-- Leaving out repetitions keeps the order of the list. -/
theorem eraseDups_sublist (l : List α) : l.eraseDups.Sublist l := by
  match l with
  | [] => simp
  | c :: l =>
    rw [List.eraseDups_cons]
    have hlength := List.length_filter_le (fun b => !b == c) l
    exact ((eraseDups_sublist _).trans List.filter_sublist).cons_cons c
termination_by l.length
decreasing_by simp only [List.length_cons]; omega

/-- A list without repetitions stays as it is. -/
theorem eraseDups_of_nodup {l : List α} (h : l.Nodup) : l.eraseDups = l := by
  induction l with
  | nil => rfl
  | cons c l ih =>
    obtain ⟨hc, hl⟩ := List.nodup_cons.1 h
    -- The head does not occur in the rest, so nothing of it is left out.
    have hfilter : (l.filter fun b => !b == c) = l := by
      refine List.filter_eq_self.2 fun b hb => ?_
      have hne : b ≠ c := fun e => hc (e ▸ hb)
      simpa using hne
    rw [List.eraseDups_cons, hfilter, ih hl]

/-- Leaving out repetitions makes a list shorter unless there are none. -/
theorem length_eraseDups_eq_iff {l : List α} : l.eraseDups.length = l.length ↔ l.Nodup := by
  constructor
  · intro h
    rw [← (eraseDups_sublist l).eq_of_length h]
    exact nodup_eraseDups l
  · intro h
    rw [eraseDups_of_nodup h]

/-- A list in weak order is in strict order once its repetitions are left out. -/
theorem eraseDups_pairwise {R : α → α → Prop} {l : List α}
    (h : l.Pairwise fun a b => R a b ∨ a = b) : l.eraseDups.Pairwise R := by
  refine (h.sublist (eraseDups_sublist l)).imp₂ (fun a b hab hne => ?_) (nodup_eraseDups l)
  exact hab.resolve_right hne

/-- Once a member has been mentioned, a repetition changes nothing. -/
theorem eraseDups_append_cons_of_mem {a : α} {l l' : List α} (h : a ∈ l) :
    (l ++ a :: l').eraseDups = (l ++ l').eraseDups := by
  have hknown : (a :: l').removeAll l = l'.removeAll l := by
    rw [List.removeAll, List.removeAll, List.filter_cons_of_neg (by simpa using h)]
  rw [List.eraseDups_append, List.eraseDups_append, hknown]

/-! ### Concatenations -/

omit [DecidableEq α] in
/-- Members that contribute nothing to a concatenation may be left out. -/
theorem flatMap_filter_of_nil {β : Type} {g : α → List β} {p : α → Bool} {l : List α}
    (h : ∀ a ∈ l, ¬p a → g a = []) : (l.filter p).flatMap g = l.flatMap g := by
  -- By the list; a member that is left out would have brought nothing.
  induction l with
  | nil => rfl
  | cons a l ih =>
    have ih := ih fun b hb => h b (List.mem_cons_of_mem a hb)
    by_cases ha : p a
    · rw [List.filter_cons_of_pos ha, List.flatMap_cons, List.flatMap_cons, ih]
    · rw [List.filter_cons_of_neg ha, List.flatMap_cons, h a List.mem_cons_self ha, ih,
        List.nil_append]

omit [DecidableEq α] in
/-- A concatenation over selected members, with the selection moved into the contributions. -/
theorem flatMap_filter_eq {β : Type} (g : α → List β) (p : α → Bool) (l : List α) :
    (l.filter p).flatMap g = l.flatMap fun a => if p a then g a else [] := by
  rw [← flatMap_filter_of_nil (g := fun a => if p a then g a else []) (p := p)
    fun a _ ha => if_neg ha]
  exact List.flatMap_congr fun a ha => (if_pos (List.mem_filter.1 ha).2).symm

/-! ### Sorted names -/

/-- Sorting names neither adds nor loses one. -/
@[simp] theorem mem_sortedNames {name : String} {names : List String} :
    name ∈ sortedNames names ↔ name ∈ names := by
  rw [sortedNames, List.mem_mergeSort, List.mem_eraseDups]

/-- Sorted names increase strictly. -/
theorem sortedNames_pairwise (names : List String) : (sortedNames names).Pairwise (· < ·) := by
  -- Sorting gives the weak order, the missing repetitions make it strict.
  have hle : (sortedNames names).Pairwise fun a b => decide (a ≤ b) = true :=
    List.pairwise_mergeSort (fun a b c hab hbc => by
      rw [decide_eq_true_iff] at hab hbc ⊢
      exact String.le_trans hab hbc) (fun a b => by
      simpa using String.le_total a b) _
  have hne : (sortedNames names).Pairwise (· ≠ ·) :=
    ((List.mergeSort_perm _ _).nodup_iff).2 (nodup_eraseDups names)
  refine hle.imp₂ (fun a b hab hne => ?_) hne
  exact Decidable.byContradiction fun hlt =>
    hne (String.le_antisymm (of_decide_eq_true hab) (String.not_lt.1 hlt))

/-- Sorted names depend on the names alone. -/
theorem sortedNames_congr {names names' : List String} (h : ∀ name, name ∈ names ↔ name ∈ names') :
    sortedNames names = sortedNames names' := by
  refine eq_of_pairwise_of_mem_iff (fun a b h h' => String.lt_irrefl a (String.lt_trans h h'))
    (sortedNames_pairwise names) (sortedNames_pairwise names') fun name => ?_
  rw [mem_sortedNames, mem_sortedNames, h]

/-- The order of texts has no cycle of two. -/
theorem string_lt_asymm (a b : String) (h : a < b) : ¬b < a :=
  fun h' => String.lt_irrefl a (String.lt_trans h h')

/-! ### Look-up by name -/

omit [DecidableEq α] in
/-- Looking up a name in a list of things that are named by what they are made from. -/
theorem find?_map_of_name (name : α → String) (make : String → α)
    (hname : ∀ s, name (make s) = s) {names : List String} {s : String} (h : s ∈ names) :
    (names.map make).find? (fun a => decide (name a = s)) = some (make s) := by
  rw [List.find?_map]
  have hcomp : (fun a => decide (name a = s)) ∘ make = fun n => decide (n = s) := by
    funext n
    rw [Function.comp_apply, hname]
  -- What is left is the first name in the list that is the one looked for.
  rw [hcomp]
  induction names with
  | nil => simp at h
  | cons n names ih =>
    by_cases hn : n = s
    · simp [hn]
    · rw [List.find?_cons_of_neg (by simpa using hn)]
      exact ih ((List.mem_cons.1 h).resolve_left (Ne.symm hn))

omit [DecidableEq α] in
/-- What is looked up is there. -/
theorem mem_of_lookup {name : String} {a : α} {entries : List (String × α)}
    (h : entries.lookup name = some a) : (name, a) ∈ entries := by
  obtain ⟨before, after, heq, -⟩ := List.lookup_eq_some_iff.1 h
  rw [heq]
  exact List.mem_append_right _ List.mem_cons_self

omit [DecidableEq α] in
/-- A name under which there is only one thing. -/
theorem lookup_of_only {name : String} {a : α} {entries : List (String × α)}
    (hmem : (name, a) ∈ entries) (honly : ∀ b, (name, b) ∈ entries → b = a) :
    entries.lookup name = some a := by
  cases hlookup : entries.lookup name with
  | none =>
    have hother := List.lookup_eq_none_iff.1 hlookup _ hmem
    rw [bne_self_eq_false] at hother
    exact absurd hother Bool.false_ne_true
  | some b => rw [honly b (mem_of_lookup hlookup)]

/-! ### Positions -/

section Positions

variable {α : Type} (position : α → Int32)

/-- Positions are ordered transitively, in the form in which sorting asks for it. -/
theorem position_le_trans (a b c : α) (hab : decide (position a ≤ position b) = true)
    (hbc : decide (position b ≤ position c) = true) : decide (position a ≤ position c) = true :=
  decide_eq_true (Int32.le_trans (of_decide_eq_true hab) (of_decide_eq_true hbc))

/-- Any two positions are comparable, in the form in which sorting asks for it. -/
theorem position_le_total (a b : α) :
    (decide (position a ≤ position b) || decide (position b ≤ position a)) = true := by
  simpa using Int32.le_total (position a) (position b)

/-- Entries sorted by their positions are in weak order. -/
theorem sorted_pairwise_le (l : List α) :
    (l.mergeSort fun a b => decide (position a ≤ position b)).Pairwise
      fun a b => position a ≤ position b :=
  (List.pairwise_mergeSort (position_le_trans position) (position_le_total position) l).imp
    of_decide_eq_true

/-- **Entries of equal position** keep their order when they are sorted. -/
theorem sorted_filter_position (l : List α) (place : Int32) :
    (l.mergeSort fun a b => decide (position a ≤ position b)).filter
        (fun a => decide (position a = place)) =
      l.filter fun a => decide (position a = place) := by
  -- Entries of one position are in order already, so sorting keeps them as they stand.
  have hordered : (l.filter fun a => decide (position a = place)).Pairwise
      fun a b => decide (position a ≤ position b) = true := by
    refine List.pairwise_of_forall_mem_list fun a ha b hb => ?_
    rw [of_decide_eq_true (List.mem_filter.1 ha).2, of_decide_eq_true (List.mem_filter.1 hb).2]
    exact decide_eq_true (Int32.le_refl place)
  -- They are a sublist of the sorted list, and there are no more of them in it than before.
  have hsublist := (List.sublist_mergeSort (position_le_trans position) (position_le_total position)
    hordered List.filter_sublist).filter fun a => decide (position a = place)
  rw [List.filter_filter] at hsublist
  simp only [Bool.and_self] at hsublist
  exact (hsublist.eq_of_length ((List.mergeSort_perm l _).filter _).length_eq.symm).symm

/-- Entries with distinct positions, sorted by them, are in strict order. -/
theorem sorted_pairwise_lt {l : List α} (h : (l.map position).Nodup) :
    (l.mergeSort fun a b => decide (position a ≤ position b)).Pairwise
      fun a b => position a < position b := by
  have hne : (l.mergeSort fun a b => decide (position a ≤ position b)).Pairwise
      fun a b => position a ≠ position b :=
    List.pairwise_map.1 (((List.mergeSort_perm l _).map position).nodup_iff.2 h)
  exact (sorted_pairwise_le position l).imp₂ (fun _ _ hle hne => Int32.lt_of_le_of_ne hle hne) hne

/-- **Distinct positions decide the order:** whatever the order in which the entries come, they
are sorted to the same list. -/
theorem sorted_eq_of_perm {l l' : List α} (hperm : l.Perm l') (h : (l.map position).Nodup) :
    (l.mergeSort fun a b => decide (position a ≤ position b)) =
      l'.mergeSort fun a b => decide (position a ≤ position b) := by
  have h' : (l'.map position).Nodup := (hperm.map position).nodup_iff.1 h
  refine eq_of_pairwise_of_mem_iff (fun a b => Int32.lt_asymm) (sorted_pairwise_lt position h)
    (sorted_pairwise_lt position h') fun a => ?_
  rw [List.mem_mergeSort, List.mem_mergeSort, hperm.mem_iff]

end Positions

end SchemaDiagram
