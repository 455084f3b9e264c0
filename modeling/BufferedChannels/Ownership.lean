/-!
# Ownership — which descriptors have an owner

An `Ownership` counts the owners of each descriptor.  More than one owner is a mistake of the
program, and so is giving up a descriptor that nobody owns: both are **reported and counted**.  A
descriptor without owners has no entry.  A process keeps one `Ownership` for each `Scope`.
-/

namespace BufferedChannels

/-- **The registries** of owners: the one that default waiters share, and as many apart from it as
a program makes.  Each has a number of its own, so an isolated waiter shares its registry with no
other. -/
inductive Scope where
  | shared
  | isolated (number : Nat)
  deriving DecidableEq

/-- **Owner counts per descriptor**, without entries of count zero. -/
structure Ownership where
  entries : List (Int × Nat) := []
  deriving DecidableEq

namespace Ownership

/-- How many owners a descriptor has. -/
def owners (o : Ownership) (fd : Int) : Nat := (o.entries.lookup fd).getD 0

/-- Whether a descriptor has an entry. -/
def contains (o : Ownership) (fd : Int) : Bool := (o.entries.lookup fd).isSome

/-- The number of descriptors with an entry. -/
def size (o : Ownership) : Nat := o.entries.length

/-- Whether no descriptor has an entry. -/
def isEmpty (o : Ownership) : Bool := o.size == 0

/-- Entries with one more owner of `fd`. -/
def add (fd : Int) : List (Int × Nat) → List (Int × Nat)
  | [] => [(fd, 1)]
  | (key, count) :: rest =>
    if key = fd then (key, count + 1) :: rest else (key, count) :: add fd rest

/-- Entries with one owner of `fd` less; the last owner's entry goes. -/
def remove (fd : Int) : List (Int × Nat) → List (Int × Nat)
  | [] => []
  | (key, count) :: rest =>
    if key = fd then (if count > 1 then (key, count - 1) :: rest else rest)
    else (key, count) :: remove fd rest

/-- **One more owner.** -/
def claim (o : Ownership) (fd : Int) : Ownership := ⟨add fd o.entries⟩

/-- **One owner less**, if there is one. -/
def release (o : Ownership) (fd : Int) : Ownership := ⟨remove fd o.entries⟩

/-- Every entry counts at least one owner, and no descriptor has two entries. -/
structure WellFormed (o : Ownership) : Prop where
  pos : ∀ fd count, (fd, count) ∈ o.entries → 0 < count
  nodup : (o.entries.map Prod.fst).Nodup

/-! ## The count of each descriptor under each operation -/

theorem lookup_cons_eq {α β : Type} [DecidableEq α] (other key : α) (value : β)
    (rest : List (α × β)) :
    ((key, value) :: rest).lookup other =
      if other = key then some value else rest.lookup other := by
  by_cases h : other = key
  · rw [if_pos h, h, List.lookup_cons_self]
  · rw [if_neg h, List.lookup_cons, beq_eq_false_iff_ne.2 h]

theorem lookup_eq_none_of_not_mem {fd : Int} {entries : List (Int × Nat)}
    (h : fd ∉ entries.map Prod.fst) : entries.lookup fd = none := by
  induction entries with
  | nil => rfl
  | cons entry rest ih =>
    obtain ⟨key, count⟩ := entry
    simp only [List.map_cons, List.mem_cons, not_or] at h
    rw [lookup_cons_eq, if_neg h.1, ih h.2]

theorem lookup_add (fd other : Int) (entries : List (Int × Nat)) :
    (add fd entries).lookup other =
      if other = fd then some ((entries.lookup fd).getD 0 + 1) else entries.lookup other := by
  induction entries with
  | nil => rw [add, lookup_cons_eq]; rfl
  | cons entry rest ih =>
    obtain ⟨key, count⟩ := entry
    by_cases hk : key = fd
    · subst hk
      rw [add, if_pos rfl, lookup_cons_eq, lookup_cons_eq, lookup_cons_eq, if_pos rfl]
      split <;> rfl
    · rw [add, if_neg hk, lookup_cons_eq, lookup_cons_eq, lookup_cons_eq, ih,
        if_neg (Ne.symm hk)]
      split <;> split <;> simp_all

theorem lookup_remove (fd other : Int) {entries : List (Int × Nat)}
    (nodup : (entries.map Prod.fst).Nodup) :
    ((remove fd entries).lookup other).getD 0 =
      (entries.lookup other).getD 0 - if other = fd then 1 else 0 := by
  induction entries with
  | nil => exact (Nat.zero_sub _).symm
  | cons entry rest ih =>
    obtain ⟨key, count⟩ := entry
    simp only [List.map_cons, List.nodup_cons] at nodup
    by_cases hk : key = fd
    · subst hk
      rw [remove, if_pos rfl, lookup_cons_eq]
      by_cases ho : other = key
      · subst ho
        by_cases hc : count > 1
        · simp [if_pos hc]
        · rw [if_neg hc, lookup_eq_none_of_not_mem nodup.1]
          simp
          omega
      · by_cases hc : count > 1 <;> simp [hc, ho, lookup_cons_eq]
    · rw [remove, if_neg hk, lookup_cons_eq, lookup_cons_eq]
      by_cases ho : other = key
      · simp [ho, hk]
      · rw [if_neg ho, if_neg ho, ih nodup.2]

/-- **A descriptor has an entry when it has an owner.** -/
theorem contains_iff {o : Ownership} (h : o.WellFormed) (fd : Int) :
    o.contains fd = true ↔ 0 < o.owners fd := by
  have key : ∀ entries : List (Int × Nat), (∀ fd count, (fd, count) ∈ entries → 0 < count) →
      ((entries.lookup fd).isSome = true ↔ 0 < (entries.lookup fd).getD 0) := by
    intro entries
    induction entries with
    | nil => simp
    | cons entry rest ih =>
      intro pos
      have here := pos entry.1 entry.2 List.mem_cons_self
      have ih := ih fun fd count hm => pos fd count (List.mem_cons_of_mem _ hm)
      rw [lookup_cons_eq]
      split
      · simpa using here
      · exact ih
  exact key o.entries h.pos

theorem mem_add {fd other : Int} {count : Nat} {entries : List (Int × Nat)}
    (h : (other, count) ∈ add fd entries) :
    (∃ before, (other, before) ∈ entries ∧ before ≤ count) ∨ (other = fd ∧ count = 1) := by
  induction entries with
  | nil => simp_all [add]
  | cons entry rest ih =>
    obtain ⟨key, n⟩ := entry
    by_cases hk : key = fd
    · rw [add, if_pos hk, List.mem_cons] at h
      rcases h with h | h
      · cases h
        exact .inl ⟨n, List.mem_cons_self, Nat.le_succ n⟩
      · exact .inl ⟨count, List.mem_cons_of_mem _ h, Nat.le_refl _⟩
    · rw [add, if_neg hk, List.mem_cons] at h
      rcases h with h | h
      · cases h
        exact .inl ⟨_, List.mem_cons_self, Nat.le_refl _⟩
      · refine (ih h).imp_left fun ⟨before, hm, le⟩ => ⟨before, List.mem_cons_of_mem _ hm, le⟩

theorem nodup_add {fd : Int} {entries : List (Int × Nat)}
    (h : (entries.map Prod.fst).Nodup) : ((add fd entries).map Prod.fst).Nodup := by
  induction entries with
  | nil => simp [add]
  | cons entry rest ih =>
    obtain ⟨key, n⟩ := entry
    simp only [List.map_cons, List.nodup_cons] at h
    by_cases hk : key = fd
    · rw [add, if_pos hk]
      simpa using h
    · rw [add, if_neg hk, List.map_cons, List.nodup_cons]
      refine ⟨fun hm => ?_, ih h.2⟩
      obtain ⟨entry, hm, he⟩ := List.mem_map.1 hm
      rcases mem_add hm with ⟨before, hb, _⟩ | ⟨hf, _⟩
      · exact h.1 (List.mem_map.2 ⟨_, hb, he⟩)
      · exact hk (he.symm.trans hf)

theorem wellFormed_claim {o : Ownership} (h : o.WellFormed) (fd : Int) :
    (o.claim fd).WellFormed := by
  refine ⟨fun other count hm => ?_, nodup_add h.nodup⟩
  rcases mem_add hm with ⟨before, hb, le⟩ | ⟨_, hc⟩
  · exact Nat.lt_of_lt_of_le (h.pos other before hb) le
  · omega

theorem mem_remove {fd other : Int} {count : Nat} {entries : List (Int × Nat)}
    (h : (other, count) ∈ remove fd entries) :
    0 < count ∧ other = fd ∨ (other, count) ∈ entries := by
  induction entries with
  | nil => exact .inr h
  | cons entry rest ih =>
    obtain ⟨key, n⟩ := entry
    rw [remove] at h
    split at h
    · split at h
      · rcases List.mem_cons.1 h with h | h
        · cases h
          exact .inl ⟨by omega, by assumption⟩
        · exact .inr (List.mem_cons_of_mem _ h)
      · exact .inr (List.mem_cons_of_mem _ h)
    · rcases List.mem_cons.1 h with h | h
      · exact .inr (h ▸ List.mem_cons_self)
      · exact (ih h).imp_right (List.mem_cons_of_mem _)

theorem keys_remove (fd : Int) (entries : List (Int × Nat)) :
    ((remove fd entries).map Prod.fst).Sublist (entries.map Prod.fst) := by
  induction entries with
  | nil => exact List.Sublist.refl _
  | cons entry rest ih =>
    obtain ⟨key, n⟩ := entry
    rw [remove]
    split
    · split
      · exact List.Sublist.refl _
      · exact List.sublist_cons_self _ _
    · exact ih.cons_cons key

theorem wellFormed_release {o : Ownership} (h : o.WellFormed) (fd : Int) :
    (o.release fd).WellFormed := by
  refine ⟨fun other count hm => ?_, h.nodup.sublist (keys_remove fd o.entries)⟩
  rcases mem_remove hm with ⟨pos, _⟩ | hm
  · exact pos
  · exact h.pos other count hm

/-- **A claim adds one owner** of its descriptor and changes no other count. -/
theorem owners_claim (o : Ownership) (fd other : Int) :
    (o.claim fd).owners other = if other = fd then o.owners fd + 1 else o.owners other := by
  simp only [owners, claim, lookup_add]
  split <;> rfl

/-- **A release strikes one owner** of its descriptor, if there is one, and changes no other
count. -/
theorem owners_release {o : Ownership} (h : o.WellFormed) (fd other : Int) :
    (o.release fd).owners other = o.owners other - if other = fd then 1 else 0 :=
  lookup_remove fd other h.nodup

end Ownership

end BufferedChannels
