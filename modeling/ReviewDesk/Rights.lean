import ReviewDesk.Identity

/-!
Rights tables: for each reviewer on record, whether they may review. A table lists its reviewers in
strictly ascending order, so that two tables that record the same are equal.
-/

set_option autoImplicit false
set_option relaxedAutoImplicit false

namespace ReviewDesk

structure Rights where
  entries : List (ReviewerId × Bool)
  ascending : entries.Pairwise fun a b ↦ a.1 < b.1

namespace Rights

instance : DecidableEq Rights := fun a b ↦
  match decEq a.entries b.entries with
  | isTrue h => isTrue (by cases a; cases b; simp_all)
  | isFalse h => isFalse fun heq ↦ h (heq ▸ rfl)

def empty : Rights := ⟨[], .nil⟩

/-- Puts an entry in its place; an earlier one of the same reviewer gives way. -/
def insertEntry (reviewer : ReviewerId) (allowed : Bool) :
    List (ReviewerId × Bool) → List (ReviewerId × Bool)
  | [] => [(reviewer, allowed)]
  | (other, held) :: rest =>
    if reviewer = other then (reviewer, allowed) :: rest
    else if reviewer < other then (reviewer, allowed) :: (other, held) :: rest
    else (other, held) :: insertEntry reviewer allowed rest

theorem mem_insertEntry {reviewer : ReviewerId} {allowed : Bool} {entry : ReviewerId × Bool}
    {entries : List (ReviewerId × Bool)} (h : entry ∈ insertEntry reviewer allowed entries) :
    entry = (reviewer, allowed) ∨ entry ∈ entries := by
  induction entries with
  | nil => exact Or.inl (by simpa [insertEntry] using h)
  | cons head rest ih =>
    obtain ⟨other, held⟩ := head
    unfold insertEntry at h
    split at h
    · rcases List.mem_cons.mp h with he | he
      · exact Or.inl he
      · exact Or.inr (List.mem_cons_of_mem _ he)
    · split at h
      · rcases List.mem_cons.mp h with he | he
        · exact Or.inl he
        · exact Or.inr he
      · rcases List.mem_cons.mp h with he | he
        · exact Or.inr (he ▸ List.mem_cons_self ..)
        · exact (ih he).imp id (List.mem_cons_of_mem _)

theorem pairwise_insertEntry (reviewer : ReviewerId) (allowed : Bool)
    {entries : List (ReviewerId × Bool)} (h : entries.Pairwise fun a b ↦ a.1 < b.1) :
    (insertEntry reviewer allowed entries).Pairwise fun a b ↦ a.1 < b.1 := by
  induction entries with
  | nil => exact List.pairwise_singleton _ _
  | cons head rest ih =>
    obtain ⟨other, held⟩ := head
    obtain ⟨hhead, hrest⟩ := List.pairwise_cons.mp h
    unfold insertEntry
    split
    · next heq => exact List.pairwise_cons.mpr ⟨fun a ha ↦ heq ▸ hhead a ha, hrest⟩
    · next hne =>
      split
      · next hlt =>
        refine List.pairwise_cons.mpr ⟨fun a ha ↦ ?_, h⟩
        rcases List.mem_cons.mp ha with rfl | ha
        · exact hlt
        · exact ReviewerId.lt_trans hlt (hhead a ha)
      · next hnlt =>
        refine List.pairwise_cons.mpr ⟨fun a ha ↦ ?_, ih hrest⟩
        rcases mem_insertEntry ha with rfl | ha
        · exact ReviewerId.lt_of_not_lt hnlt hne
        · exact hhead a ha

def insert (rights : Rights) (reviewer : ReviewerId) (allowed : Bool) : Rights :=
  ⟨insertEntry reviewer allowed rights.entries, pairwise_insertEntry _ _ rights.ascending⟩

def erase (rights : Rights) (reviewer : ReviewerId) : Rights :=
  ⟨rights.entries.filter (·.1 ≠ reviewer), rights.ascending.filter _⟩

/-- Whether the reviewer may review, if they are on record. -/
def get? (rights : Rights) (reviewer : ReviewerId) : Option Bool :=
  (rights.entries.find? (·.1 = reviewer)).map (·.2)

def contains (rights : Rights) (reviewer : ReviewerId) : Bool :=
  rights.entries.any (·.1 = reviewer)

/-- Whether the reviewer is on record and may review. -/
def allows (rights : Rights) (reviewer : ReviewerId) : Bool :=
  (rights.get? reviewer).getD false

def size (rights : Rights) : Nat := rights.entries.length

def isEmpty (rights : Rights) : Bool := rights.entries.isEmpty

def reviewers (rights : Rights) : List ReviewerId := rights.entries.map (·.1)

/-- The entries of those whose membership is looked after: neither the super reviewer nor numbers
that belong to nobody. -/
def without (rights : Rights) (superReviewer : Option ReviewerId) : Rights :=
  ⟨rights.entries.filter fun entry ↦ entry.1.isValid && some entry.1 ≠ superReviewer,
    rights.ascending.filter _⟩

/-- The table of the given entries, of which the last one of a reviewer counts. -/
def ofList (entries : List (ReviewerId × Bool)) : Rights :=
  entries.foldl (fun rights entry ↦ rights.insert entry.1 entry.2) empty

@[simp] theorem get?_empty (reviewer : ReviewerId) : empty.get? reviewer = none := rfl

theorem find?_insertEntry (reviewer other : ReviewerId) (allowed : Bool)
    (entries : List (ReviewerId × Bool)) :
    (insertEntry reviewer allowed entries).find? (·.1 = other) =
      if other = reviewer then some (reviewer, allowed) else entries.find? (·.1 = other) := by
  induction entries with
  | nil => by_cases h : other = reviewer <;> simp [insertEntry, h, eq_comm]
  | cons head rest ih =>
    obtain ⟨key, held⟩ := head
    unfold insertEntry
    by_cases hkey : reviewer = key
    · subst hkey
      by_cases h : other = reviewer <;> simp [h, eq_comm]
    · rw [if_neg hkey]
      split
      · by_cases h : other = reviewer <;> simp [h, eq_comm]
      · by_cases hother : key = other
        · subst hother
          simp [eq_comm, hkey]
        · simp [hother, ih]

@[simp] theorem get?_insert (rights : Rights) (reviewer other : ReviewerId) (allowed : Bool) :
    (rights.insert reviewer allowed).get? other =
      if other = reviewer then some allowed else rights.get? other := by
  rw [get?, insert, find?_insertEntry]
  split <;> rfl

theorem find?_filter_of_key (keep : ReviewerId → Bool) (reviewer : ReviewerId)
    (entries : List (ReviewerId × Bool)) :
    (entries.filter fun entry ↦ keep entry.1).find? (·.1 = reviewer) =
      if keep reviewer then entries.find? (·.1 = reviewer) else none := by
  induction entries with
  | nil => simp
  | cons head rest ih =>
    by_cases hkey : head.1 = reviewer
    · subst hkey
      by_cases h : keep head.1 <;> simp_all
    · by_cases h : keep head.1 <;> simp_all

@[simp] theorem get?_without (rights : Rights) (superReviewer : Option ReviewerId)
    (reviewer : ReviewerId) :
    (rights.without superReviewer).get? reviewer =
      if reviewer.isValid ∧ some reviewer ≠ superReviewer then rights.get? reviewer else none := by
  rw [get?, without,
    find?_filter_of_key (fun key ↦ key.isValid && some key ≠ superReviewer)]
  simp only [Bool.and_eq_true, decide_eq_true_eq]
  split <;> rfl

theorem contains_eq_isSome (rights : Rights) (reviewer : ReviewerId) :
    rights.contains reviewer = (rights.get? reviewer).isSome := by
  simp [contains, get?, List.isSome_find?]

end Rights

end ReviewDesk
