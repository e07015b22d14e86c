/-!
# Tables

Values by key, in ascending order of the keys and no key twice. `Table.insert` keeps that order and
replaces an older value of its key, so that of pairs with one key the last counts.

Order of keys is by code points, which is also the order of their UTF-8 bytes.

Results: what an insertion and a removal do to a lookup (`find?_insert`, `find?_erase`), and that
an insertion keeps the order (`ordered_insert`).
-/

namespace Intercom.Table

variable {α : Type}

/-- The value of a key. -/
def find? (key : String) : List (String × α) → Option α
  | [] => none
  | (name, value) :: rest => if name = key then some value else find? key rest

/-- The table with one more pair, which replaces an older pair of the same key. -/
def insert (key : String) (value : α) : List (String × α) → List (String × α)
  | [] => [(key, value)]
  | (name, old) :: rest =>
      if key < name then (key, value) :: (name, old) :: rest
      else if key = name then (key, value) :: rest
      else (name, old) :: insert key value rest

/-- The table given by pairs in any order; of pairs with one key the last counts. -/
def ofPairs (pairs : List (String × α)) : List (String × α) :=
  pairs.foldl (fun table pair => insert pair.1 pair.2 table) []

/-- The table without the pair of a key. -/
def erase (key : String) (table : List (String × α)) : List (String × α) :=
  table.filter fun pair => pair.1 != key

/-- Keys in strictly ascending order. -/
def Ordered (table : List (String × α)) : Prop :=
  table.Pairwise fun first second => first.1 < second.1

theorem find?_insert (key name : String) (value : α) (table : List (String × α)) :
    find? name (insert key value table) =
      if key = name then some value else find? name table := by
  induction table with
  | nil => simp [insert, find?]
  | cons head rest ih =>
      obtain ⟨other, old⟩ := head
      simp only [insert]
      split
      · simp [find?]
      · split
        · next equal =>
            subst equal
            by_cases same : key = name <;> simp [find?, same]
        · next different =>
            simp only [find?, ih]
            by_cases first : other = name
            · subst first
              simp [different]
            · simp [first]

theorem find?_erase (key name : String) (table : List (String × α)) :
    find? name (erase key table) = if key = name then none else find? name table := by
  induction table with
  | nil => simp [erase, find?]
  | cons head rest ih =>
      obtain ⟨other, old⟩ := head
      simp only [erase] at ih
      by_cases kept : other = key
      · subst kept
        simp only [erase, List.filter_cons, bne_self_eq_false, Bool.false_eq_true, if_false, ih,
          find?]
        by_cases same : other = name <;> simp [same]
      · simp only [erase, List.filter_cons, bne_iff_ne, ne_eq, kept, not_false_eq_true, if_true,
          find?, ih]
        by_cases same : other = name
        · subst same
          simp [Ne.symm kept]
        · simp [same]

theorem key_mem_insert {key : String} {value : α} {table : List (String × α)}
    {pair : String × α} (present : pair ∈ insert key value table) :
    pair = (key, value) ∨ pair ∈ table := by
  induction table with
  | nil => simpa [insert] using present
  | cons head rest ih =>
      obtain ⟨other, old⟩ := head
      simp only [insert] at present
      split at present
      · simpa using present
      · split at present
        · simp only [List.mem_cons] at present ⊢
          rcases present with first | later
          · exact Or.inl first
          · exact Or.inr (Or.inr later)
        · simp only [List.mem_cons] at present ⊢
          rcases present with first | later
          · exact Or.inr (Or.inl first)
          · rcases ih later with new | known
            · exact Or.inl new
            · exact Or.inr (Or.inr known)

theorem ordered_insert {key : String} {value : α} {table : List (String × α)}
    (ordered : Ordered table) : Ordered (insert key value table) := by
  induction table with
  | nil => simp [insert, Ordered]
  | cons head rest ih =>
      obtain ⟨other, old⟩ := head
      have tail : Ordered rest := (List.pairwise_cons.mp ordered).2
      have least := (List.pairwise_cons.mp ordered).1
      simp only [insert]
      split
      · next before =>
          refine List.pairwise_cons.mpr ⟨?_, ordered⟩
          intro pair present
          simp only [List.mem_cons] at present
          rcases present with rfl | later
          · exact before
          · exact String.lt_trans before (least pair later)
      · split
        · next equal =>
            subst equal
            exact List.pairwise_cons.mpr ⟨least, tail⟩
        · next notBefore different =>
            refine List.pairwise_cons.mpr ⟨?_, ih tail⟩
            intro pair present
            rcases key_mem_insert present with rfl | known
            · refine Decidable.byContradiction fun notLess => different ?_
              exact String.le_antisymm (String.not_lt.mp notLess) (String.not_lt.mp notBefore)
            · exact least pair known

end Intercom.Table
