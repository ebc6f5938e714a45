namespace CheckedSql

variable {Item Other : Type}

def total (count : Item → Nat) : List Item → Nat
  | [] => 0
  | item :: rest => count item + total count rest

@[simp]
theorem total_nil (count : Item → Nat) : total count [] = 0 := rfl

@[simp]
theorem total_cons (count : Item → Nat) (item : Item) (rest : List Item) :
    total count (item :: rest) = count item + total count rest := rfl

@[simp]
theorem total_append (count : Item → Nat) (left right : List Item) :
    total count (left ++ right) = total count left + total count right := by
  induction left with
  | nil => exact (Nat.zero_add _).symm
  | cons item rest ih =>
      rw [List.cons_append, total_cons, total_cons, ih, Nat.add_assoc]

theorem total_map (count : Other → Nat) (change : Item → Other) (items : List Item) :
    total count (items.map change) = total (fun item => count (change item)) items := by
  induction items with
  | nil => rfl
  | cons item rest ih => rw [List.map_cons, total_cons, total_cons, ih]

theorem total_le_total {small large : Item → Nat} (below : ∀ item, small item ≤ large item)
    (items : List Item) : total small items ≤ total large items := by
  induction items with
  | nil => exact Nat.le_refl _
  | cons item rest ih => exact Nat.add_le_add (below item) ih

theorem total_congr {count other : Item → Nat} {items : List Item}
    (same : ∀ item ∈ items, count item = other item) : total count items = total other items := by
  induction items with
  | nil => rfl
  | cons item rest ih =>
      obtain ⟨first, further⟩ := List.forall_mem_cons.mp same
      rw [total_cons, total_cons, first, ih further]

/-- Replacing an item changes the total by as much as the item. -/
theorem total_set (count : Item → Nat) {items : List Item} {index : Nat} {old : Item}
    (new : Item) (found : items[index]? = some old) :
    total count (items.set index new) + count old = total count items + count new := by
  induction items generalizing index with
  | nil => cases found
  | cons item rest ih =>
      cases index with
      | zero =>
          cases found
          simp only [List.set_cons_zero, total_cons]
          omega
      | succ index =>
          have below := ih found
          simp only [List.set_cons_succ, total_cons]
          omega

end CheckedSql
