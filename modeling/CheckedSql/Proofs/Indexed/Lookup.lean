import CheckedSql.Fault
import CheckedSql.Total

namespace CheckedSql

/-! Readings that look things up by their places.

A lookup misses if an index is not that of an item, or if the offsets of a slice are not
in order, not within the whole, or inside an item (`slice?_eq_some_iff`). Items are
measured by a size: characters by their bytes, the bytes and the tokens themselves by one
each. A `Lookup` keeps apart the misses of a reading and its faults; `found` is a reading
that misses nothing.
-/

/-- A reading by places: none if a lookup misses, and else what is read, or a fault. -/
abbrev Lookup (Result : Type) := ExceptT Fault Option Result

namespace Lookup

variable {First Second : Type}

/-- A reading that misses nothing. -/
def found (result : Except Fault First) : Lookup First :=
  ExceptT.mk (some result)

theorem found_inj {first second : Except Fault First} (same : found first = found second) :
    first = second :=
  Option.some.inj same

/-- What is found is read on. -/
theorem ok_bind (value : First) (next : First → Lookup Second) :
    (do let read ← found (.ok value); next read) = next value := rfl

theorem found_bind (first : Except Fault First) {next : First → Lookup Second}
    {after : First → Except Fault Second}
    (further : ∀ value, first = .ok value → next value = found (after value)) :
    (found first >>= next) = found (first >>= after) := by
  cases first with
  | error fault => rfl
  | ok value => exact further value rfl

theorem found_map (first : Except Fault First) (change : First → Second) :
    (found first >>= fun value => pure (change value)) = found (first.map change) := by
  cases first <;> rfl

/-- What is there is read on. -/
theorem some_bind {place : Option First} {value : First} (there : place = some value)
    (next : First → Lookup Second) : (do let read ← place; next read) = next value := by
  rw [there]
  rfl

end Lookup

/-- A place, if it lies past another. Where a reading would stay it misses, so that one
that misses nothing comes to its end. -/
def past? (place further : Nat) : Option { further : Nat // place < further } :=
  if isPast : place < further then some ⟨further, isPast⟩ else none

theorem past?_eq {place further : Nat} (isPast : place < further) :
    past? place further = some ⟨further, isPast⟩ :=
  dif_pos isPast

/-- The place before another, if there is one. -/
def previous? : Nat → Option Nat
  | 0 => none
  | place + 1 => some place

section Ahead

variable {Item : Type} {items rest : List Item} {item : Item} {offset : Nat}

theorem getElem?_ahead (ahead : items.drop offset = rest) : items[offset]? = rest.head? := by
  rw [← ahead, List.head?_drop]

theorem lt_of_ahead (ahead : items.drop offset = item :: rest) : offset < items.length := by
  have size := congrArg List.length ahead
  rw [List.length_drop, List.length_cons] at size
  omega

theorem not_lt_of_ahead (ahead : items.drop offset = []) : ¬ offset < items.length :=
  Nat.not_lt_of_le (List.drop_eq_nil_iff.mp ahead)

theorem drop_ahead (ahead : items.drop offset = item :: rest) : items.drop (offset + 1) = rest := by
  rw [← List.drop_drop, ahead, List.drop_one, List.tail_cons]

theorem getElem_ahead (ahead : items.drop offset = item :: rest) :
    items.get ⟨offset, lt_of_ahead ahead⟩ = item := by
  have found := getElem?_ahead ahead
  rw [List.getElem?_eq_getElem (lt_of_ahead ahead)] at found
  exact Option.some.inj found

/-- Items that a reading passes one by one are passed together. -/
theorem eq_past {Result : Type} {read : Nat → Result} {passes : Item → Prop} {passed : List Item}
    (step : ∀ offset item rest, items.drop offset = item :: rest → passes item →
      read offset = read (offset + 1))
    (each : ∀ item ∈ passed, passes item) (ahead : items.drop offset = passed ++ rest) :
    read offset = read (offset + passed.length) := by
  induction passed generalizing offset with
  | nil => rfl
  | cons item passed ih =>
      obtain ⟨first, further⟩ := List.forall_mem_cons.mp each
      rw [step offset item _ ahead first, ih further (drop_ahead ahead), List.length_cons,
        Nat.add_assoc, Nat.add_comm 1]

end Ahead

section Slices

variable {Item : Type} {size : Item → Nat} {items before part after : List Item}
  {offset start stop : Nat}

/-- Cuts items at an offset, if no item lies across it. -/
def cut? (size : Item → Nat) : Nat → List Item → Option (List Item × List Item)
  | 0, items => some ([], items)
  | _ + 1, [] => none
  | offset + 1, item :: rest =>
      if size item ≤ offset + 1 then
        (cut? size (offset + 1 - size item) rest).map fun (before, after) => (item :: before, after)
      else none

/-- The items from one offset to another. -/
def slice? (size : Item → Nat) (items : List Item) (start stop : Nat) : Option (List Item) :=
  if start ≤ stop then do
    let (within, _) ← cut? size stop items
    let (_, part) ← cut? size start within
    return part
  else none

theorem cut?_eq_some_iff (positive : ∀ item, 0 < size item) :
    cut? size offset items = some (before, after) ↔
      items = before ++ after ∧ total size before = offset := by
  fun_induction cut? size offset items generalizing before after with
  | case1 items =>
      rw [Option.some.injEq, Prod.mk.injEq]
      constructor
      · rintro ⟨rfl, rfl⟩
        exact ⟨rfl, rfl⟩
      · rintro ⟨rfl, empty⟩
        cases before with
        | nil => exact ⟨rfl, rfl⟩
        | cons item rest =>
            have here := positive item
            rw [total_cons] at empty
            omega
  | case2 offset =>
      refine iff_of_false nofun ?_
      rintro ⟨whole, reached⟩
      rw [(List.append_eq_nil_iff.mp whole.symm).1] at reached
      cases reached
  | case3 offset item rest fits ih =>
      rw [Option.map_eq_some_iff]
      constructor
      · rintro ⟨⟨inner, tail⟩, cut, same⟩
        cases same
        obtain ⟨rfl, reached⟩ := ih.mp cut
        refine ⟨rfl, ?_⟩
        rw [total_cons, reached]
        omega
      · rintro ⟨whole, reached⟩
        cases before with
        | nil => cases reached
        | cons first inner =>
            cases whole
            rw [total_cons] at reached
            exact ⟨(inner, after), ih.mpr ⟨rfl, by omega⟩, rfl⟩
  | case4 offset item rest across =>
      refine iff_of_false nofun ?_
      rintro ⟨whole, reached⟩
      cases before with
      | nil => cases reached
      | cons first inner =>
          cases whole
          rw [total_cons] at reached
          omega

/-- A slice is there exactly if its offsets are in order and stand between items. -/
theorem slice?_eq_some_iff (positive : ∀ item, 0 < size item) :
    slice? size items start stop = some part ↔
      ∃ before after, items = before ++ part ++ after ∧ total size before = start ∧
        start + total size part = stop := by
  unfold slice?
  constructor
  · intro sliced
    split at sliced
    · obtain ⟨⟨within, after⟩, cut, further⟩ := Option.bind_eq_some_iff.mp sliced
      obtain ⟨⟨before, inner⟩, start, same⟩ := Option.bind_eq_some_iff.mp further
      cases same
      obtain ⟨rfl, reached⟩ := (cut?_eq_some_iff positive).mp cut
      obtain ⟨rfl, rfl⟩ := (cut?_eq_some_iff positive).mp start
      exact ⟨before, after, rfl, rfl, by rw [← reached, total_append]⟩
    · cases sliced
  · rintro ⟨before, after, rfl, rfl, rfl⟩
    have cut : cut? size (total size before + total size part) (before ++ part ++ after) =
        some (before ++ part, after) :=
      (cut?_eq_some_iff positive).mpr ⟨rfl, total_append size before part⟩
    have inner : cut? size (total size before) (before ++ part) = some (before, part) :=
      (cut?_eq_some_iff positive).mpr ⟨rfl, rfl⟩
    rw [if_pos (Nat.le_add_right _ _), cut]
    simp only [Option.bind_eq_bind, Option.bind_some, inner]
    rfl

/-- A slice does not cut a character of two bytes. -/
example : slice? Char.utf8Size ['a', 'é'] 0 2 = none ∧
    slice? Char.utf8Size ['a', 'é'] 0 3 = some ['a', 'é'] := by decide

/-- Items measured by one each. -/
def single (_ : Item) : Nat := 1

theorem total_single (items : List Item) : total single items = items.length := by
  induction items with
  | nil => rfl
  | cons item rest ih => rw [total_cons, ih, List.length_cons, Nat.add_comm]; rfl

/-- The items from one index to another. -/
def range? (items : List Item) (start stop : Nat) : Option (List Item) :=
  slice? single items start stop

theorem range?_eq_some_iff : range? items start stop = some part ↔
    ∃ before after, items = before ++ part ++ after ∧ before.length = start ∧
      start + part.length = stop := by
  have positive : ∀ item : Item, 0 < single item := fun _ => Nat.one_pos
  simp only [range?, slice?_eq_some_iff positive, total_single]

theorem range?_between (before part after : List Item) :
    range? (before ++ part ++ after) before.length (before.length + part.length) = some part :=
  range?_eq_some_iff.mpr ⟨before, after, rfl, rfl, rfl⟩

theorem range?_to_end (within : start ≤ items.length) :
    range? items start items.length = some (items.drop start) := by
  refine range?_eq_some_iff.mpr ⟨items.take start, [], ?_, ?_, ?_⟩
  · rw [List.append_nil, List.take_append_drop]
  · rw [List.length_take, Nat.min_eq_left within]
  · rw [List.length_drop]
    omega

/-- Changes the items from one index to another where they stand. -/
def changeRange? (change : Item → Item) (items : List Item) (start stop : Nat) :
    Option (List Item) :=
  (range? items start stop).map fun part =>
    items.take start ++ part.map change ++ items.drop stop

theorem changeRange?_between (change : Item → Item) (before part after : List Item) :
    changeRange? change (before ++ part ++ after) before.length (before.length + part.length) =
      some (before ++ part.map change ++ after) := by
  rw [changeRange?, range?_between, Option.map_some, ← List.length_append, List.drop_left,
    List.append_assoc before part after, List.take_left]

end Slices

end CheckedSql
