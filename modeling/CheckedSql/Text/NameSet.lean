namespace CheckedSql.Text

/-! Finite sets of names, kept in the order of their code points.

`names` is the semantic model: it is strictly increasing, so a set has one
representation and lists its members without repetition.
-/

structure NameSet where
  names : List String
  increasing : names.Pairwise (· < ·)

namespace NameSet

theorem ext {left right : NameSet} (same : left.names = right.names) : left = right := by
  cases left; cases right; cases same; rfl

instance : DecidableEq NameSet := fun left right =>
  if same : left.names = right.names then .isTrue (ext same)
  else .isFalse fun equal => same (congrArg names equal)

def empty : NameSet := ⟨[], .nil⟩

instance : Inhabited NameSet := ⟨empty⟩

instance : EmptyCollection NameSet := ⟨empty⟩

instance : Membership String NameSet := ⟨fun set name => name ∈ set.names⟩

theorem mem_iff {set : NameSet} {name : String} : name ∈ set ↔ name ∈ set.names := Iff.rfl

instance (name : String) (set : NameSet) : Decidable (name ∈ set) :=
  inferInstanceAs (Decidable (name ∈ set.names))

private def place (name : String) : List String → List String
  | [] => [name]
  | head :: rest =>
      if name < head then name :: head :: rest
      else if name = head then head :: rest
      else head :: place name rest

private theorem mem_place {name other : String} {names : List String} :
    other ∈ place name names ↔ other = name ∨ other ∈ names := by
  induction names with
  | nil => simp [place]
  | cons head rest ih =>
      simp only [place]
      split
      · simp
      · split
        · rename_i same
          simp [same]
        · simp only [List.mem_cons, ih]
          constructor
          · rintro (left | right | below)
            · exact .inr (.inl left)
            · exact .inl right
            · exact .inr (.inr below)
          · rintro (right | left | below)
            · exact .inr (.inl right)
            · exact .inl left
            · exact .inr (.inr below)

private theorem increasing_place {name : String} {names : List String}
    (increasing : names.Pairwise (· < ·)) : (place name names).Pairwise (· < ·) := by
  induction names with
  | nil => simp [place]
  | cons head rest ih =>
      obtain ⟨least, tail⟩ := List.pairwise_cons.mp increasing
      simp only [place]
      split
      · rename_i before
        refine List.pairwise_cons.mpr ⟨?_, increasing⟩
        intro other member
        rcases List.mem_cons.mp member with same | member
        · exact same ▸ before
        · exact String.lt_trans before (least other member)
      · split
        · exact increasing
        · rename_i notBefore different
          refine List.pairwise_cons.mpr ⟨?_, ih tail⟩
          intro other member
          rcases mem_place.mp member with same | member
          · subst other
            exact Decidable.byContradiction fun notAfter =>
              different (String.le_antisymm (String.not_lt.mp notAfter) (String.not_lt.mp notBefore))
          · exact least other member

def insert (name : String) (set : NameSet) : NameSet :=
  ⟨place name set.names, increasing_place set.increasing⟩

theorem mem_insert {name other : String} {set : NameSet} :
    other ∈ set.insert name ↔ other = name ∨ other ∈ set :=
  mem_place

def ofList (names : List String) : NameSet :=
  names.foldr insert empty

theorem mem_ofList {name : String} {names : List String} : name ∈ ofList names ↔ name ∈ names := by
  induction names with
  | nil => exact Iff.rfl
  | cons head rest ih =>
      simp only [ofList, List.foldr_cons, List.mem_cons]
      exact mem_insert.trans (or_congr_right ih)

def isEmpty (set : NameSet) : Bool :=
  set.names.isEmpty

end NameSet

end CheckedSql.Text
