namespace CheckedSql.Text

/-- The Unicode property White_Space. -/
def blankRanges : List (Nat × Nat) :=
  [(0x09, 0x0D), (0x20, 0x20), (0x85, 0x85), (0xA0, 0xA0), (0x1680, 0x1680),
    (0x2000, 0x200A), (0x2028, 0x2029), (0x202F, 0x202F), (0x205F, 0x205F), (0x3000, 0x3000)]

def inRanges (ranges : List (Nat × Nat)) (char : Char) : Bool :=
  ranges.any fun range => range.1 ≤ char.toNat && char.toNat ≤ range.2

def isBlank (char : Char) : Bool :=
  inRanges blankRanges char

/-- `Char.isWhitespace` knows ASCII only; nothing of the narrower class is lost. -/
theorem isBlank_of_isWhitespace {char : Char} (white : char.isWhitespace = true) :
    isBlank char = true := by
  simp only [Char.isWhitespace, Bool.or_eq_true, decide_eq_true_eq] at white
  rcases white with ((rfl | rfl) | rfl) | rfl <;> decide

/-- A text is blank if it holds blank characters only; the empty text is blank. -/
def allBlank (text : List Char) : Bool :=
  text.all isBlank

/-- The first run of characters that are not blank, empty for a blank text. -/
def firstWord (text : List Char) : List Char :=
  (text.dropWhile isBlank).takeWhile fun char => !isBlank char

/-- A name in small letters. Letters outside ASCII keep their case. -/
def foldCase (name : String) : List Char :=
  name.toList.map Char.toLower

def SameName (left right : String) : Prop :=
  foldCase left = foldCase right

instance (left right : String) : Decidable (SameName left right) :=
  inferInstanceAs (Decidable (foldCase left = foldCase right))

theorem SameName.refl (name : String) : SameName name name := rfl

theorem SameName.symm {left right : String} (same : SameName left right) :
    SameName right left := Eq.symm same

theorem SameName.trans {first second third : String} (left : SameName first second)
    (right : SameName second third) : SameName first third := Eq.trans left right

def upper (name : String) : String :=
  String.ofList (name.toList.map Char.toUpper)

def lower (name : String) : String :=
  String.ofList (foldCase name)

theorem foldCase_lower (name : String) : foldCase (lower name) = (foldCase name).map Char.toLower := by
  simp only [lower, foldCase, String.toList_ofList]

def isNameStart (char : Char) : Bool :=
  char.isAlpha || char == '_'

def isNamePart (char : Char) : Bool :=
  char.isAlphanum || char == '_'

theorem isNamePart_of_isNameStart {char : Char} (start : isNameStart char = true) :
    isNamePart char = true := by
  simp only [isNameStart, isNamePart, Char.isAlphanum, Bool.or_eq_true] at start ⊢
  exact start.imp_left Or.inl

/-- The number of bytes that a text takes in UTF-8. Offsets count these bytes. -/
def byteSize : List Char → Nat
  | [] => 0
  | char :: rest => char.utf8Size + byteSize rest

theorem byteSize_append (left right : List Char) :
    byteSize (left ++ right) = byteSize left + byteSize right := by
  induction left with
  | nil => simp [byteSize]
  | cons char rest ih => simp [byteSize, ih, Nat.add_assoc]

end CheckedSql.Text
