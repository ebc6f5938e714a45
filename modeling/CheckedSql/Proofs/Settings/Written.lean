import CheckedSql.Proofs.Settings.Loading

namespace CheckedSql.Toml

open Rule

/-- Digits of which the first is not zero. -/
structure Numeral (first : Char) (digits : List Char) : Prop where
  each : ∀ digit ∈ first :: digits, digit.isDigit = true
  nonzero : first ≠ '0'

section Digits

variable {first : Char} {digits tail : List Char}

theorem digitRun_line (each : ∀ digit ∈ digits, digit.isDigit = true) :
    digitRun Char.isDigit (digits ++ '\n' :: tail) = (digits, '\n' :: tail) := by
  induction digits with
  | nil => rw [List.nil_append, digitRun] <;> simp
  | cons digit digits ih =>
      obtain ⟨first, others⟩ := List.forall_mem_cons.mp each
      have plain : digit ≠ '_' := by
        rintro rfl
        cases first
      rw [List.cons_append, digitRun.eq_4 _ _ _ (by simp [plain]) (by simp [plain]), if_pos first,
        ih others]

theorem times_line (each : ∀ digit ∈ digits, digit.isDigit = true) (count : Nat) :
    (times Char.isDigit count).read (digits ++ '\n' :: tail) = none ∨
      ∃ taken, (times Char.isDigit count).read (digits ++ '\n' :: tail) =
        some (taken, digits.drop count ++ '\n' :: tail) := by
  induction count generalizing digits with
  | zero => exact .inr ⟨[], rfl⟩
  | succ count ih =>
      have next : times Char.isDigit (count + 1) = char Char.isDigit >>= fun first =>
          times Char.isDigit count >>= fun rest => pure (first :: rest) := rfl
      rw [next]
      cases digits with
      | nil => exact .inl rfl
      | cons digit digits =>
          obtain ⟨first, others⟩ := List.forall_mem_cons.mp each
          rw [List.cons_append, read_bind_of_some (read_char_of first), List.drop_succ_cons]
          rcases ih others with missed | ⟨taken, found⟩
          · exact .inl (read_bind_of_none missed)
          · exact .inr ⟨digit :: taken, read_bind_of_some found⟩

/-- No sign stands in a line of digits. -/
theorem word_line {sign : Char} (each : ∀ digit ∈ digits, digit.isDigit = true)
    (other : sign.isDigit = false) (inLine : sign ≠ '\n') (signs : List Char) :
    (word (sign :: signs)).read (digits ++ '\n' :: tail) = none := by
  cases digits with
  | nil => exact read_word_of_ne inLine.symm signs
  | cons digit digits =>
      refine read_word_of_ne ?_ signs
      rintro rfl
      rw [each digit List.mem_cons_self] at other
      cases other

theorem date_line (each : ∀ digit ∈ digits, digit.isDigit = true) :
    date.read (digits ++ '\n' :: tail) = none := by
  have dropped : ∀ digit ∈ digits.drop 4, digit.isDigit = true :=
    fun digit member => each digit (List.mem_of_mem_drop member)
  rcases times_line each 4 with missed | ⟨year, found⟩
  · exact read_bind_of_none missed
  · rw [date, read_bind_of_some found]
    exact read_bind_of_none (word_line dropped (by decide) (by decide) [])

theorem twoDigits_line (each : ∀ digit ∈ digits, digit.isDigit = true) (least greatest : Nat) :
    (twoDigits least greatest).read (digits ++ '\n' :: tail) = none ∨
      ∃ value, (twoDigits least greatest).read (digits ++ '\n' :: tail) =
        some (value, digits.drop 2 ++ '\n' :: tail) := by
  rcases times_line each 2 with missed | ⟨taken, found⟩
  · exact .inl (read_bind_of_none missed)
  · rw [twoDigits, read_bind_of_some found]
    dsimp only
    cases decide (least ≤ numberOf 10 taken) && decide (numberOf 10 taken ≤ greatest) with
    | true => exact .inr ⟨_, rfl⟩
    | false => exact .inl rfl

theorem timeOfDay_line (each : ∀ digit ∈ digits, digit.isDigit = true) :
    timeOfDay.read (digits ++ '\n' :: tail) = none := by
  have dropped : ∀ digit ∈ digits.drop 2, digit.isDigit = true :=
    fun digit member => each digit (List.mem_of_mem_drop member)
  rcases twoDigits_line each 0 23 with missed | ⟨hour, found⟩
  · exact read_bind_of_none missed
  · rw [timeOfDay, read_bind_of_some found]
    exact read_bind_of_none (word_line dropped (by decide) (by decide) [])

theorem dateTime_line (each : ∀ digit ∈ digits, digit.isDigit = true) :
    dateTime.read (digits ++ '\n' :: tail) = none := by
  rw [dateTime, read_or_of_none (read_bind_of_none (date_line each))]
  exact timeOfDay_line each

theorem sign_line (each : ∀ digit ∈ digits, digit.isDigit = true) :
    sign.read (digits ++ '\n' :: tail) = some (false, digits ++ '\n' :: tail) := by
  rw [sign, read_or_of_none (read_bind_of_none (word_line each (by decide) (by decide) [])),
    read_or_of_none (read_bind_of_none (word_line each (by decide) (by decide) []))]
  rfl

theorem wholeDigits_line (numeral : Numeral first digits) :
    wholeDigits.read (first :: digits ++ '\n' :: tail) = some (first :: digits, '\n' :: tail) := by
  obtain ⟨leads, others⟩ := List.forall_mem_cons.mp numeral.each
  have run : (furtherDigits Char.isDigit).read (digits ++ '\n' :: tail) =
      some (digits, '\n' :: tail) := congrArg some (digitRun_line others)
  refine read_or_of_some ?_
  rw [List.cons_append, read_bind_of_some (read_char_of (by simp [leads, numeral.nonzero]))]
  exact read_bind_of_some run

theorem real_line (numeral : Numeral first digits) :
    real.read (first :: digits ++ '\n' :: tail) = none := by
  have decimal : decimalReal.read (first :: digits ++ '\n' :: tail) = none := by
    rw [decimalReal, read_bind_of_some (sign_line numeral.each),
      read_bind_of_some (wholeDigits_line numeral)]
    rfl
  rw [real, read_or_of_none decimal, specialReal, read_bind_of_some (sign_line numeral.each),
    read_or_of_none (word_line numeral.each (by decide) (by decide) ['n', 'f'])]
  exact word_line numeral.each (by decide) (by decide) ['a', 'n']

theorem string_line (each : ∀ digit ∈ digits, digit.isDigit = true) :
    string.read (digits ++ '\n' :: tail) = none := by
  have lines (quote : Char) (escapes : Bool) (other : quote.isDigit = false)
      (inLine : quote ≠ '\n') :
      (quotedLines quote escapes).read (digits ++ '\n' :: tail) = none :=
    read_bind_of_none (word_line each other inLine _)
  have line (quote : Char) (escapes : Bool) (other : quote.isDigit = false)
      (inLine : quote ≠ '\n') :
      (quotedLine quote escapes).read (digits ++ '\n' :: tail) = none :=
    read_bind_of_none (word_line each other inLine _)
  rw [string, read_or_of_none (lines '"' true (by decide) (by decide)),
    read_or_of_none (lines '\'' false (by decide) (by decide)), lineString,
    read_or_of_none (line '"' true (by decide) (by decide))]
  exact line '\'' false (by decide) (by decide)

theorem integer_line (numeral : Numeral first digits)
    (fits : isWord64 (numberOf 10 (first :: digits)) = true) :
    integer.read (first :: digits ++ '\n' :: tail) =
      some (↑(numberOf 10 (first :: digits)), '\n' :: tail) := by
  have based (mark : Char) (base : Nat) (accepts : Char → Bool) :
      (basedInteger mark base accepts).read (first :: digits ++ '\n' :: tail) = none :=
    read_bind_of_none (read_word_of_ne numeral.nonzero _)
  have decimal : decimalInteger.read (first :: digits ++ '\n' :: tail) =
      some (↑(numberOf 10 (first :: digits)), '\n' :: tail) := by
    rw [decimalInteger, read_bind_of_some (sign_line numeral.each)]
    exact read_bind_of_some (wholeDigits_line numeral)
  have any := (read_or_of_none (based 'x' 16 fun char => (hexDigit? char).isSome)).trans
    ((read_or_of_none (based 'o' 8 fun char => '0' ≤ char && char ≤ '7')).trans
      ((read_or_of_none (based 'b' 2 fun char => char == '0' || char == '1')).trans decimal))
  have held : (Rule.when (isWord64 (numberOf 10 (first :: digits)))).read ('\n' :: tail) =
      some ((), '\n' :: tail) := by
    rw [Rule.when, if_pos fits]
    rfl
  rw [integer, read_bind_of_some any]
  exact read_bind_of_some held

/-- Digits up to the end of a line are an integer. -/
theorem simpleItem_line (numeral : Numeral first digits)
    (fits : isWord64 (numberOf 10 (first :: digits)) = true) :
    simpleItem.read (first :: digits ++ '\n' :: tail) =
      some (.integer ↑(numberOf 10 (first :: digits)), '\n' :: tail) := by
  rw [simpleItem, read_or_of_none (read_bind_of_none (string_line numeral.each)),
    read_or_of_none (read_bind_of_none (dateTime_line numeral.each)),
    read_or_of_none (read_bind_of_none (real_line numeral))]
  exact read_or_of_some (read_bind_of_some (integer_line numeral fits))

end Digits

section Lines

variable {first lead : Char} {digits name tail text rest : List Char}

theorem separated_single {Kind : Type} {separator next : Char} {item : Rule Kind} {value : Kind}
    (found : item.read text = some (value, next :: rest)) (other : next ≠ separator) :
    (separated separator item).read text = some ([value], next :: rest) := by
  change readSeparated separator item text = _
  unfold readSeparated
  split
  · rename_i missed
    rw [found] at missed
    cases missed
  · rename_i ended
    rw [found] at ended
    cases ended
  · rename_i reached
    rw [found] at reached
    cases reached
    exact if_neg other

theorem gap_of_not {next : Char} (unlike : isGap next = false) (rest : List Char) :
    gap.read (next :: rest) = some ((), next :: rest) := by
  have kept : (next :: rest).dropWhile isGap = next :: rest :=
    List.dropWhile_cons_of_neg (by simp [unlike])
  exact congrArg (fun rest => some ((), rest)) kept

theorem isGap_eq_false (accepts : Char → Bool) (blank : accepts ' ' = false)
    (tab : accepts '\t' = false) {next : Char} (accepted : accepts next = true) :
    isGap next = false := by
  refine eq_false_of_ne_true fun gap => ?_
  rcases Bool.or_eq_true_iff.mp gap with same | same
  · rw [eq_of_beq same, blank] at accepted
    cases accepted
  · rw [eq_of_beq same, tab] at accepted
    cases accepted

theorem keyPart_line (bare : ∀ char ∈ lead :: name, isBareKeyPart char = true) :
    keyPart.read (lead :: name ++ ' ' :: '=' :: rest) =
      some (String.ofList (lead :: name), '=' :: rest) := by
  obtain ⟨leads, others⟩ := List.forall_mem_cons.mp bare
  have unquoted : lineString.read (lead :: name ++ ' ' :: '=' :: rest) = none := by
    have double : lead ≠ '"' := by
      rintro rfl
      cases leads
    have single : lead ≠ '\'' := by
      rintro rfl
      cases leads
    exact (read_or_of_none (read_bind_of_none (read_word_of_ne double []))).trans
      (read_bind_of_none (read_word_of_ne single []))
  have run : (Rule.run isBareKeyPart).read (name ++ ' ' :: '=' :: rest) =
      some (name, ' ' :: '=' :: rest) := by
    have taken : (name ++ ' ' :: '=' :: rest).takeWhile isBareKeyPart = name := by
      rw [List.takeWhile_append_of_pos others]
      exact List.append_nil name
    have dropped : (name ++ ' ' :: '=' :: rest).dropWhile isBareKeyPart = ' ' :: '=' :: rest :=
      List.dropWhile_append_of_pos others
    exact congrArg some (Prod.ext taken dropped)
  have part : (lineString <|> (Rule.char isBareKeyPart >>= fun first =>
      Rule.run isBareKeyPart >>= fun rest => pure (String.ofList (first :: rest)))).read
        (lead :: name ++ ' ' :: '=' :: rest) =
          some (String.ofList (lead :: name), ' ' :: '=' :: rest) := by
    rw [read_or_of_none unquoted, List.cons_append, read_bind_of_some (read_char_of leads)]
    exact read_bind_of_some run
  have begins := gap_of_not (isGap_eq_false isBareKeyPart rfl rfl leads)
    (name ++ ' ' :: '=' :: rest)
  rw [keyPart, List.cons_append, read_bind_of_some begins, ← List.cons_append,
    read_bind_of_some part]
  rfl

theorem pair_numeral (bare : ∀ char ∈ lead :: name, isBareKeyPart char = true)
    (numeral : Numeral first digits)
    (fits : isWord64 (numberOf 10 (first :: digits)) = true) :
    (pair (value nestingLimit)).read
        (lead :: name ++ ' ' :: '=' :: ' ' :: (first :: digits ++ '\n' :: tail)) =
      some (⟨[String.ofList (lead :: name)], .integer ↑(numberOf 10 (first :: digits))⟩,
        '\n' :: tail) := by
  have keyed : key.read
      (lead :: name ++ ' ' :: '=' :: ' ' :: (first :: digits ++ '\n' :: tail)) =
        some ([String.ofList (lead :: name)], '=' :: ' ' :: (first :: digits ++ '\n' :: tail)) := by
    rw [key, read_bind_of_some (separated_single (keyPart_line bare) (by decide))]
    rfl
  have equals : (word ['=']).read ('=' :: ' ' :: (first :: digits ++ '\n' :: tail)) =
      some ((), ' ' :: (first :: digits ++ '\n' :: tail)) := rfl
  have unlike : isGap first = false :=
    isGap_eq_false Char.isDigit rfl rfl (numeral.each first List.mem_cons_self)
  have spaced : gap.read (' ' :: (first :: digits ++ '\n' :: tail)) =
      some ((), first :: digits ++ '\n' :: tail) := gap_of_not unlike _
  have item : (value nestingLimit).read (first :: digits ++ '\n' :: tail) = _ :=
    read_or_of_some (simpleItem_line numeral fits)
  rw [pair, read_bind_of_some keyed, read_bind_of_some equals, read_bind_of_some spaced,
    read_bind_of_some item]
  rfl

/-- A line that gives a numeral to a bare key. -/
theorem line_numeral (bare : ∀ char ∈ lead :: name, isBareKeyPart char = true)
    (numeral : Numeral first digits)
    (fits : isWord64 (numberOf 10 (first :: digits)) = true) :
    line.read (lead :: name ++ ' ' :: '=' :: ' ' :: (first :: digits ++ '\n' :: tail)) =
      some (.pair ⟨[String.ofList (lead :: name)], .integer ↑(numberOf 10 (first :: digits))⟩,
        '\n' :: tail) := by
  have leads : isBareKeyPart lead = true := bare lead List.mem_cons_self
  have headless : header.read
      (lead :: name ++ ' ' :: '=' :: ' ' :: (first :: digits ++ '\n' :: tail)) = none := by
    have bracket : lead ≠ '[' := by
      rintro rfl
      cases leads
    exact (read_or_of_none (read_bind_of_none (read_word_of_ne bracket ['[']))).trans
      (read_bind_of_none (read_word_of_ne bracket []))
  have found : ((header >>= fun found => pure (Line.header found)) <|>
      (pair (value nestingLimit) >>= fun found => pure (Line.pair found)) <|>
      Rule.yield Line.blank).read
        (lead :: name ++ ' ' :: '=' :: ' ' :: (first :: digits ++ '\n' :: tail)) = _ :=
    (read_or_of_none (read_bind_of_none headless)).trans
      (read_or_of_some (read_bind_of_some (pair_numeral bare numeral fits)))
  have begins := gap_of_not (isGap_eq_false isBareKeyPart rfl rfl leads)
    (name ++ ' ' :: '=' :: ' ' :: (first :: digits ++ '\n' :: tail))
  rw [line, List.cons_append, read_bind_of_some begins, ← List.cons_append,
    read_bind_of_some found]
  rfl

theorem readLines_cons {text rest : List Char} {first : Line}
    (found : line.read text = some (first, '\n' :: rest)) :
    readLines text = (readLines rest).map (first :: ·) := by
  rw [readLines.eq_def]
  split <;> simp_all

end Lines

section Decimal

theorem hexDigit?_of_isDigit {digit : Char} (decimal : digit.isDigit = true) :
    hexDigit? digit = some (digit.toNat - '0'.toNat) :=
  if_pos decimal

theorem numberOf_toDigits (number : Nat) : numberOf 10 (Nat.toDigits 10 number) = number := by
  have each : ∀ digit ∈ Nat.toDigits 10 number, digit.isDigit = true :=
    fun digit member => Nat.isDigit_of_mem_toDigits (by decide) (by decide) member
  have same : numberOf 10 (Nat.toDigits 10 number) =
      Nat.ofDigitChars 10 (Nat.toDigits 10 number) 0 :=
    List.foldl_ext _ _ _ fun value digit member => by
      rw [hexDigit?_of_isDigit (each digit member)]
      rfl
  rw [same, Nat.ofDigitChars_ten_toDigits]

theorem toDigits_numeral {number : Nat} (positive : 0 < number) :
    ∃ first rest, Nat.toDigits 10 number = first :: rest ∧ Numeral first rest := by
  have leads : ∃ first rest, Nat.toDigits 10 number = first :: rest ∧ first ≠ '0' := by
    induction number using Nat.strongRecOn with
    | ind number ih =>
        by_cases small : number < 10
        · have nonzero : ∀ digit < 10, 0 < digit → digit.digitChar ≠ '0' := by decide
          exact ⟨_, [], Nat.toDigits_of_lt_base small, nonzero number small positive⟩
        · obtain ⟨first, rest, same, nonzero⟩ := ih (number / 10) (by omega) (by omega)
          refine ⟨first, rest ++ [(number % 10).digitChar], ?_, nonzero⟩
          rw [Nat.toDigits_of_base_le (by decide) (by omega), same]
          rfl
  obtain ⟨first, rest, same, nonzero⟩ := leads
  refine ⟨first, rest, same, fun digit member => ?_, nonzero⟩
  exact Nat.isDigit_of_mem_toDigits (by decide) (by decide) (same ▸ member)

end Decimal

end CheckedSql.Toml

namespace CheckedSql

open Toml

def UnusedPolicy.name : UnusedPolicy → String
  | .warn => "warn"
  | .fail => "fail"

namespace Settings

/-- The document that writes every key. -/
def written (settings : Settings) : String :=
  "max_bind_parameters = " ++ toString settings.maxParameters ++
    "\nunused_parameters = \"" ++ settings.unused.name ++ "\""

theorem readLines_policy (policy : UnusedPolicy) :
    readLines ("unused_parameters = \"" ++ policy.name ++ "\"").toList =
      some [.pair ⟨["unused_parameters"], .string policy.name⟩] := by
  -- Lines are read by recursion on their length, which only a full unfolding opens.
  cases policy with
  | warn =>
      change readLines "unused_parameters = \"warn\"".toList = _
      with_unfolding_all rfl
  | fail =>
      change readLines "unused_parameters = \"fail\"".toList = _
      with_unfolding_all rfl

/-- What is written are the lines of the ceiling and of the policy. -/
theorem readLines_written {settings : Settings} (positive : 0 < settings.maxParameters)
    (fits : settings.maxParameters ≤ Int64.maxValue.toInt) :
    readLines settings.written.toList =
      some [.pair ⟨["max_bind_parameters"], .integer settings.maxParameters⟩,
        .pair ⟨["unused_parameters"], .string settings.unused.name⟩] := by
  obtain ⟨maxParameters, unused⟩ := settings
  obtain ⟨first, digits, same, numeral⟩ := toDigits_numeral positive
  dsimp only at same fits positive ⊢
  have value : numberOf 10 (first :: digits) = maxParameters := by
    rw [← same, numberOf_toDigits]
  have least : Int64.minValue.toInt ≤ maxParameters :=
    Int.le_trans (by decide) (Int.natCast_nonneg maxParameters)
  have held : isWord64 (numberOf 10 (first :: digits)) = true := by
    rw [value]
    exact Bool.and_eq_true_iff.mpr ⟨decide_eq_true least, decide_eq_true fits⟩
  have text : (written ⟨maxParameters, unused⟩).toList =
      'm' :: "ax_bind_parameters".toList ++ ' ' :: '=' :: ' ' :: (first :: digits ++
        '\n' :: ("unused_parameters = \"" ++ unused.name ++ "\"").toList) := by
    have decimal : (toString maxParameters).toList = first :: digits := by
      rw [Nat.toString_eq_ofList_toDigits, String.toList_ofList, same]
    have begins : "max_bind_parameters = ".toList =
        'm' :: "ax_bind_parameters".toList ++ [' ', '=', ' '] := by decide
    have broken : "\nunused_parameters = \"".toList = '\n' :: "unused_parameters = \"".toList := by
      decide
    unfold written
    simp only [String.toList_append, decimal, begins, broken, List.append_assoc, List.cons_append,
      List.nil_append]
  have bare : ∀ char ∈ 'm' :: "ax_bind_parameters".toList, isBareKeyPart char = true :=
    List.all_eq_true.mp rfl
  have policy := readLines_policy unused
  rw [text, readLines_cons (line_numeral bare numeral held), policy, value]
  rfl

theorem document?_written {settings : Settings} (positive : 0 < settings.maxParameters)
    (fits : settings.maxParameters ≤ Int64.maxValue.toInt) :
    document? settings.written =
      some [("max_bind_parameters", .integer settings.maxParameters),
        ("unused_parameters", .string settings.unused.name)] := by
  have read := readLines_written positive fits
  obtain ⟨rest, text⟩ : ∃ rest, settings.written.toList = 'm' :: rest := by
    have begins : "max_bind_parameters = ".toList = 'm' :: "ax_bind_parameters = ".toList := by
      decide
    unfold written
    simp only [String.toList_append, begins, List.cons_append]
    exact ⟨_, rfl⟩
  rw [text] at read
  rw [document?, text]
  change (readLines ('m' :: rest)).bind (fun lines =>
    (Entries.ofPairs [] (sections lines).1).bind fun root =>
      (sections lines).2.foldlM (fun entries table => entries.addTable table.1 table.2) root) = _
  rw [read]
  rfl

/-- Settings that are written down are loaded as they were. -/
theorem ofToml_written {settings : Settings} (positive : 0 < settings.maxParameters)
    (fits : settings.maxParameters ≤ Int64.maxValue.toInt) :
    ofToml settings.written = .ok settings := by
  have ceiling : limit? (.integer settings.maxParameters) = some settings.maxParameters := by
    simp [limit?]
  have policy : policy? (.string settings.unused.name) = some settings.unused := by
    cases settings.unused <;> rfl
  exact ofToml_eq_ok_iff.mpr ⟨positive, _, document?_written positive fits,
    .written rfl ceiling, .written rfl policy⟩

end Settings

end CheckedSql
