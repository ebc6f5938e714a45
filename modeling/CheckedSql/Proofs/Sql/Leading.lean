import CheckedSql.Sql.LeadingKeyword
import CheckedSql.Proofs.Sql.Grammar

namespace CheckedSql.Sql

open Text

/-- A segment that may stand before the keyword: a blank, an opening parenthesis, or a
comment that ends. -/
def Segment.Leads : Segment → Prop
  | .lineComment _ ended => ended = true
  | .blockComment _ closed => closed = true
  | .other char => leadsOver char = true
  | _ => False

instance : (segment : Segment) → Decidable segment.Leads
  | .lineComment _ ended => inferInstanceAs (Decidable (ended = true))
  | .blockComment _ closed => inferInstanceAs (Decidable (closed = true))
  | .other char => inferInstanceAs (Decidable (leadsOver char = true))
  | .literal _ _ | .identifier _ | .operator _ | .named _ | .positional | .colon | .unclosed _ _ =>
      .isFalse id

/-- The texts behind each star and slash, in order. -/
def commentEnds : List Char → List (List Char)
  | [] => []
  | '*' :: '/' :: rest => rest :: commentEnds rest
  | _ :: rest => commentEnds rest

/-- The texts behind the later ends that the block comments of a lead can be given, in
the order in which a reading goes back to them. -/
def laterEnds (rest : List Char) : List Segment → List (List Char)
  | [] => []
  | .blockComment _ _ :: lead =>
      laterEnds rest lead ++ commentEnds (lead.flatMap Segment.text ++ rest)
  | _ :: lead => laterEnds rest lead

/-- Whether this text is read in the place of the rest: no keyword stands at the rest, and
of the texts behind later ends this is the first with one. -/
structure Overruns (lead rest : String) (behind : List Char) : Prop where
  unread : leadingKeyword? rest.toList = none
  first : ∃ passed others,
    laterEnds rest.toList (split lead.toList) = passed ++ behind :: others ∧
      ∀ text ∈ passed, leadingKeyword? text = none

section Readings

variable {segment : Segment} {segments : List Segment} {body rest : List Char}

theorem commentEnds_next {char : Char} (opens : ¬ (char = '*' ∧ rest.head? = some '/')) :
    commentEnds (char :: rest) = commentEnds rest := by
  refine commentEnds.eq_3 char rest fun further star slash => opens ⟨star, ?_⟩
  rw [slash]
  rfl

theorem commentEnds_closed (opened : ¬ ClosesComment body) (rest : List Char) :
    commentEnds (body ++ '*' :: '/' :: rest) = rest :: commentEnds rest := by
  induction body with
  | nil => rfl
  | cons char body ih =>
      rw [closesComment_cons, not_or] at opened
      have passes : ¬ (char = '*' ∧ (body ++ '*' :: '/' :: rest).head? = some '/') := by
        cases body with
        | nil => simp
        | cons next body => simpa using opened.1
      rw [List.cons_append, commentEnds_next passes, ih opened.2]

/-- In a comment, and after a star in one, a keyword is looked for behind each end. -/
theorem keywordFrom_comment (text : List Char) :
    keywordFrom .block text = (commentEnds text).findSome? (keywordFrom .lead) ∧
      keywordFrom .star text = (commentEnds ('*' :: text)).findSome? (keywordFrom .lead) := by
  induction text with
  | nil => exact ⟨rfl, rfl⟩
  | cons char rest ih =>
      obtain ⟨block, star⟩ := ih
      constructor
      · rw [keywordFrom]
        split
        · rename_i same
          rw [star, same]
        · rename_i different
          rw [block, commentEnds_next fun opens => different opens.1]
      · rw [keywordFrom]
        split
        · rename_i same
          rw [same, commentEnds, List.findSome?_cons, block]
          cases keywordFrom .lead rest <;> rfl
        · rename_i passing
          have passes : commentEnds ('*' :: char :: rest) = commentEnds (char :: rest) :=
            commentEnds_next fun opens => passing (Option.some.inj opens.2)
          split
          · rename_i same
            rw [star, passes, same]
          · rename_i different
            rw [block, passes, commentEnds_next fun opens => different opens.1]

theorem keywordFrom_line (unended : '\n' ∉ body) (rest : List Char) :
    keywordFrom .line (body ++ '\n' :: rest) = keywordFrom .lead rest := by
  induction body with
  | nil => rfl
  | cons char body ih =>
      rw [List.mem_cons, not_or] at unended
      rw [List.cons_append, keywordFrom, if_neg (Ne.symm unended.1), ih unended.2]

theorem keywordFrom_closed (opened : ¬ ClosesComment body) (rest : List Char) :
    keywordFrom .block (body ++ '*' :: '/' :: rest) =
      (keywordFrom .lead rest).or ((commentEnds rest).findSome? (keywordFrom .lead)) := by
  rw [(keywordFrom_comment _).1, commentEnds_closed opened, List.findSome?_cons]
  cases keywordFrom .lead rest <;> rfl

/-- A keyword is looked for behind the lead first, and then behind the later ends of its
comments. -/
theorem keywordFrom_leads (legal : ∀ segment ∈ segments, segment.Legal)
    (leads : ∀ segment ∈ segments, segment.Leads) (rest : List Char) :
    keywordFrom .lead (segments.flatMap Segment.text ++ rest) =
      (keywordFrom .lead rest).or ((laterEnds rest segments).findSome? (keywordFrom .lead)) := by
  induction segments with
  | nil => exact Option.or_none.symm
  | cons segment segments ih =>
      obtain ⟨isLegal, legal⟩ := List.forall_mem_cons.mp legal
      obtain ⟨isLead, leads⟩ := List.forall_mem_cons.mp leads
      have further := ih legal leads
      rw [List.flatMap_cons, List.append_assoc]
      cases segment with
      | lineComment body ended =>
          cases isLead
          have behind := keywordFrom_line isLegal (segments.flatMap Segment.text ++ rest)
          simpa [Segment.text, keywordFrom, leadsOver, isBlank, inRanges, blankRanges, laterEnds,
            further] using behind
      | blockComment body closed =>
          cases isLead
          have behind := keywordFrom_closed isLegal (segments.flatMap Segment.text ++ rest)
          rw [further, Option.or_assoc, ← List.findSome?_append] at behind
          simpa [Segment.text, keywordFrom, leadsOver, isBlank, inRanges, blankRanges, laterEnds]
            using behind
      | other char => exact (if_pos isLead).trans further
      | _ => cases isLead

end Readings

/-- A text has a kind if it opens with a keyword of that kind. -/
theorem StatementKind.ofText_eq_ok_iff {text : String} {kind : StatementKind} :
    ofText text = .ok kind ↔ ∃ letters, leadingKeyword? text.toList = some letters ∧
      ofKeyword? (String.ofList (letters.map Char.toUpper)) = some kind := by
  unfold ofText
  cases leadingKeyword? text.toList with
  | none => simp
  | some letters =>
      dsimp only
      cases found : ofKeyword? (String.ofList (letters.map Char.toUpper)) <;> simp [found]

/-- The keyword of a text behind a lead is its own, or else that of the text that the
reading goes back to. -/
theorem leadingKeyword?_leads {lead : String} (rest : String)
    (leads : ∀ segment ∈ split lead.toList, segment.Leads) {letters : List Char} :
    leadingKeyword? (lead ++ rest).toList = some letters ↔
      leadingKeyword? rest.toList = some letters ∨
        ∃ behind, Overruns lead rest behind ∧ leadingKeyword? behind = some letters := by
  have read := keywordFrom_leads (legal_of_segmented (segmented_split lead.toList)) leads rest.toList
  rw [split_flatMap_text] at read
  simp only [leadingKeyword?, KeywordReadings.lead_ofText, String.toList_append, read,
    Option.or_eq_some_iff, List.findSome?_eq_some_iff]
  refine or_congr_right ⟨?_, ?_⟩
  · rintro ⟨unread, passed, behind, others, parts, found, unkeyed⟩
    refine ⟨behind, ⟨?_, passed, others, parts, ?_⟩, found⟩
    · exact (KeywordReadings.lead_ofText _).trans unread
    · exact fun text member => (KeywordReadings.lead_ofText _).trans (unkeyed text member)
  · rintro ⟨behind, ⟨unread, passed, others, parts, unkeyed⟩, found⟩
    refine ⟨(KeywordReadings.lead_ofText _).symm.trans unread, passed, behind, others, parts, found,
      fun text member => (KeywordReadings.lead_ofText _).symm.trans (unkeyed text member)⟩

/-- A statement has the kind that stands behind its lead. Where no keyword stands there, it
has the kind of the text that the reading goes back to. -/
theorem kind_behind_lead {lead : String} (rest : String)
    (leads : ∀ segment ∈ split lead.toList, segment.Leads) (kind : StatementKind) :
    StatementKind.ofText (lead ++ rest) = .ok kind ↔
      StatementKind.ofText rest = .ok kind ∨
        ∃ behind, Overruns lead rest behind ∧
          StatementKind.ofText (String.ofList behind) = .ok kind := by
  simp only [StatementKind.ofText_eq_ok_iff, leadingKeyword?_leads rest leads, String.toList_ofList]
  constructor
  · rintro ⟨letters, found | ⟨behind, overruns, found⟩, kinded⟩
    · exact .inl ⟨letters, found, kinded⟩
    · exact .inr ⟨behind, overruns, letters, found, kinded⟩
  · rintro (⟨letters, found, kinded⟩ | ⟨behind, overruns, letters, found, kinded⟩)
    · exact ⟨letters, .inl found, kinded⟩
    · exact ⟨letters, .inr ⟨behind, overruns, found⟩, kinded⟩

/-- Comments of both sorts, one with a star and slash in it, and a parenthesis. -/
theorem kind_behind_lead_commented :
    let lead := "-- a */\n(/* b -- */ "
    let rest := "INSERT INTO song (id) VALUES (1) /* c */"
    (∀ segment ∈ split lead.toList, segment.Leads) ∧ StatementKind.ofText rest = .ok .insert ∧
      StatementKind.ofText (lead ++ rest) = .ok .insert := by
  intro lead rest
  have leads : ∀ segment ∈ split lead.toList, segment.Leads := by decide +kernel
  have kinded : StatementKind.ofText rest = .ok .insert := by decide +kernel
  exact ⟨leads, kinded, (kind_behind_lead rest leads .insert).mpr (.inl kinded)⟩

/-- A text without a kind has one behind a comment, since a star and a slash in it end the
comment late. -/
theorem comment_overruns :
    let lead := "/* a */ "
    let rest := "1 */ SELECT 1"
    (∀ segment ∈ split lead.toList, segment.Leads) ∧
      (∀ kind, StatementKind.ofText rest ≠ .ok kind) ∧
      StatementKind.ofText (lead ++ rest) = .ok .read := by
  intro lead rest
  refine ⟨by decide +kernel, fun kind kinded => ?_, by decide +kernel⟩
  obtain ⟨letters, found, _⟩ := StatementKind.ofText_eq_ok_iff.mp kinded
  have unkeyed : leadingKeyword? rest.toList = none := by decide +kernel
  cases unkeyed.symm.trans found

end CheckedSql.Sql
