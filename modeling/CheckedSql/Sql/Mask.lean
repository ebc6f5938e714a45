import CheckedSql.Sql.Segment
import CheckedSql.Fault

namespace CheckedSql.Sql

open Text

def blanked : List Char → List Char
  | [] => []
  | '\n' :: rest => '\n' :: blanked rest
  | char :: rest => List.replicate char.utf8Size ' ' ++ blanked rest

theorem byteSize_replicate_blank (count : Nat) : byteSize (List.replicate count ' ') = count := by
  induction count with
  | zero => rfl
  | succ count ih =>
      simp only [List.replicate_succ, byteSize, ih]
      exact Nat.add_comm 1 count

theorem byteSize_blanked (text : List Char) : byteSize (blanked text) = byteSize text := by
  fun_induction blanked text with
  | case1 => rfl
  | case2 rest ih => simp only [byteSize, ih]
  | case3 char rest notNewline ih =>
      rw [byteSize_append, byteSize_replicate_blank, ih, byteSize]

namespace Segment

def masked : Segment → List Char
  | .literal quote body => quote :: blanked body ++ [quote]
  | .lineComment body ended => blanked (Segment.lineComment body ended).text
  | .blockComment body closed => blanked (Segment.blockComment body closed).text
  | segment => segment.text

theorem byteSize_masked (segment : Segment) : byteSize segment.masked = segment.size := by
  cases segment with
  | literal quote body =>
      simp only [masked, size, text, List.cons_append, byteSize, byteSize_append, byteSize_blanked]
  | lineComment body ended => exact byteSize_blanked _
  | blockComment body closed => exact byteSize_blanked _
  | _ => rfl

end Segment

def maskFrom (offset : Nat) : List Segment → Except Fault (List Char)
  | [] => .ok []
  | .unclosed _ _ :: _ => .error (.malformedQuery offset .unclosedQuote)
  | segment :: rest => (maskFrom (offset + segment.size) rest).map (segment.masked ++ ·)

/-- The masked text; a quote that is never closed is the only fault. -/
def mask (text : List Char) : Except Fault (List Char) :=
  maskFrom 0 (split text)

theorem byteSize_maskFrom {offset : Nat} {segments : List Segment} {masked : List Char}
    (accepted : maskFrom offset segments = .ok masked) :
    byteSize masked = byteSize (segments.flatMap Segment.text) := by
  fun_induction maskFrom offset segments generalizing masked with
  | case1 => cases accepted; rfl
  | case2 => cases accepted
  | case3 offset segment rest _ ih =>
      cases tail : maskFrom (offset + segment.size) rest with
      | error fault => simp [tail, Except.map] at accepted
      | ok restMasked =>
          simp only [tail, Except.map, Except.ok.injEq] at accepted
          subst accepted
          rw [byteSize_append, List.flatMap_cons, byteSize_append, ih tail,
            Segment.byteSize_masked]
          rfl

theorem byteSize_mask {text masked : List Char} (accepted : mask text = .ok masked) :
    byteSize masked = byteSize text := by
  rw [byteSize_maskFrom accepted, split_flatMap_text]

end CheckedSql.Sql
