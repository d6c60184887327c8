import Mathlib
import SchemaCheck.Proofs.Json.Scaled
import SchemaCheck.Proofs.Validation.Literals

/-! Literals in messages are JSON, but for texts with characters that JSON escapes. They are read
back as the literal, but a whole number may be shortened to an integer that is rounded to it. -/
namespace SchemaCheck

namespace Json

/-- The value is the literal, or a number of its value, or an integer that is rounded to it. -/
def StandsFor (value literal : Json) : Prop :=
  value = literal ∨ value.SameScalar literal ∨ value.TakenFor literal

/-- A text is written as it is, so one with characters that JSON escapes is no JSON. -/
def PlainText : Json → Prop
  | .string text => ∀ c ∈ text.toList, PlainChar c
  | _ => True

/-- A text does not hold what stands between two texts where literals are joined. -/
def OnePiece : Json → Prop
  | .string text => ¬ ['"', ',', ' '] <:+: text.toList
  | _ => True

theorem toList_literal_string (text : String) :
    (string text).literal.toList = '"' :: (text.toList ++ ['"']) := by
  simp [literal]

private theorem quoted_of_plain {text : String} (plain : (string text).PlainText) :
    quoted text = (string text).literal.toList := by
  have unescaped : text.toList.flatMap escaped = text.toList :=
    (List.flatMap_congr fun c member => escaped_of_plainChar (plain c member)).trans
      (List.flatMap_singleton' text.toList)
  rw [quoted, unescaped, toList_literal_string]
  rfl

/-- A literal that is no double is read back as itself by a reader that keeps the doubles in it. -/
theorem readsAs_literal {value : Json} {double? : DoubleReader} {depth : Nat}
    (plain : value.PlainText) (exact : ∀ x, value ≠ .number (.double x))
    (kept : value.KeptBy double?) (shallow : value.height ≤ depth) :
    ReadsAs double? depth value.literal.toList value := by
  have composite (text : value.literal = value.compact) :
      ReadsAs double? depth value.literal.toList value := by
    rw [text, compact, String.toList_ofList]
    exact readsAs_compactChars kept shallow
  cases value with
  | null | bool flag | array items | object members => exact composite rfl
  | number number =>
    cases number with
    | integer whole fits => exact readsAs_number depth (readsAsNumber_integer double? whole fits)
    | double x => exact absurd rfl (exact x)
  | string text =>
    rw [← quoted_of_plain plain]
    exact readsAs_string depth text

/-- How a double in a literal is laid out. -/
def literalLayout : Json → NumberLayout
  | .number _ => .message
  | _ => .json

/-- The reader takes the doubles in a literal for what they are nearest to. -/
def ReadNearest (double? : DoubleReader) (value : Json) : Prop :=
  ∀ x ∈ value.doubles, ∀ number,
    ReadsAsNumber nearestDouble? (value.literalLayout.render x).toList number →
      ReadsAsNumber double? (value.literalLayout.render x).toList number

theorem ReadNearest.keptBy {double? : DoubleReader} {value : Json}
    (near : value.ReadNearest double?) (exact : ∀ x, value ≠ .number (.double x)) :
    value.KeptBy double? := by
  intro x inside
  have layout : value.literalLayout = .json := by
    cases value with
    | number number =>
      cases number with
      | integer whole fits => cases inside
      | double y => exact absurd rfl (exact y)
    | null | bool flag | string text | array items | object members => rfl
  have reads := near x inside (.double x)
  rw [layout] at reads
  exact reads (NumberLayout.readsAsNumber_json x)

/-- The text of a literal is read as a value that stands for it. -/
theorem exists_readsAs_literal {value : Json} (distinct : value.Distinct)
    (plain : value.PlainText) :
    ∃ read : Json, read.StandsFor value ∧ read.Distinct ∧
      ∀ double? : DoubleReader, value.ReadNearest double? → ∀ depth, value.height ≤ depth →
        ReadsAs double? depth value.literal.toList read := by
  by_cases double : ∃ x, value = .number (.double x)
  · obtain ⟨x, rfl⟩ := double
    obtain ⟨number, reads, kept⟩ := NumberLayout.readsAsNumber_message x
    refine ⟨.number number, ?_, trivial, fun double? near depth _ => ?_⟩
    · rcases kept with rfl | ⟨whole, fits, rfl, nearest⟩
      · exact .inl rfl
      · by_cases exact : x.value = whole
        · exact .inr (.inl (.number exact.symm))
        · exact .inr (.inr (.intro nearest exact))
    · exact readsAs_number depth (near x (List.mem_singleton_self x) number reads)
  · have other := not_exists.mp double
    refine ⟨value, .inl rfl, distinct, fun double? near depth shallow => ?_⟩
    exact readsAs_literal plain other (near.keptBy other) shallow

/-- No other text is read back: each escape takes more characters than it stands for. -/
private theorem plainText_of_parseWithin? {double? : DoubleReader} {depth : Nat}
    {value read : Json} (stands : read.StandsFor value)
    (parsed : parseWithin? double? depth value.literal = some read) : value.PlainText := by
  cases value with
  | null | bool | number | array | object => trivial
  | string text =>
    obtain rfl : read = string text := by
      rcases stands with same | scalar | taken
      · exact same
      · cases scalar
        rfl
      · cases taken
    rw [parseWithin?, toList_literal_string] at parsed
    obtain ⟨⟨value, rest⟩, first, onward⟩ := Option.bind_eq_some_iff.mp parsed
    obtain ⟨⟨read, after⟩, closed, same⟩ := Option.map_eq_some_iff.mp first
    obtain ⟨rfl, rfl⟩ := Prod.mk.injEq .. ▸ same
    dsimp only at onward
    split at onward
    · obtain rfl : read = text := by
        simpa [merged] using onward
      obtain ⟨shorter, plain⟩ := plain_of_stringTail? closed
      simp only [List.length_nil, List.length_append, List.length_singleton] at shorter plain
      obtain rfl : after = [] := List.length_eq_zero_iff.mp (by omega)
      obtain ⟨front, all, ends⟩ := plain (by omega)
      obtain rfl := List.append_cancel_right ends
      exact all
    · cases onward

/-- One stands for the other. -/
def Alike (first second : Json) : Prop := first.StandsFor second ∨ second.StandsFor first

private theorem alike_of_standsFor {read first second : Json} (one : read.StandsFor first)
    (other : read.StandsFor second) : first.Alike second := by
  have taken {read first second : Json} (same : read.SameScalar first)
      (taken : read.TakenFor second) : first.TakenFor second := by
    obtain ⟨nearest, inexact⟩ := taken
    cases same with
    | @number _ number values =>
      cases number with
      | integer whole fits =>
        obtain rfl := Int.cast_injective values
        exact .intro nearest inexact
      | double x => exact absurd (nearest.value_eq_of_exact values.symm) inexact
  rcases one with rfl | same | rounded
  · exact .inl other
  · rcases other with rfl | again | others
    · exact .inr (.inr (.inl same))
    · exact .inl (.inr (.inl (same.symm.trans again)))
    · exact .inl (.inr (.inr (taken same others)))
  · rcases other with rfl | same | others
    · exact .inr (.inr (.inr rounded))
    · exact .inr (.inr (.inr (taken same rounded)))
    · cases rounded with
      | intro nearest _ =>
        cases others with
        | intro others _ => exact .inl (.inr (.inl (.number (nearest.value_eq others))))

theorem ReadsAs.unique {double? : DoubleReader} {depth : Nat}
    {first second rest others : List Char} {one other : Json}
    (reads : ReadsAs double? depth first one) (again : ReadsAs double? depth second other)
    (ends : EndsNumber rest) (stops : EndsNumber others)
    (same : first ++ rest = second ++ others) : one = other ∧ first = second ∧ rest = others := by
  have left := reads (2 * (first.length + second.length)) (by omega) rest ends
  have right := again (2 * (first.length + second.length)) (by omega) others stops
  rw [same, right, Option.some_inj, Prod.mk.injEq] at left
  obtain ⟨rfl, rfl⟩ := left
  exact ⟨rfl, List.append_cancel_right same, rfl⟩

/-- What follows a text where texts are joined by a comma and a space. -/
def following : List (List Char) → List Char
  | [] => []
  | texts => ',' :: ' ' :: [',', ' '].intercalate texts

theorem intercalate_cons (text : List Char) (texts : List (List Char)) :
    [',', ' '].intercalate (text :: texts) = text ++ following texts := by
  cases texts with
  | nil => simp [following]
  | cons next texts => simp [following, List.intercalate_cons_cons]

theorem endsNumber_following (texts : List (List Char)) : EndsNumber (following texts) := by
  cases texts with
  | nil => exact nofun
  | cons text texts => exact endsNumber_mark (.inl rfl) _

private theorem intercalate_eq_of_following {texts others : List (List Char)}
    (same : following texts = following others) :
    [',', ' '].intercalate texts = [',', ' '].intercalate others := by
  cases texts <;> cases others
  case nil.nil => rfl
  case cons.cons => exact (List.cons.inj (List.cons.inj same).2).2
  all_goals cases same

/-- Only texts start with a quote. -/
theorem exists_cons_literal (value : Json) :
    ∃ c cs, value.literal.toList = c :: cs ∧ (c = '"' ↔ ∃ text, value = .string text) := by
  have composite {c : Char} {cs : List Char} (starts : value.literal.toList = c :: cs)
      (mark : c ≠ '"') (other : ∀ text, value ≠ .string text) :
      ∃ c cs, value.literal.toList = c :: cs ∧ (c = '"' ↔ ∃ text, value = .string text) :=
    ⟨c, cs, starts, iff_of_false mark (not_exists.mpr other)⟩
  have numeric {number : Number} {text : List Char}
      (reads : ReadsAsNumber nearestDouble? text number) :
      ∃ c cs, text = c :: cs ∧ c ≠ '"' := by
    obtain ⟨c, cs, starts, first⟩ := starts_of_number? (reads [] nofun)
    rw [List.append_nil] at starts
    refine ⟨c, cs, starts, ?_⟩
    intro quote
    subst quote
    rcases first with digit | minus
    · cases digit
    · cases minus
  cases value with
  | null => exact composite rfl (by decide : 'n' ≠ '"') nofun
  | bool flag => cases flag <;> exact composite rfl (by decide) nofun
  | array items => exact composite (String.toList_ofList ..) (by decide) nofun
  | object members => exact composite (String.toList_ofList ..) (by decide) nofun
  | string text => exact ⟨_, _, toList_literal_string text, iff_of_true rfl ⟨text, rfl⟩⟩
  | number number =>
    cases number with
    | integer whole fits =>
      obtain ⟨c, cs, starts, mark⟩ := numeric (readsAsNumber_integer nearestDouble? whole fits)
      exact composite starts mark nofun
    | double x =>
      obtain ⟨read, reads, _⟩ := NumberLayout.readsAsNumber_message x
      obtain ⟨c, cs, starts, mark⟩ := numeric reads
      exact composite starts mark nofun

/-- A literal ends where its text does, if two texts do. -/
theorem alike_of_append {first second : Json} {rests others : List (List Char)}
    (left : first.Distinct) (right : second.Distinct)
    (texts : ∀ text other, first = .string text → second = .string other → text = other)
    (same : first.literal.toList ++ following rests =
      second.literal.toList ++ following others) :
    first.Alike second ∧ following rests = following others := by
  obtain ⟨c, cs, starts, mark⟩ := exists_cons_literal first
  obtain ⟨d, ds, begins, quote⟩ := exists_cons_literal second
  obtain rfl : c = d := by
    rw [starts, begins] at same
    exact (List.cons.inj same).1
  have both : (∃ text, first = .string text) ↔ ∃ text, second = .string text :=
    mark.symm.trans quote
  by_cases string : ∃ text, first = .string text
  · obtain ⟨other, rfl⟩ := both.mp string
    obtain ⟨text, rfl⟩ := string
    obtain rfl := texts text other rfl rfl
    exact ⟨.inl (.inl rfl), List.append_cancel_left same⟩
  · have plain {value : Json} (other : ¬ ∃ text, value = .string text) : value.PlainText := by
      cases value with
      | string text => exact absurd ⟨text, rfl⟩ other
      | null | bool | number | array | object => trivial
    obtain ⟨one, one_stands, _, one_reads⟩ := exists_readsAs_literal left (plain string)
    obtain ⟨other, other_stands, _, other_reads⟩ :=
      exists_readsAs_literal right (plain (mt both.mpr string))
    have reads := one_reads nearestDouble? (fun _ _ _ => id) _ (Nat.le_max_left _ second.height)
    have again := other_reads nearestDouble? (fun _ _ _ => id) _ (Nat.le_max_right first.height _)
    obtain ⟨rfl, -, ends⟩ :=
      reads.unique again (endsNumber_following _) (endsNumber_following _) same
    exact ⟨alike_of_standsFor one_stands other_stands, ends⟩

theorem alike_of_literal_eq {first second : Json} (left : first.Distinct)
    (right : second.Distinct) (same : first.literal = second.literal) : first.Alike second := by
  have texts : ∀ text other, first = .string text → second = .string other → text = other := by
    intro text other one two
    subst one two
    have quoted := congrArg String.toList same
    rw [toList_literal_string, toList_literal_string] at quoted
    exact String.toList_inj.mp (List.append_cancel_right (List.cons.inj quoted).2)
  have joined : first.literal.toList ++ following [] = second.literal.toList ++ following [] := by
    rw [same]
  exact (alike_of_append left right texts joined).1

/-- What goes on behind a closing quote holds a separator up to the next quote. -/
private theorem separator_of_following {rests : List (List Char)} {tail after : List Char}
    (same : following rests = tail ++ '"' :: after) : [',', ' '] <+: tail := by
  cases rests with
  | nil => exact absurd same.symm (by simp [following])
  | cons text rests =>
    cases tail with
    | nil => cases same
    | cons c tail =>
      obtain ⟨comma, inside⟩ := List.cons.inj same
      cases tail with
      | nil => cases inside
      | cons d tail =>
        obtain ⟨space, -⟩ := List.cons.inj inside
        rw [← comma, ← space]
        exact ⟨tail, rfl⟩

/-- Two texts end at the first quote with a separator or nothing behind it. -/
private theorem eq_of_closed {text other : List Char} {rests others : List (List Char)}
    (left : ¬ ['"', ',', ' '] <:+: text) (right : ¬ ['"', ',', ' '] <:+: other)
    (same : text ++ '"' :: following rests = other ++ '"' :: following others) :
    text = other := by
  have longer {short long tail after : List Char} {rests : List (List Char)}
      (piece : ¬ ['"', ',', ' '] <:+: long) (split : long = short ++ tail)
      (ends : '"' :: following rests = tail ++ '"' :: after) : short = long := by
    cases tail with
    | nil => rw [split, List.append_nil]
    | cons c tail =>
      obtain ⟨quote, behind⟩ := List.cons.inj ends
      obtain ⟨more, separator⟩ := separator_of_following behind
      refine absurd ⟨short, more, ?_⟩ piece
      rw [split, ← quote, ← separator]
      simp
  rcases List.append_eq_append_iff.mp same with ⟨tail, split, ends⟩ | ⟨tail, split, ends⟩
  · exact longer right split ends
  · exact (longer left split ends).symm

/-- Different literals are not joined alike. -/
theorem alike_of_joined {firsts seconds : List Json}
    (left : ∀ value ∈ firsts, value.Distinct ∧ value.OnePiece)
    (right : ∀ value ∈ seconds, value.Distinct ∧ value.OnePiece)
    (same : [',', ' '].intercalate (firsts.map fun value => value.literal.toList) =
      [',', ' '].intercalate (seconds.map fun value => value.literal.toList)) :
    List.Forall₂ Alike firsts seconds := by
  have written (value : Json) : value.literal.toList ≠ [] := by
    obtain ⟨c, cs, starts, _⟩ := exists_cons_literal value
    rw [starts]
    exact List.cons_ne_nil c cs
  induction firsts generalizing seconds with
  | nil =>
    cases seconds with
    | nil => exact .nil
    | cons second seconds =>
      rw [List.map_cons, intercalate_cons] at same
      exact absurd (List.append_eq_nil_iff.mp same.symm).1 (written second)
  | cons first firsts ih =>
    obtain ⟨⟨distinct, piece⟩, left⟩ := List.forall_mem_cons.mp left
    rw [List.map_cons, intercalate_cons] at same
    cases seconds with
    | nil => exact absurd (List.append_eq_nil_iff.mp same).1 (written first)
    | cons second seconds =>
      obtain ⟨⟨apart, closed⟩, right⟩ := List.forall_mem_cons.mp right
      rw [List.map_cons, intercalate_cons] at same
      have texts : ∀ text other, first = .string text → second = .string other → text = other := by
        intro text other one two
        subst one two
        rw [toList_literal_string, toList_literal_string] at same
        simp only [List.cons_append, List.append_assoc, List.nil_append, List.cons.injEq] at same
        exact String.toList_inj.mp (eq_of_closed piece closed same.2)
      obtain ⟨alike, rests⟩ := alike_of_append distinct apart texts same
      exact .cons alike (ih left right (intercalate_eq_of_following rests))

end Json

/-- A literal is read back as what stands for it exactly if it is no text with characters that JSON
escapes, where numerals are taken for the nearest double. The parser takes them so if their digits
and powers of ten are doubles themselves. Messages tell literals apart, but for lists with a text
in which one text seems to end and another to begin. -/
theorem literals_read_back :
    (∀ (n : Json.Numeral) (negative : Bool) (x : Binary64),
      Json.nearestDouble? negative n.whole n.fraction (n.power.getD 0) = some x →
      x.Nearest (if negative then -n.size else n.size)) ∧
    (∀ value : Json, value.Distinct →
      (value.PlainText ↔ ∃ read : Json, read.StandsFor value ∧ ∀ depth, value.height ≤ depth →
        Json.parseWithin? Json.nearestDouble? depth value.literal = some read) ∧
      (value.PlainText → value.height ≤ Json.nestingLimit →
        (∀ x ∈ value.doubles, value.literalLayout.WritesBriefly x) →
        ∃ read : Json, read.StandsFor value ∧ Json.parse? value.literal = some read)) ∧
    (∀ first second : Json, first.Distinct → second.Distinct →
      (Violation.differsFrom first).message = (Violation.differsFrom second).message →
      first.Alike second) ∧
    ∀ firsts seconds : List Json,
      (∀ value ∈ firsts, value.Distinct ∧ value.OnePiece) →
      (∀ value ∈ seconds, value.Distinct ∧ value.OnePiece) →
      (Violation.notAmong firsts).message = (Violation.notAmong seconds).message →
      List.Forall₂ Json.Alike firsts seconds := by
  refine ⟨fun n negative x read => Binary64.nearest_of_ofDecimal? n.digits_lt read,
    fun value distinct => ⟨⟨fun plain => ?_, ?_⟩, fun plain shallow brief => ?_⟩, ?_, ?_⟩
  · obtain ⟨read, stands, kept, reads⟩ := Json.exists_readsAs_literal distinct plain
    refine ⟨read, stands, fun depth shallow => ?_⟩
    have near := reads Json.nearestDouble? (fun _ _ _ => id) depth shallow
    have parsed := near.parseWithin? kept (List.forall_mem_nil _)
    rwa [List.append_nil, String.ofList_toList] at parsed
  · intro back
    obtain ⟨read, stands, parsed⟩ := back
    exact Json.plainText_of_parseWithin? stands (parsed _ le_rfl)
  · obtain ⟨read, stands, kept, reads⟩ := Json.exists_readsAs_literal distinct plain
    have scaled : value.ReadNearest Json.scaledDouble? :=
      fun x inside number => (brief x inside).readsAsNumber
    have parsed := (reads _ scaled _ shallow).parseWithin? kept (List.forall_mem_nil _)
    rw [List.append_nil, String.ofList_toList, ← Json.parse?_eq] at parsed
    exact ⟨read, stands, parsed⟩
  · intro first second distinct apart same
    exact Json.alike_of_literal_eq distinct apart ((String.append_right_inj _).mp same)
  · intro firsts seconds left right same
    refine Json.alike_of_joined left right ?_
    have joined := congrArg String.toList ((String.append_right_inj _).mp same)
    have comma : ", ".toList = [',', ' '] := by simp
    rw [String.toList_intercalate, String.toList_intercalate, comma, List.map_map,
      List.map_map] at joined
    exact joined

theorem literals_read_back_zeros :
    (Binary64.ofInt 1).Nearest (Json.Numeral.ofNat 1).size ∧
    (∃ read : Json,
      read.StandsFor (.array [.number (.double ⟨false, 6755399441055744, 1022, by decide⟩),
        .string "say \"hi\""]) ∧
      Json.parse? "[1.5,\"say \\\"hi\\\"\"]" = some read) ∧
    (Json.number (.integer 0 (by decide))).Alike
      (.number (.double { Binary64.zero with negative := true })) ∧
    List.Forall₂ Json.Alike [.number (.integer 0 (by decide)), .string "say \"hi\""]
      [.number (.double { Binary64.zero with negative := true }), .string "say \"hi\""] := by
  let n : Json.Numeral :=
    { whole := ['1']
      fraction := ['5']
      power := none
      digits := ⟨List.forall_mem_singleton.mpr rfl, List.forall_mem_singleton.mpr rfl⟩
      nonempty := List.cons_ne_nil _ _
      leading := fun _ => rfl }
  let value : Json :=
    .array [.number (.double ⟨false, 6755399441055744, 1022, by decide⟩), .string "say \"hi\""]
  have distinct : value.Distinct := by
    apply Json.distinctItems_iff.mpr
    simp [Json.Distinct]
  have brief : ∀ x ∈ value.doubles, value.literalLayout.WritesBriefly x := by
    intro x inside
    obtain rfl := List.mem_singleton.mp inside
    exact ⟨n, false, ⟨by decide, by decide⟩, by decide +kernel⟩
  have text : value.literal = "[1.5,\"say \\\"hi\\\"\"]" := by decide +kernel
  have pieces (number : Json.Number) :
      ∀ value ∈ [Json.number number, .string "say \"hi\""], value.Distinct ∧ value.OnePiece := by
    have piece : (Json.string "say \"hi\"").OnePiece := by
      change ¬ ['"', ',', ' '] <:+: _
      decide
    refine List.forall_mem_cons.mpr ⟨⟨trivial, trivial⟩, ?_⟩
    exact List.forall_mem_singleton.mpr ⟨trivial, piece⟩
  refine ⟨literals_read_back.1 (Json.Numeral.ofNat 1) false _ (by decide +kernel), ?_,
    literals_read_back.2.2.1 _ _ trivial trivial (by decide +kernel),
    literals_read_back.2.2.2 _ _ (pieces _) (pieces _) (by decide +kernel)⟩
  rw [← text]
  exact (literals_read_back.2.1 value distinct).2 trivial (by decide) brief

/-- A whole double beyond 53 bits is written with its shortest digits, and doubles are not always
read as the nearest. A quote in a text is written as it is, so a text may pass for two. -/
theorem literal_not_read_back :
    Json.parse?
        (Json.literal (.number (.double ⟨false, Binary64.fullPrecision, 1082, by decide⟩))) =
      some (.number (.integer 1152921504606847000 (by decide))) ∧
    ¬ (Json.number (.integer 1152921504606847000 (by decide))).SameScalar
      (.number (.double ⟨false, Binary64.fullPrecision, 1082, by decide⟩)) ∧
    (Json.parse?
        (Json.literal (.number (.double ⟨false, 7212539907354464, 1027, by decide⟩)))).bind
          Json.asNumber? = some (.double ⟨false, 7212539907354465, 1027, by decide⟩) ∧
    Json.parse? (Json.literal (.string "\"")) = none ∧
    (Violation.notAmong [.string "a", .string "b"]).message =
      (Violation.notAmong [.string "a\", \"b"]).message := by
  have text : Json.literal (.number (.double ⟨false, Binary64.fullPrecision, 1082, by decide⟩)) =
      toString (1152921504606847000 : ℤ) := by
    decide +kernel
  have reads := Json.readsAs_number Json.nestingLimit
    (Json.readsAsNumber_integer Json.scaledDouble? 1152921504606847000 (by decide))
  have parsed := reads.parseWithin? trivial (List.forall_mem_nil _)
  refine ⟨?_, fun same => ?_, by decide +kernel, by rfl, by decide +kernel⟩
  · rwa [List.append_nil, String.ofList_toList, ← text, ← Json.parse?_eq] at parsed
  · have values := Json.sameScalar_number_iff.mp same
    have units := Binary64.value_eq_intCast_iff.mp values.symm
    exact absurd units (by decide +kernel)

end SchemaCheck
