import Mathlib
import SchemaCheck.Json.Printer
import SchemaCheck.Proofs.Json.Numeral
import SchemaCheck.Proofs.Json.Tree

/-! What reads as a value. Each way to put texts together has its rule, whatever follows the text
and with twice its length as fuel. -/
namespace SchemaCheck.Json

variable {double? : DoubleReader}

/-- Blanks and line feeds, which reading skips. -/
abbrev Blanks (cs : List Char) : Prop := ∀ c ∈ cs, c = ' ' ∨ c = '\n'

theorem skipBlank_append {blanks : List Char} (all : Blanks blanks) (cs : List Char) :
    skipBlank (blanks ++ cs) = skipBlank cs := by
  rw [skipBlank, List.dropWhile_append_of_pos]
  · rfl
  · intro c member
    rcases all c member with rfl | rfl <;> rfl

theorem skipBlank_skipBlank (cs : List Char) : skipBlank (skipBlank cs) = skipBlank cs :=
  List.dropWhile_idempotent ..

theorem value?_skipBlank (fuel depth : Nat) (cs : List Char) :
    value? double? fuel depth (skipBlank cs) = value? double? fuel depth cs := by
  cases fuel with
  | zero => rfl
  | succ fuel => simp only [value?, skipBlank_skipBlank]

theorem value?_append {blanks : List Char} (all : Blanks blanks) (fuel depth : Nat)
    (cs : List Char) : value? double? fuel depth (blanks ++ cs) = value? double? fuel depth cs := by
  rw [← value?_skipBlank, skipBlank_append all, value?_skipBlank]

theorem items?_skipBlank (fuel depth : Nat) (read : List Json) (cs : List Char) :
    items? double? fuel depth read (skipBlank cs) = items? double? fuel depth read cs := by
  cases fuel with
  | zero => rfl
  | succ fuel => simp only [items?, value?_skipBlank]

theorem members?_skipBlank (fuel depth : Nat) (read : List (String × Json)) (cs : List Char) :
    members? double? fuel depth read (skipBlank cs) = members? double? fuel depth read cs := by
  cases fuel with
  | zero => rfl
  | succ fuel => simp only [members?, skipBlank_skipBlank]

private theorem codeUnit?_hexDigits {n : Nat} (small : n < 0x20) (rest : List Char) :
    codeUnit? ('0' :: '0' :: hexDigit (n / 16) :: hexDigit n :: rest) = some (n, rest) := by
  interval_cases n <;> rfl

private theorem stringTail?_escaped (c : Char) (fuel : Nat) (read rest : List Char) :
    stringTail? (fuel + 1) read (escaped c ++ rest) = stringTail? fuel (c :: read) rest := by
  unfold escaped
  split
  iterate 7 rfl
  next quote backslash _ _ _ _ _ =>
    split
    next control =>
      simp only [List.cons_append, List.nil_append, stringTail?, escape?, unicodeEscape?,
        codeUnit?_hexDigits control, Option.bind_eq_bind, Option.bind_some, Char.ofNat_toNat]
      rw [if_neg (by omega), if_neg (by omega), Option.bind_some]
    next printable =>
      rw [List.singleton_append, stringTail?, if_neg printable]
      · exact quote
      · exact backslash

private theorem stringTail?_quoted (cs : List Char) {fuel : Nat} (enough : cs.length < fuel)
    (read rest : List Char) :
    stringTail? fuel read (cs.flatMap escaped ++ '"' :: rest) =
      some (String.ofList (read.reverse ++ cs), rest) := by
  induction cs generalizing fuel read with
  | nil =>
    cases fuel with
    | zero => omega
    | succ fuel => simp [stringTail?]
  | cons c cs ih =>
    cases fuel with
    | zero => omega
    | succ fuel =>
      rw [List.flatMap_cons, List.append_assoc, stringTail?_escaped,
        ih (Nat.lt_of_succ_lt_succ enough)]
      simp

private theorem length_escaped_pos (c : Char) : 1 ≤ (escaped c).length := by
  unfold escaped
  split
  iterate 7 decide
  split <;> simp

/-- A quoted text after its opening quote. -/
theorem string?_quoted (text : String) (rest : List Char) :
    string? (text.toList.flatMap escaped ++ '"' :: rest) = some (text, rest) := by
  have longer : text.toList.length ≤ (text.toList.flatMap escaped).length := by
    rw [List.length_flatMap, ← List.length_map fun c => (escaped c).length]
    exact List.length_le_sum_of_one_le _ (by simpa using fun c _ => length_escaped_pos c)
  rw [string?, stringTail?_quoted, List.reverse_nil, List.nil_append, String.ofList_toList]
  rw [List.length_append]
  omega

/-- A character that stands for itself between quotes. -/
abbrev PlainChar (c : Char) : Prop := c ≠ '"' ∧ c ≠ '\\' ∧ 0x20 ≤ c.toNat

theorem escaped_of_plainChar {c : Char} (plain : PlainChar c) : escaped c = [c] := by
  obtain ⟨quote, backslash, printable⟩ := plain
  unfold escaped
  split
  iterate 2 contradiction
  iterate 5 exact absurd printable (by decide)
  exact if_neg (not_lt.mpr printable)

theorem length_of_codeUnit? {cs rest : List Char} {unit : Nat}
    (read : codeUnit? cs = some (unit, rest)) : cs.length = rest.length + 4 := by
  unfold codeUnit? at read
  split at read
  · simp only [Option.bind_eq_bind, Option.bind_eq_some_iff, Option.some_inj, Prod.mk.injEq] at read
    obtain ⟨_, _, _, _, _, _, _, _, _, rfl⟩ := read
    rfl
  · cases read

private theorem length_of_unicodeEscape? {cs rest : List Char} {c : Char}
    (read : unicodeEscape? cs = some (c, rest)) : rest.length < cs.length := by
  obtain ⟨⟨unit, after⟩, first, onward⟩ := Option.bind_eq_some_iff.mp read
  have before := length_of_codeUnit? first
  dsimp only at onward
  split at onward
  · cases onward
  · split at onward
    · split at onward
      next low =>
        obtain ⟨⟨unit, others⟩, second, onward⟩ := Option.bind_eq_some_iff.mp onward
        have later := length_of_codeUnit? second
        simp only [List.length_cons] at before
        split at onward
        · obtain rfl : others = rest := congrArg Prod.snd (Option.some_inj.mp onward)
          omega
        · cases onward
      next => cases onward
    · obtain rfl : after = rest := congrArg Prod.snd (Option.some_inj.mp onward)
      omega

private theorem length_of_escape? {cs rest : List Char} {c : Char}
    (read : escape? cs = some (c, rest)) :
    rest.length < cs.length := by
  unfold escape? at read
  split at read
  iterate 8
    cases read
    exact Nat.lt_succ_self _
  · have shorter := length_of_unicodeEscape? read
    rw [List.length_cons]
    omega
  · cases read

/-- What is read up to the closing quote is shorter than what it is read from, and only by the quote
where all characters stand for themselves. -/
theorem plain_of_stringTail? {fuel : Nat} {read cs rest : List Char} {text : String}
    (closed : stringTail? fuel read cs = some (text, rest)) :
    text.toList.length + rest.length < read.length + cs.length ∧
      (read.length + cs.length ≤ text.toList.length + rest.length + 1 →
        ∃ front, (∀ c ∈ front, PlainChar c) ∧ cs = front ++ '"' :: rest) := by
  induction fuel generalizing read cs with
  | zero => cases closed
  | succ fuel ih =>
    unfold stringTail? at closed
    split at closed
    · cases closed
    · cases closed
      simp only [String.toList_ofList, List.length_reverse, List.length_cons]
      exact ⟨by omega, fun _ => ⟨[], List.forall_mem_nil _, rfl⟩⟩
    next escape =>
      obtain ⟨⟨c, after⟩, escaped, onward⟩ := Option.bind_eq_some_iff.mp closed
      have shorter := length_of_escape? escaped
      have tail := (ih onward).1
      simp only [List.length_cons] at tail ⊢
      exact ⟨by omega, fun plain => absurd plain (by omega)⟩
    next c others quote backslash =>
      split at closed
      next => cases closed
      next printable =>
        obtain ⟨shorter, plain⟩ := ih closed
        simp only [List.length_cons] at shorter plain ⊢
        refine ⟨by omega, fun same => ?_⟩
        obtain ⟨front, all, rfl⟩ := plain (by omega)
        exact ⟨c :: front,
          List.forall_mem_cons.mpr ⟨⟨quote, backslash, not_lt.mp printable⟩, all⟩, rfl⟩

/-- The text is read as the value, within this many more containers, whatever follows it. -/
def ReadsAs (double? : DoubleReader) (depth : Nat) (text : List Char) (value : Json) : Prop :=
  ∀ fuel, 2 * text.length ≤ fuel → ∀ rest, EndsNumber rest →
    value? double? fuel depth (text ++ rest) = some (value, rest)

/-- The items of an array up to its end. -/
def ItemsReadAs (double? : DoubleReader) (depth : Nat) (text : List Char)
    (items : List Json) : Prop :=
  ∀ fuel, 2 * text.length < fuel → ∀ read rest,
    items? double? fuel depth read (text ++ rest) = some (.array (read.reverse ++ items), rest)

/-- The members of an object up to its end. -/
def MembersReadAs (double? : DoubleReader) (depth : Nat) (text : List Char)
    (members : List (String × Json)) : Prop :=
  ∀ fuel, 2 * text.length < fuel → ∀ read rest,
    members? double? fuel depth read (text ++ rest) = some (.object (read.reverse ++ members), rest)

theorem readsAs_null (depth : Nat) : ReadsAs double? depth (scalar .null) .null := by
  intro fuel enough rest _
  cases fuel with
  | zero => simp [scalar] at enough
  | succ fuel => simp [scalar, value?, skipBlank]

theorem readsAs_bool (depth : Nat) (flag : Bool) :
    ReadsAs double? depth (scalar (.bool flag)) (.bool flag) := by
  intro fuel enough rest _
  cases fuel with
  | zero => cases flag <;> simp [scalar] at enough
  | succ fuel => cases flag <;> simp [scalar, value?, skipBlank]

theorem readsAs_string (depth : Nat) (text : String) :
    ReadsAs double? depth (quoted text) (.string text) := by
  intro fuel enough rest _
  cases fuel with
  | zero => simp [quoted] at enough
  | succ fuel =>
    have tail := string?_quoted text rest
    simp [value?, quoted, skipBlank, tail]

/-- A number is what starts with a digit or a minus. -/
theorem starts_of_number? {cs : List Char} {read : Number × List Char}
    (number : number? double? cs = some read) :
    ∃ c rest, cs = c :: rest ∧ (c.isDigit = true ∨ c = '-') := by
  cases cs with
  | nil => simp [number?] at number
  | cons c rest =>
    refine ⟨c, rest, rfl, ?_⟩
    by_contra other
    rw [not_or, Bool.not_eq_true] at other
    have span : (c :: rest).span Char.isDigit = ([], c :: rest) :=
      span_digits (List.forall_mem_nil _) fun d head => Option.some_inj.mp head ▸ other.1
    rw [number?] at number
    · rw [span] at number
      simp at number
    · rintro _ ⟨⟩
      exact other.2 rfl

theorem readsAs_number (depth : Nat) {text : List Char} {number : Number}
    (reads : ReadsAsNumber double? text number) : ReadsAs double? depth text (.number number) := by
  intro fuel enough rest ends
  obtain ⟨c, tail, starts, first⟩ := starts_of_number? (reads [] nofun)
  rw [List.append_nil] at starts
  subst starts
  cases fuel with
  | zero => simp at enough
  | succ fuel =>
    have other {d : Char} (digit : d.isDigit = false) (minus : d ≠ '-') : c ≠ d := by
      rintro rfl
      exact first.elim (Bool.false_ne_true ∘ digit.symm.trans) minus
    have unskipped : skipBlank (c :: tail ++ rest) = c :: tail ++ rest := by
      refine List.dropWhile_cons_of_neg ?_
      simp [other (by decide : ' '.isDigit = false) (by decide),
        other (by decide : '\n'.isDigit = false) (by decide),
        other (by decide : '\t'.isDigit = false) (by decide),
        other (by decide : '\r'.isDigit = false) (by decide)]
    rw [value?, unskipped]
    split
    iterate 6 next same => exact absurd (List.cons.inj same).1 (other (by decide) (by decide))
    next => rw [reads rest ends, Option.map_some]

private theorem items?_close (fuel depth : Nat) (read : List Json) (rest : List Char) :
    items? double? fuel depth read (']' :: rest) = none := by
  cases fuel with
  | zero => rfl
  | succ fuel => cases fuel <;> rfl

private theorem members?_close (fuel depth : Nat) (read : List (String × Json)) (rest : List Char) :
    members? double? fuel depth read ('\x7d' :: rest) = none := by
  cases fuel <;> rfl

theorem endsNumber_mark {mark : Char} (marks : mark = ',' ∨ mark = ']' ∨ mark = '\x7d')
    (rest : List Char) : EndsNumber (mark :: rest) := by
  intro c head
  obtain rfl : mark = c := Option.some_inj.mp head
  rcases marks with rfl | rfl | rfl <;> decide

theorem endsNumber_blanks {blanks : List Char} (all : Blanks blanks) : EndsNumber blanks := by
  intro c head
  rcases all c (List.mem_of_mem_head? head) with rfl | rfl <;> decide

theorem endsNumber_append {blanks rest : List Char} (all : Blanks blanks) (ends : EndsNumber rest) :
    EndsNumber (blanks ++ rest) := by
  cases blanks with
  | nil => exact ends
  | cons blank others => exact fun c head => endsNumber_blanks all c head

section Rules

variable {depth : Nat} {text more blanks : List Char}

theorem ReadsAs.last {item : Json} (reads : ReadsAs double? depth text item) (all : Blanks blanks) :
    ItemsReadAs double? depth (text ++ (blanks ++ [']'])) [item] := by
  intro fuel enough read rest
  cases fuel with
  | zero => omega
  | succ fuel =>
    simp only [List.length_append, List.length_cons] at enough
    have ends : EndsNumber (blanks ++ ']' :: rest) :=
      endsNumber_append all (endsNumber_mark (by simp) rest)
    have first := reads fuel (by omega) _ ends
    simp only [List.append_assoc, List.singleton_append, items?, first, Option.bind_eq_bind,
      Option.bind_some, skipBlank_append all]
    simp [skipBlank]

theorem ReadsAs.cons {item : Json} {items : List Json} (reads : ReadsAs double? depth text item)
    (others : ItemsReadAs double? depth more items) :
    ItemsReadAs double? depth (text ++ ',' :: more) (item :: items) := by
  intro fuel enough read rest
  cases fuel with
  | zero => omega
  | succ fuel =>
    simp only [List.length_append, List.length_cons] at enough
    have first := reads fuel (by omega) (',' :: (more ++ rest)) (endsNumber_mark (by simp) _)
    have later := others fuel (by omega) (item :: read) rest
    simp [items?, first, skipBlank, later]

theorem ItemsReadAs.blanks_append {items : List Json} (all : Blanks blanks)
    (reads : ItemsReadAs double? depth text items) :
    ItemsReadAs double? depth (blanks ++ text) items := by
  intro fuel enough read rest
  rw [List.append_assoc, ← items?_skipBlank, skipBlank_append all, items?_skipBlank]
  refine reads fuel ?_ read rest
  rw [List.length_append] at enough
  omega

theorem ItemsReadAs.array {items : List Json} (reads : ItemsReadAs double? depth text items) :
    ReadsAs double? (depth + 1) ('[' :: text) (.array items) := by
  intro fuel enough rest ends
  cases fuel with
  | zero => simp at enough
  | succ fuel =>
    rw [List.length_cons] at enough
    have inside := reads fuel (by omega) [] rest
    rw [← items?_skipBlank] at inside
    have opened : skipBlank ('[' :: (text ++ rest)) = '[' :: (text ++ rest) := rfl
    simp only [List.cons_append, value?, opened, if_neg (Nat.succ_ne_zero depth),
      Nat.add_sub_cancel]
    split
    next closed =>
      rw [closed, items?_close] at inside
      cases inside
    next => exact inside

theorem readsAs_array_nil (depth : Nat) : ReadsAs double? (depth + 1) ['[', ']'] (.array []) := by
  intro fuel enough rest ends
  cases fuel with
  | zero => simp at enough
  | succ fuel => rfl

/-- One member: what stands after its value tells whether another one is read. -/
theorem members?_quoted {gap cs after : List Char} {fuel : Nat} (name : String) {value : Json}
    (blank : Blanks gap) (reads : value? double? fuel depth cs = some (value, after))
    (read : List (String × Json)) :
    (∀ rest, skipBlank after = ',' :: rest →
      members? double? (fuel + 1) depth read (quoted name ++ ':' :: (gap ++ cs)) =
        members? double? fuel depth ((name, value) :: read) rest) ∧
    ∀ rest, skipBlank after = '\x7d' :: rest →
      members? double? (fuel + 1) depth read (quoted name ++ ':' :: (gap ++ cs)) =
        some (.object ((name, value) :: read).reverse, rest) := by
  have tail := string?_quoted name (':' :: (gap ++ cs))
  have quote (rest : List Char) : skipBlank ('"' :: rest) = '"' :: rest := rfl
  have colon (rest : List Char) : skipBlank (':' :: rest) = ':' :: rest := rfl
  rw [← value?_append blank] at reads
  constructor
  all_goals
    intro rest next
    simp only [members?, quoted, List.cons_append, List.nil_append, List.append_assoc, quote, tail,
      Option.bind_eq_bind, Option.bind_some, colon, reads, next]

theorem ReadsAs.lastMember {gap : List Char} {value : Json}
    (reads : ReadsAs double? depth text value) (name : String) (blank : Blanks gap)
    (all : Blanks blanks) :
    MembersReadAs double? depth (quoted name ++ ':' :: (gap ++ (text ++ (blanks ++ ['\x7d']))))
      [(name, value)] := by
  intro fuel enough read rest
  cases fuel with
  | zero => omega
  | succ fuel =>
    simp only [List.length_append, List.length_cons] at enough
    have ends : EndsNumber (blanks ++ '\x7d' :: rest) :=
      endsNumber_append all (endsNumber_mark (by simp) rest)
    have first := members?_quoted name blank (reads fuel (by omega) _ ends) read
    simpa using first.2 rest (skipBlank_append all _)

theorem ReadsAs.consMember {gap : List Char} {value : Json} {members : List (String × Json)}
    (reads : ReadsAs double? depth text value) (name : String) (blank : Blanks gap)
    (others : MembersReadAs double? depth more members) :
    MembersReadAs double? depth (quoted name ++ ':' :: (gap ++ (text ++ ',' :: more)))
      ((name, value) :: members) := by
  intro fuel enough read rest
  cases fuel with
  | zero => omega
  | succ fuel =>
    simp only [List.length_append, List.length_cons] at enough
    have ends : EndsNumber (',' :: (more ++ rest)) := endsNumber_mark (by simp) _
    have first := members?_quoted name blank (reads fuel (by omega) _ ends) read
    have later := others fuel (by omega) ((name, value) :: read) rest
    simpa [later] using first.1 (more ++ rest) rfl

theorem MembersReadAs.blanks_append {members : List (String × Json)} (all : Blanks blanks)
    (reads : MembersReadAs double? depth text members) :
    MembersReadAs double? depth (blanks ++ text) members := by
  intro fuel enough read rest
  rw [List.append_assoc, ← members?_skipBlank, skipBlank_append all, members?_skipBlank]
  refine reads fuel ?_ read rest
  rw [List.length_append] at enough
  omega

theorem MembersReadAs.object {members : List (String × Json)}
    (reads : MembersReadAs double? depth text members) :
    ReadsAs double? (depth + 1) ('\x7b' :: text) (.object members) := by
  intro fuel enough rest ends
  cases fuel with
  | zero => simp at enough
  | succ fuel =>
    rw [List.length_cons] at enough
    have inside := reads fuel (by omega) [] rest
    rw [← members?_skipBlank] at inside
    have opened : skipBlank ('\x7b' :: (text ++ rest)) = '\x7b' :: (text ++ rest) := rfl
    simp only [List.cons_append, value?, opened, if_neg (Nat.succ_ne_zero depth),
      Nat.add_sub_cancel]
    split
    next closed =>
      rw [closed, members?_close] at inside
      cases inside
    next => exact inside

theorem readsAs_object_nil (depth : Nat) :
    ReadsAs double? (depth + 1) ['\x7b', '\x7d'] (.object []) := by
  intro fuel enough rest ends
  cases fuel with
  | zero => simp at enough
  | succ fuel => rfl

end Rules

end SchemaCheck.Json
