import Mathlib
import SchemaCheck.Proofs.Json.Numeral
import SchemaCheck.Proofs.Json.Tree
import SchemaCheck.Proofs.Validation.Exhaustive

/-! What an issue quotes. Line feeds come into its place and its message only from keys of the
document and from texts of the schema, which are quoted as they are. -/
namespace SchemaCheck

/-- No line feed in the text. -/
def OneLine (text : String) : Prop := '\n' ∉ text.toList

instance (text : String) : Decidable (OneLine text) :=
  inferInstanceAs (Decidable ('\n' ∉ text.toList))

theorem oneLine_append {first second : String} :
    OneLine (first ++ second) ↔ OneLine first ∧ OneLine second := by
  simp [OneLine]

theorem oneLine_intercalate {separator : String} (single : OneLine separator)
    {texts : List String} :
    OneLine (String.intercalate separator texts) ↔ ∀ text ∈ texts, OneLine text := by
  induction texts with
  | nil => simp [OneLine]
  | cons text rest ih =>
    cases rest with
    | nil => simp
    | cons next rest =>
      rw [String.intercalate_cons_cons, oneLine_append, oneLine_append, ih, List.forall_mem_cons]
      simp [single]

namespace Json

private theorem newline_not_mem_pointText {fraction : List Char} (digits : Digits fraction) :
    '\n' ∉ pointText fraction := by
  cases fraction with
  | nil => exact List.not_mem_nil
  | cons first rest =>
    rw [pointText_of_ne_nil (List.cons_ne_nil first rest), List.mem_cons, not_or]
    exact ⟨by decide, digits.not_mem (by decide)⟩

theorem newline_not_mem_signed (negative : Bool) (n : Numeral) :
    '\n' ∉ signText negative ++ n.text := by
  simp only [Numeral.text, List.mem_append, not_or]
  refine ⟨?_, ⟨n.digits.1.not_mem (by decide), newline_not_mem_pointText n.digits.2⟩,
    not_mem_powerText (by decide) (by decide) n.power⟩
  cases negative <;> decide

theorem oneLine_toString (whole : Int) : OneLine (toString whole) := by
  rw [OneLine, toList_toString]
  exact newline_not_mem_signed _ _

end Json

theorem NumberLayout.oneLine_render {layout : NumberLayout} (readable : layout.Readable)
    (zero : OneLine layout.zero) (negativeZero : OneLine layout.negativeZero) (x : Binary64) :
    OneLine (layout.render x) := by
  cases isZero : x.isZero with
  | true =>
    rw [render, isZero, if_pos rfl]
    split
    · exact negativeZero
    · exact zero
  | false =>
    obtain ⟨n, text, _⟩ := exists_numeral readable isZero
    rw [OneLine, text]
    exact Json.newline_not_mem_signed _ _

namespace Json

theorem Number.oneLine_render_json (number : Number) : OneLine (number.render .json) := by
  cases number with
  | integer whole _ => exact oneLine_toString whole
  | double x =>
    exact NumberLayout.oneLine_render ⟨rfl, .inr rfl⟩ (by decide) (by decide) x

theorem oneLine_message (x : Binary64) : OneLine (Violation.number x) :=
  NumberLayout.oneLine_render ⟨rfl, .inl rfl⟩ (by decide) (by decide) x

private theorem hexDigit_ne_newline (n : Nat) : hexDigit n ≠ '\n' := by
  have digits : ∀ digit < 16, Nat.digitChar digit ≠ '\n' := by decide
  exact digits (n % 16) (Nat.mod_lt _ (by decide))

private theorem newline_not_mem_escaped (c : Char) : '\n' ∉ escaped c := by
  unfold escaped
  split
  iterate 7 decide
  next feed _ _ _ _ =>
    split
    next => simp [(hexDigit_ne_newline _).symm]
    next => simpa using Ne.symm feed

theorem newline_not_mem_quoted (text : String) : '\n' ∉ quoted text := by
  simp [quoted, newline_not_mem_escaped]

private theorem newline_not_mem_compactItems {items : List Json}
    (each : ∀ item ∈ items, '\n' ∉ item.compactChars) : '\n' ∉ compactItems items := by
  induction items with
  | nil => decide
  | cons item rest ih =>
    obtain ⟨first, others⟩ := List.forall_mem_cons.mp each
    cases rest with
    | nil => simp [compactItems, first]
    | cons next rest => simp [compactItems, first, ih others]

private theorem newline_not_mem_compactMembers {members : List (String × Json)}
    (each : ∀ member ∈ members, '\n' ∉ member.2.compactChars) :
    '\n' ∉ compactMembers members := by
  induction members with
  | nil => decide
  | cons member rest ih =>
    obtain ⟨first, others⟩ := List.forall_mem_cons.mp each
    have name := newline_not_mem_quoted member.1
    cases rest with
    | nil => simp [compactMembers, first, name]
    | cons next rest => simp [compactMembers, first, name, ih others]

theorem newline_not_mem_compactChars (value : Json) : '\n' ∉ value.compactChars := by
  induction value using Json.induction with
  | null => decide
  | bool flag => cases flag <;> decide
  | number number => exact number.oneLine_render_json
  | string text => exact newline_not_mem_quoted text
  | array items ih => simp [compactChars, newline_not_mem_compactItems ih]
  | object members ih => simp [compactChars, newline_not_mem_compactMembers ih]

/-- Only the text of a literal that is one is quoted as it is. -/
theorem oneLine_literal_iff (literal : Json) :
    OneLine literal.literal ↔ ∀ text, literal.asString? = some text → OneLine text := by
  have single {value : Json} (line : OneLine value.literal) (other : value.asString? = none) :
      OneLine value.literal ↔ ∀ text, value.asString? = some text → OneLine text := by
    simp [line, other]
  have compact (value : Json) : OneLine value.compact := by
    rw [OneLine, Json.compact, String.toList_ofList]
    exact value.newline_not_mem_compactChars
  cases literal with
  | string text =>
    have quote : OneLine "\"" := by decide
    simp [literal, asString?, oneLine_append, quote]
  | number number =>
    refine single ?_ rfl
    cases number with
    | integer whole _ => exact oneLine_toString whole
    | double x => exact oneLine_message x
  | null | bool flag | array items | object members => exact single (compact _) rfl

end Json

/-- The texts of the schema that the message quotes as they are. -/
def Violation.texts : Violation → List String
  | .differsFrom literal => literal.asString?.toList
  | .notAmong literals => literals.filterMap Json.asString?
  | .wrongType expected _ => expected.names
  | .badPattern pattern => [pattern]
  | .noMatch pattern => [pattern]
  | _ => []

theorem Violation.oneLine_message_iff (violation : Violation) :
    OneLine violation.message ↔ ∀ text ∈ violation.texts, OneLine text := by
  have fixed (opening : String) (single : OneLine opening) (rest : String) :
      OneLine (opening ++ rest) ↔ OneLine rest := by
    simp [oneLine_append, single]
  cases violation with
  | differsFrom literal =>
    refine (fixed "Value must equal " (by decide) literal.literal).trans ?_
    simp only [Json.oneLine_literal_iff, texts, Option.mem_toList]
  | notAmong literals =>
    refine (fixed "Value must be one of: " (by decide) _).trans ?_
    rw [oneLine_intercalate (by decide), List.forall_mem_map]
    simp only [Json.oneLine_literal_iff, texts, List.mem_filterMap]
    exact ⟨fun each text ⟨literal, member, own⟩ => each literal member text own,
      fun each literal member text own => each text ⟨literal, member, own⟩⟩
  | wrongType expected found =>
    have kind : OneLine found.name := by cases found <;> decide
    refine (oneLine_append.trans (and_iff_left kind)).trans ?_
    refine (oneLine_append.trans (and_iff_left (by decide))).trans ?_
    exact (fixed "Expected type " (by decide) _).trans (oneLine_intercalate (by decide))
  | badPattern pattern =>
    exact (fixed "Invalid pattern: " (by decide) pattern).trans List.forall_mem_singleton.symm
  | noMatch pattern =>
    exact (fixed "Value does not match pattern " (by decide) pattern).trans
      List.forall_mem_singleton.symm
  | tooFewProperties limit | tooManyProperties limit | tooFewItems limit | tooManyItems limit
  | tooShort limit | tooLong limit =>
    refine iff_of_true (oneLine_append.mpr ⟨oneLine_append.mpr ⟨?_, ?_⟩, ?_⟩)
      (List.forall_mem_nil _)
    · decide
    · exact Json.oneLine_message limit
    · decide
  | below limit | above limit | notAbove limit | notBelow limit | notMultipleOf limit =>
    refine iff_of_true (oneLine_append.mpr ⟨?_, ?_⟩) (List.forall_mem_nil _)
    · decide
    · exact Json.oneLine_message limit
  | badFormat format => cases format <;> exact iff_of_true (by decide) (List.forall_mem_nil _)
  | _ => exact iff_of_true (by decide) (List.forall_mem_nil _)

/-- The keys on the way. -/
def Path.names (path : Path) : List String :=
  path.filterMap fun
    | .key name => some name
    | .index _ => none

theorem Path.oneLine_render_iff (path : Path) :
    OneLine path.render ↔ ∀ name ∈ path.names, OneLine name := by
  have suffix : OneLine path.suffix ↔ ∀ name ∈ path.names, OneLine name := by
    induction path with
    | nil => exact iff_of_true (by decide) (List.forall_mem_nil _)
    | cons step rest ih =>
      rw [Path.suffix, oneLine_append, ih]
      cases step with
      | key name =>
        have own : OneLine ("." ++ name) ↔ OneLine name :=
          oneLine_append.trans (and_iff_right (by decide))
        exact (and_congr_left' own).trans List.forall_mem_cons.symm
      | index position =>
        have digits : OneLine (toString position) := Json.oneLine_toString position
        have own : OneLine ("[" ++ toString position ++ "]") :=
          oneLine_append.mpr ⟨oneLine_append.mpr ⟨by decide, digits⟩, by decide⟩
        exact and_iff_right own
  rw [render, oneLine_append, suffix]
  exact and_iff_right (by decide)

/-- Everything that the issue quotes as it is. -/
def Finding.texts (finding : Finding) : List String := finding.path.names ++ finding.violation.texts

theorem Finding.oneLine_issue_iff (finding : Finding) :
    OneLine finding.issue.path ∧ OneLine finding.issue.message ↔
      ∀ text ∈ finding.texts, OneLine text := by
  rw [texts, List.forall_mem_append]
  exact and_congr finding.path.oneLine_render_iff finding.violation.oneLine_message_iff

namespace Json

mutual

/-- The keys of all objects in the value. -/
def keys : Json → List String
  | .array items => itemsKeys items
  | .object members => membersKeys members
  | _ => []

def itemsKeys : List Json → List String
  | [] => []
  | item :: rest => keys item ++ itemsKeys rest

def membersKeys : List (String × Json) → List String
  | [] => []
  | (name, value) :: rest => name :: (keys value ++ membersKeys rest)

end

private theorem mem_itemsKeys {items : List Json} {item : Json} (listed : item ∈ items)
    {key : String}
    (inside : key ∈ item.keys) : key ∈ itemsKeys items := by
  induction items with
  | nil => cases listed
  | cons first rest ih =>
    rcases List.mem_cons.mp listed with rfl | later
    · exact List.mem_append_left _ inside
    · exact List.mem_append_right _ (ih later)

theorem mem_membersKeys {members : List (String × Json)} {member : String × Json}
    (listed : member ∈ members) {key : String} (inside : key = member.1 ∨ key ∈ member.2.keys) :
    key ∈ membersKeys members := by
  induction members with
  | nil => cases listed
  | cons first rest ih =>
    rw [membersKeys, List.mem_cons, List.mem_append]
    rcases List.mem_cons.mp listed with rfl | later
    · exact inside.imp_right .inl
    · exact .inr (.inr (ih later))

end Json

/-- The texts at a node that messages and places may quote. -/
def Assertions.texts (assertions : Assertions) : List String :=
  (assertions.types.map TypeSpec.names).getD [] ++ assertions.required.getD [] ++
    assertions.constant.toList.filterMap Json.asString? ++
    (assertions.enumeration.getD []).filterMap Json.asString? ++ assertions.pattern.toList

section Sources

variable {allowed : String → Prop}

/-- The way to the node, its value and its schema hold only such texts. -/
structure Visit.Holds (allowed : String → Prop) (visit : Visit) : Prop where
  path : ∀ name ∈ visit.path.names, allowed name
  value : ∀ key ∈ visit.value.keys, allowed key
  schema : ∀ node, visit.schema.Contains node → ∀ text ∈ node.assertions.texts, allowed text

private theorem Path.names_child_key (path : Path) (name : String) :
    names (path.child (.key name)) = path.names ++ [name] := by
  simp [names, child]

private theorem Path.names_child_index (path : Path) (position : Nat) :
    names (path.child (.index position)) = path.names := by
  simp [names, child]

theorem Visit.Holds.key {visit : Visit} (holds : visit.Holds allowed) {name : String}
    (key : allowed name) : ∀ step ∈ (visit.path.child (.key name)).names, allowed step := by
  rw [Path.names_child_key, List.forall_mem_append]
  exact ⟨holds.path, List.forall_mem_singleton.mpr key⟩

theorem Descends.holds {visit below : Visit} {turn : Turn} (next : Descends visit turn below)
    (holds : visit.Holds allowed) : below.Holds allowed := by
  have schema : ∀ node, below.schema.Contains node → ∀ text ∈ node.assertions.texts, allowed text :=
    fun node inside => holds.schema node (.child next.mem_subschemas inside)
  cases next with
  | branch listed => exact ⟨holds.path, holds.value, schema⟩
  | property typed declared present =>
    have member := Json.mem_of_lookup present
    exact ⟨holds.key (holds.value _ (Json.mem_membersKeys member (.inl rfl))),
      fun key inside => holds.value key (Json.mem_membersKeys member (.inr inside)), schema⟩
  | extra typed applies listed undeclared =>
    have member := List.mem_of_getElem? listed
    exact ⟨holds.key (holds.value _ (Json.mem_membersKeys member (.inl rfl))),
      fun key inside => holds.value key (Json.mem_membersKeys member (.inr inside)), schema⟩
  | item typed applies listed =>
    have member := List.mem_of_getElem? listed
    refine ⟨?_, fun key inside => holds.value key (Json.mem_itemsKeys member inside), schema⟩
    rw [Path.names_child_index]
    exact holds.path

theorem Breaks.texts_allowed {judge : Schema → Bool} {visit : Visit} {keyword : Keyword}
    {entry : Nat} {finding : Finding} (broken : Breaks judge visit keyword entry finding)
    (holds : visit.Holds allowed) : ∀ text ∈ finding.texts, allowed text := by
  have own (text : String) (member : text ∈ visit.schema.assertions.texts) : allowed text :=
    holds.schema visit.schema .self text member
  have place {violation : Violation} (quoted : ∀ text ∈ violation.texts, allowed text) :
      ∀ text ∈ Finding.texts ⟨visit.path, violation⟩, allowed text :=
    List.forall_mem_append.mpr ⟨holds.path, quoted⟩
  have below {name : String} (key : allowed name) {violation : Violation}
      (quoted : ∀ text ∈ violation.texts, allowed text) :
      ∀ text ∈ Finding.texts ⟨visit.path.child (.key name), violation⟩, allowed text :=
    List.forall_mem_append.mpr ⟨holds.key key, quoted⟩
  cases broken with
  | constant given differs =>
    refine place fun text quoted => own text ?_
    simp [Assertions.texts, given, Option.mem_toList.mp quoted]
  | enumeration given differs =>
    refine place fun text quoted => own text ?_
    simp [Assertions.texts, given, List.mem_filterMap.mp quoted]
  | @types types given refused =>
    refine place fun text (quoted : text ∈ types.names) => own text ?_
    simp [Assertions.texts, given, quoted]
  | required typed object given listed absent =>
    refine below (own _ ?_) (List.forall_mem_nil _)
    simp [Assertions.texts, given, List.mem_of_getElem? listed]
  | badPattern typed string given nonempty refused
  | noMatch typed string given nonempty compiled missed =>
    refine place (List.forall_mem_singleton.mpr (own _ ?_))
    simp [Assertions.texts, given]
  | additional typed object forbidden listed undeclared =>
    refine below (holds.value _ ?_) (List.forall_mem_nil _)
    rw [object]
    exact Json.mem_membersKeys (List.mem_of_getElem? listed) (.inl rfl)
  | @bound bound limit =>
    have unquoted : ∀ text ∈ (bound.violation limit).texts, allowed text := by
      cases bound <;> exact List.forall_mem_nil _
    exact place unquoted
  | anyOf | oneOf | format => exact place (List.forall_mem_nil _)

/-- An issue quotes keys of the document and texts of the schema, nothing else. -/
theorem texts_of_findings (options : ValidationOptions) {document : Json} {schema : Schema}
    (keys : ∀ key ∈ document.keys, allowed key)
    (texts : ∀ node, schema.Contains node → ∀ text ∈ node.assertions.texts, allowed text)
    {finding : Finding} (found : finding ∈ (validate options document schema).findings) :
    ∀ text ∈ finding.texts, allowed text := by
  have reached_holds {route : List Turn} {visit : Visit} {level : Nat}
      (reached : Reaches options.maxDepth ⟨[], document, schema⟩ route visit level) :
      visit.Holds allowed := by
    induction reached with
    | origin => exact ⟨List.forall_mem_nil _, keys, texts⟩
    | descend earlier within next ih => exact next.holds ih
  have traced := (Visit.map_snd_trace_perm options.maxDepth (options.maxDepth + 1)
    ⟨[], document, schema⟩).mem_iff.mpr found
  obtain ⟨⟨source, _⟩, entry, rfl⟩ := List.mem_map.mp traced
  cases reported_iff_mem_trace.mpr entry with
  | tooDeep reached =>
    rw [Finding.texts]
    exact List.forall_mem_append.mpr ⟨(reached_holds reached).path, List.forall_mem_nil _⟩
  | breaks reached within broken => exact broken.texts_allowed (reached_holds reached)

end Sources

end SchemaCheck
