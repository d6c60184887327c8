import Mathlib
import SchemaCheck.Proofs.Path
import SchemaCheck.Proofs.Json.Numeral

/-! Places read back from their text. Each step opens with a dot or a bracket, so a path can be told
from its text as long as no key has either of them. -/
namespace SchemaCheck

/-- No step opens in the text. -/
structure Unopened (text : List Char) : Prop where
  dot : '.' ∉ text
  bracket : '[' ∉ text

instance (text : List Char) : Decidable (Unopened text) :=
  decidable_of_iff ('.' ∉ text ∧ '[' ∉ text)
    ⟨fun absent => ⟨absent.1, absent.2⟩, fun unopened => ⟨unopened.dot, unopened.bracket⟩⟩

theorem unopened_nil : Unopened [] := ⟨List.not_mem_nil, List.not_mem_nil⟩

theorem unopened_cons_iff {c : Char} {text : List Char} :
    Unopened (c :: text) ↔ (c ≠ '.' ∧ c ≠ '[') ∧ Unopened text := by
  constructor
  · intro ⟨dot, bracket⟩
    rw [List.mem_cons, not_or] at dot bracket
    exact ⟨⟨Ne.symm dot.1, Ne.symm bracket.1⟩, dot.2, bracket.2⟩
  · intro ⟨⟨first, second⟩, dot, bracket⟩
    refine ⟨?_, ?_⟩ <;> rw [List.mem_cons, not_or]
    · exact ⟨Ne.symm first, dot⟩
    · exact ⟨Ne.symm second, bracket⟩

/-- The key does not look like further steps. -/
def Step.Plain : Step → Prop
  | .key name => Unopened name.toList
  | .index _ => True

instance : DecidablePred Step.Plain
  | .key name => inferInstanceAs (Decidable (Unopened name.toList))
  | .index _ => inferInstanceAs (Decidable True)

namespace Path

def Plain (path : Path) : Prop := ∀ step ∈ path, step.Plain

instance (path : Path) : Decidable path.Plain :=
  inferInstanceAs (Decidable (∀ step ∈ path, step.Plain))

private theorem plain_nil : Plain [] := List.forall_mem_nil _

theorem plain_cons_iff {step : Step} {path : Path} :
    Plain (step :: path) ↔ step.Plain ∧ path.Plain := List.forall_mem_cons

/-- Step after step from `$` on. -/
theorem render_eq_foldl (path : Path) :
    path.render = path.foldl (fun parent step => parent ++ step.render) "$" := by
  have from_any (parent : String) :
      parent ++ path.suffix = path.foldl (fun parent step => parent ++ step.render) parent := by
    induction path generalizing parent with
    | nil => simp
    | cons step rest ih => rw [suffix, ← String.append_assoc, ih, List.foldl_cons]
  exact from_any "$"

/-- The position of an index, from its text behind the opening bracket. -/
def position? (text : List Char) : Option Nat :=
  let position := Json.digitsValue text.dropLast
  if text = decimalDigits position ++ [']'] then some position else none

/-- The text before the first step, and the steps. -/
def readSteps? : List Char → Option (List Char × Path)
  | [] => some ([], [])
  | c :: rest =>
    match readSteps? rest with
    | none => none
    | some (text, steps) =>
      if c = '.' then some ([], .key (String.ofList text) :: steps)
      else if c = '[' then (position? text).map fun position => ([], .index position :: steps)
      else some (c :: text, steps)

/-- The path that has this text. -/
def ofText? (text : String) : Option Path :=
  match readSteps? text.toList with
  | some (['$'], steps) => some steps
  | _ => none

theorem position?_eq_some_iff {text : List Char} {position : Nat} :
    position? text = some position ↔ text = decimalDigits position ++ [']'] := by
  rw [position?]
  constructor
  · intro read
    split at read
    next written =>
      obtain rfl := Option.some.inj read
      exact written
    next => cases read
  · rintro rfl
    rw [List.dropLast_concat, Json.digitsValue_decimalDigits, if_pos rfl]

private theorem unopened_position (position : Nat) : Unopened
    (decimalDigits position ++ [']']) := by
  have letters (c : Char) (digit : c.isDigit = false) (other : c ≠ ']') :
      c ∉ decimalDigits position ++ [']'] := by
    intro member
    rcases List.mem_append.mp member with early | last
    · rw [Json.digits_decimalDigits position c early] at digit
      cases digit
    · exact other (List.mem_singleton.mp last)
  exact ⟨letters '.' rfl (by decide), letters '[' rfl (by decide)⟩

theorem toList_render_key (name : String) :
    (Step.key name).render.toList = '.' :: name.toList := by
  simp [Step.render]

theorem toList_render_index (position : Nat) :
    (Step.index position).render.toList = '[' :: (decimalDigits position ++ [']']) := by
  simp [Step.render, decimalDigits]

/-- Whatever is read was written so, and its keys are plain. The induction is on the text, which is
read from its end. -/
private theorem eq_of_readSteps? {cs text : List Char} {steps : Path}
    (read : readSteps? cs = some (text, steps)) :
    cs = text ++ steps.suffix.toList ∧ Unopened text ∧ steps.Plain := by
  induction cs generalizing text steps with
  | nil =>
    cases read
    exact ⟨rfl, unopened_nil, plain_nil⟩
  | cons c rest ih =>
    rw [readSteps?] at read
    split at read
    next => cases read
    next inner later below =>
      obtain ⟨rfl, unopened, plain⟩ := ih below
      split at read
      next dot =>
        cases read
        subst dot
        refine ⟨?_, unopened_nil, plain_cons_iff.mpr ⟨?_, plain⟩⟩
        · simp [suffix, toList_render_key]
        · simpa [Step.Plain] using unopened
      next noDot =>
        split at read
        next bracket =>
          obtain ⟨position, written, result⟩ := Option.map_eq_some_iff.mp read
          cases result
          subst bracket
          refine ⟨?_, unopened_nil, plain_cons_iff.mpr ⟨trivial, plain⟩⟩
          simp [suffix, toList_render_index, position?_eq_some_iff.mp written]
        next noBracket =>
          cases read
          exact ⟨rfl, unopened_cons_iff.mpr ⟨⟨noDot, noBracket⟩, unopened⟩, plain⟩

/-- Text in which no step opens goes in front of what is read. -/
theorem readSteps?_append {text rest inner : List Char} {steps : Path} (unopened : Unopened text)
    (read : readSteps? rest = some (inner, steps)) :
    readSteps? (text ++ rest) = some (text ++ inner, steps) := by
  induction text with
  | nil => exact read
  | cons c text ih =>
    obtain ⟨⟨noDot, noBracket⟩, later⟩ := unopened_cons_iff.mp unopened
    rw [List.cons_append, readSteps?, ih later]
    simp [noDot, noBracket]

private theorem readSteps?_suffix {steps : Path} (plain : steps.Plain) :
    readSteps? steps.suffix.toList = some ([], steps) := by
  induction steps with
  | nil => rfl
  | cons step rest ih =>
    obtain ⟨first, later⟩ := plain_cons_iff.mp plain
    rw [suffix, String.toList_append]
    cases step with
    | key name =>
      rw [toList_render_key, List.cons_append, readSteps?, readSteps?_append first (ih later)]
      simp
    | index position =>
      have written : position? (decimalDigits position ++ [']']) = some position :=
        position?_eq_some_iff.mpr rfl
      rw [toList_render_index, List.cons_append, readSteps?,
        readSteps?_append (unopened_position position) (ih later)]
      simp [written]

theorem ofText?_eq_some_iff {text : String} {path : Path} :
    ofText? text = some path ↔ path.Plain ∧ path.render = text := by
  have letters : path.render.toList = '$' :: path.suffix.toList := by
    simp [render]
  constructor
  · intro read
    unfold ofText? at read
    split at read
    next steps found =>
      obtain rfl := Option.some.inj read
      obtain ⟨written, _, plain⟩ := eq_of_readSteps? found
      refine ⟨plain, ?_⟩
      rw [← String.toList_inj, letters, written]
      rfl
    next => cases read
  · rintro ⟨plain, rfl⟩
    have root : Unopened ['$'] := unopened_cons_iff.mpr ⟨by decide, unopened_nil⟩
    have found := readSteps?_append root (readSteps?_suffix plain)
    rw [ofText?, letters, ← List.singleton_append, found]
    rfl

end Path

/-- Reading a text gives a path exactly if the path has plain keys and this text, so among the paths
with plain keys no two have one text. -/
theorem plain_path_reads_back :
    (∀ path : Path, path.render = path.foldl (fun parent step => parent ++ step.render) "$") ∧
    (∀ (text : String) (path : Path),
      Path.ofText? text = some path ↔ path.Plain ∧ path.render = text) ∧
    ∀ path other : Path, path.Plain → other.Plain → path.render = other.render → path = other := by
  refine ⟨Path.render_eq_foldl, fun text path => Path.ofText?_eq_some_iff, ?_⟩
  intro path other plain alsoPlain same
  have read : Path.ofText? other.render = some path := Path.ofText?_eq_some_iff.mpr ⟨plain, same⟩
  have reread : Path.ofText? other.render = some other :=
    Path.ofText?_eq_some_iff.mpr ⟨alsoPlain, rfl⟩
  exact Option.some.inj (read.symm.trans reread)

/-- Keys that are empty, a number, or end like an index. -/
theorem plain_path_reads_back_lookalikes :
    let path : Path := [.key "", .key "0", .index 10, .key "]$", .key "10]"]
    path.Plain ∧ path.render = "$..0[10].]$.10]" ∧
      Path.ofText? "$..0[10].]$.10]" = some path ∧
      ∀ other : Path, other.Plain → other.render = "$..0[10].]$.10]" → other = path := by
  intro path
  have plain : path.Plain := by decide
  have written : path.render = "$..0[10].]$.10]" := by decide
  refine ⟨plain, written, (plain_path_reads_back.2.1 _ path).mpr ⟨plain, written⟩, ?_⟩
  intro other alsoPlain same
  exact plain_path_reads_back.2.2 other path alsoPlain plain (same.trans written.symm)

/-- A dot in a key makes it look like two. -/
example : Path.render [.key "a.b"] = Path.render [.key "a", .key "b"] := rfl

end SchemaCheck
