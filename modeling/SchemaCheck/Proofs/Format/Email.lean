import Mathlib
import SchemaCheck.Format.Email

/-! The grammar of mail addresses. A split at the first `@` and a look at the inner characters of
the domain decide whether any split of the text fits it. -/
namespace SchemaCheck

/-- The code points with the property White_Space. -/
def whiteSpace : List Nat :=
  [0x09, 0x0A, 0x0B, 0x0C, 0x0D, 0x20, 0x85, 0xA0, 0x1680, 0x2000, 0x2001, 0x2002, 0x2003, 0x2004,
    0x2005, 0x2006, 0x2007, 0x2008, 0x2009, 0x200A, 0x2028, 0x2029, 0x202F, 0x205F, 0x3000]

private theorem isBlank_iff (c : Char) : isBlank c = true ↔ c.toNat ∈ whiteSpace := by
  simp only [isBlank, whiteSpace, Bool.or_eq_true, Bool.and_eq_true, decide_eq_true_eq, beq_iff_eq,
    List.mem_cons, List.not_mem_nil, or_false]
  omega

namespace Email

/-- What stands before the sign, before the dot and behind it. -/
structure Part (text : String) : Prop where
  nonempty : text ≠ ""
  clean : ∀ c ∈ text.toList, c ≠ '@' ∧ c.toNat ∉ whiteSpace

theorem clean_iff (text : String) : clean text.toList = true ↔ Part text := by
  have plain (c : Char) : (c != '@' && !isBlank c) = true ↔ c ≠ '@' ∧ c.toNat ∉ whiteSpace := by
    rw [Bool.and_eq_true, bne_iff_ne, Bool.not_eq_true', ← Bool.not_eq_true, isBlank_iff]
  rw [clean, Bool.and_eq_true, Bool.not_eq_true', List.all_eq_true]
  constructor
  · intro ⟨filled, all⟩
    refine ⟨?_, fun c member => (plain c).mp (all c member)⟩
    rintro rfl
    cases filled
  · intro part
    refine ⟨?_, fun c member => (plain c).mpr (part.clean c member)⟩
    rw [List.isEmpty_eq_false_iff]
    intro empty
    exact part.nonempty (String.toList_eq_nil_iff.mp empty)

/-- A part around a dot consists of two parts, unless one side is empty. -/
theorem part_append_iff {host zone : String} (before : host ≠ "") (after : zone ≠ "") :
    Part (host ++ "." ++ zone) ↔ Part host ∧ Part zone := by
  have letters (c : Char) : c ∈ (host ++ "." ++ zone).toList ↔
      c ∈ host.toList ∨ c = '.' ∨ c ∈ zone.toList := by
    simp
  constructor
  · intro part
    exact ⟨⟨before, fun c member => part.clean c ((letters c).mpr (.inl member))⟩,
      ⟨after, fun c member => part.clean c ((letters c).mpr (.inr (.inr member)))⟩⟩
  · intro ⟨first, second⟩
    refine ⟨?_, fun c member => ?_⟩
    · intro empty
      simp at empty
    · rcases (letters c).mp member with early | rfl | late
      · exact first.clean c early
      · decide
      · exact second.clean c late

/-- Some dot is neither the first nor the last character. -/
private theorem innerDot_iff_append (domain : List Char) :
    innerDot domain = true ↔ ∃ host zone, domain = host ++ '.' :: zone ∧ host ≠ [] ∧ zone ≠ [] := by
  cases domain with
  | nil => simp [innerDot]
  | cons first rest =>
    rw [innerDot, List.contains_iff_mem]
    constructor
    · intro member
      obtain ⟨before, between, inner⟩ := List.append_of_mem member
      rcases rest.eq_nil_or_concat' with rfl | ⟨short, last, rfl⟩
      · cases member
      · rw [List.dropLast_concat] at inner
        subst inner
        exact ⟨first :: before, between ++ [last], by simp, by simp, by simp⟩
    · intro ⟨host, zone, split, before, after⟩
      obtain ⟨_, inner, rfl⟩ := List.exists_cons_of_ne_nil before
      rw [List.cons_append] at split
      obtain ⟨rfl, rfl⟩ := List.cons.inj split
      rw [List.dropLast_append_of_ne_nil (by simp), List.dropLast_cons_of_ne_nil after]
      simp

theorem innerDot_iff (domain : String) :
    innerDot domain.toList = true ↔
      ∃ host zone : String, domain = host ++ "." ++ zone ∧ host ≠ "" ∧ zone ≠ "" := by
  rw [innerDot_iff_append]
  constructor
  · intro ⟨host, zone, split, before, after⟩
    refine ⟨String.ofList host, String.ofList zone, ?_, by simpa using before, by simpa using after⟩
    rw [← String.toList_inj, split]
    simp
  · rintro ⟨host, zone, rfl, before, after⟩
    exact ⟨host.toList, zone.toList, by simp, by simpa using before, by simpa using after⟩

/-- The same dot found by its offset in bytes, of which it takes one. -/
theorem innerDot_iff_offset (domain : String) :
    innerDot domain.toList = true ↔
      ∃ host zone : String, domain = host ++ "." ++ zone ∧ 0 < host.utf8ByteSize ∧
        host.utf8ByteSize + 1 < domain.utf8ByteSize := by
  rw [innerDot_iff]
  refine exists_congr fun host => exists_congr fun zone => and_congr_right ?_
  rintro rfl
  have dot : ".".utf8ByteSize = 1 := rfl
  rw [String.utf8ByteSize_append, String.utf8ByteSize_append, dot, Ne, Ne,
    ← String.utf8ByteSize_eq_zero_iff, ← String.utf8ByteSize_eq_zero_iff]
  omega

/-- No earlier sign: the text is divided here. -/
private theorem span_sign {mailbox : List Char} (unsigned : '@' ∉ mailbox) (domain : List Char) :
    (mailbox ++ '@' :: domain).span (· != '@') = (mailbox, '@' :: domain) := by
  have before : ∀ c ∈ mailbox, (c != '@') = true := by
    intro c member
    rw [bne_iff_ne]
    rintro rfl
    exact unsigned member
  rw [List.span_eq_takeWhile_dropWhile, List.takeWhile_append_of_pos before,
    List.dropWhile_append_of_pos before]
  simp

private theorem eq_append_of_span {text mailbox domain : List Char} {sign : Char}
    (divided : text.span (· != '@') = (mailbox, sign :: domain)) :
    text = mailbox ++ '@' :: domain := by
  rw [List.span_eq_takeWhile_dropWhile, Prod.mk.injEq] at divided
  obtain ⟨before, behind⟩ := divided
  have first := List.head?_dropWhile_not (· != '@') text
  rw [behind, List.head?_cons] at first
  obtain rfl : sign = '@' := by simpa using first
  rw [← before, ← behind, List.takeWhile_append_dropWhile]

theorem accepts_iff_domain (text : String) :
    accepts text = true ↔ ∃ mailbox domain : String, text = mailbox ++ "@" ++ domain ∧
      Part mailbox ∧ Part domain ∧ innerDot domain.toList = true := by
  constructor
  · intro accepted
    unfold accepts at accepted
    split at accepted
    next mailbox sign domain divided =>
      rw [Bool.and_eq_true, Bool.and_eq_true] at accepted
      obtain ⟨⟨first, second⟩, dotted⟩ := accepted
      refine ⟨String.ofList mailbox, String.ofList domain, ?_, ?_, ?_, ?_⟩
      · rw [← String.toList_inj, eq_append_of_span divided]
        simp
      · exact (clean_iff _).mp (by simpa using first)
      · exact (clean_iff _).mp (by simpa using second)
      · simpa using dotted
    next => cases accepted
  · rintro ⟨mailbox, domain, rfl, first, second, dotted⟩
    have unsigned : '@' ∉ mailbox.toList := fun member => (first.clean _ member).1 rfl
    have letters : (mailbox ++ "@" ++ domain).toList = mailbox.toList ++ '@' :: domain.toList := by
      simp
    rw [accepts, letters, span_sign unsigned]
    simp only [(clean_iff _).mpr first, (clean_iff _).mpr second, dotted, Bool.and_self]

/-- An address is a mailbox, an `@`, a host, a dot and a zone. Host and zone may have dots of their
own, so that a domain can be split in several ways. -/
theorem mail_address_grammar (text : String) :
    accepts text = true ↔ ∃ mailbox host zone : String,
      text = mailbox ++ "@" ++ host ++ "." ++ zone ∧ Part mailbox ∧ Part host ∧ Part zone := by
  rw [accepts_iff_domain]
  constructor
  · rintro ⟨mailbox, domain, rfl, first, second, dotted⟩
    obtain ⟨host, zone, rfl, before, after⟩ := (innerDot_iff domain).mp dotted
    obtain ⟨third, last⟩ := (part_append_iff before after).mp second
    exact ⟨mailbox, host, zone, by simp only [String.append_assoc], first, third, last⟩
  · rintro ⟨mailbox, host, zone, rfl, first, second, last⟩
    refine ⟨mailbox, host ++ "." ++ zone, by simp only [String.append_assoc], first, ?_, ?_⟩
    · exact (part_append_iff second.nonempty last.nonempty).mpr ⟨second, last⟩
    · exact (innerDot_iff _).mpr ⟨host, zone, rfl, second.nonempty, last.nonempty⟩

/-- Host and zone may be dots themselves. -/
example : accepts "a@..." = true := by decide

end Email
end SchemaCheck
