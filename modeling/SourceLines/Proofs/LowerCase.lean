/-
# Lower case in context

The lower-case form of a character depends on the characters around it in one case only:
a capital sigma becomes final where a word ends with it. Of the text before it no more
matters than whether a cased letter stands there, case-ignorable characters being passed
over. So the end of a text has the same lower-case form as by itself, unless the first
character in it that is not passed over is a capital sigma that then ends a word.

A character is small when it is its own lower-case form. Texts of small characters keep
their form in every context, and no other character is left in a lower-case form.
-/

import Mathlib.Data.List.Infix
import SourceLines.Unicode.Lowercase

namespace SourceLines

namespace Unicode

variable {c : Char} {text front rest before other after : Text}

/-! ## What matters of the text before -/

theorem meetsCased_cons (c : Char) (text : Text) :
    meetsCased (c :: text) = if isCaseIgnorable c then meetsCased text else isCased c := by
  rw [meetsCased, List.dropWhile_cons]
  by_cases ignorable : isCaseIgnorable c = true
  · rw [if_pos ignorable, if_pos ignorable]
    rfl
  · rw [if_neg ignorable, if_neg ignorable]

/-- Of the text before it matters only whether a cased letter stands there. -/
theorem lowercaseFrom_congr (same : meetsCased before = meetsCased other) (text : Text) :
    lowercaseFrom before text = lowercaseFrom other text := by
  induction text generalizing before other with
  | nil => rfl
  | cons c after ih =>
      have between : lowercaseBetween before c after = lowercaseBetween other c after := by
        rw [lowercaseBetween, lowercaseBetween, same]
      have next : meetsCased (c :: before) = meetsCased (c :: other) := by
        rw [meetsCased_cons, meetsCased_cons, same]
      rw [lowercaseFrom, lowercaseFrom, between, ih next]

/-- The end of a text is written in lower case behind the text in front of it. -/
theorem isSuffix_lowercaseFrom_append (before front rest : Text) :
    lowercaseFrom (front.reverse ++ before) rest <:+ lowercaseFrom before (front ++ rest) := by
  induction front generalizing before with
  | nil => exact List.suffix_rfl
  | cons c front ih =>
      have behind := ih (c :: before)
      rw [List.reverse_cons, List.append_assoc]
      exact behind.trans (List.suffix_append (lowercaseBetween before c (front ++ rest)) _)

theorem length_lowercaseBetween (before other : Text) (c : Char) (after : Text) :
    (lowercaseBetween before c after).length = (lowercaseBetween other c after).length := by
  unfold lowercaseBetween
  split
  · split <;> split <;> rfl
  · rfl

theorem length_lowercaseFrom (before other text : Text) :
    (lowercaseFrom before text).length = (lowercaseFrom other text).length := by
  induction text generalizing before other with
  | nil => rfl
  | cons c after ih =>
      rw [lowercaseFrom, lowercaseFrom, List.length_append, List.length_append,
        length_lowercaseBetween before other, ih (c :: before) (c :: other)]

/-! ## Where a word ends -/

/-- Behind a cased letter a word ends with the first character of the text that is not
passed over: it is a capital sigma, and no cased letter follows it. -/
def EndsWord (text : Text) : Prop :=
  ∃ after, text.dropWhile isCaseIgnorable = capitalSigma :: after ∧ meetsCased after = false

theorem isCaseIgnorable_capitalSigma : isCaseIgnorable capitalSigma = false := by
  decide +kernel

theorem endsWord_cons_iff :
    EndsWord (c :: after) ↔
      if isCaseIgnorable c then EndsWord after
      else c = capitalSigma ∧ meetsCased after = false := by
  rw [EndsWord, List.dropWhile_cons]
  by_cases ignorable : isCaseIgnorable c = true
  · rw [if_pos ignorable, if_pos ignorable]
    rfl
  · simp [ignorable]

theorem lowercaseBetween_of_ne {c : Char} (ne : c ≠ capitalSigma) (before other after : Text) :
    lowercaseBetween before c after = lowercaseBetween other c after := by
  rw [lowercaseBetween, lowercaseBetween, if_neg ne, if_neg ne]

/-- Behind a cased letter a text has another lower-case form than by itself if a word ends
with its first character that is not passed over, and only then. -/
theorem lowercaseFrom_eq_iff (cased : meetsCased before = true)
    (notCased : meetsCased other = false) :
    lowercaseFrom before text = lowercaseFrom other text ↔ ¬ EndsWord text := by
  -- As long as characters are passed over, the texts before differ in the same way. Behind
  -- the first other character they do not differ any more.
  induction text generalizing before other with
  | nil => simp [lowercaseFrom, EndsWord]
  | cons c after ih =>
      rw [endsWord_cons_iff, lowercaseFrom, lowercaseFrom]
      by_cases ignorable : isCaseIgnorable c = true
      · have ne : c ≠ capitalSigma := by
          rintro rfl
          rw [isCaseIgnorable_capitalSigma] at ignorable
          exact absurd ignorable (by decide)
        rw [if_pos ignorable, lowercaseBetween_of_ne ne before other, List.append_cancel_left_eq]
        apply ih
        · rwa [meetsCased_cons, if_pos ignorable]
        · rwa [meetsCased_cons, if_pos ignorable]
      · have next : meetsCased (c :: before) = meetsCased (c :: other) := by
          rw [meetsCased_cons, meetsCased_cons, if_neg ignorable, if_neg ignorable]
        rw [if_neg ignorable, lowercaseFrom_congr next, List.append_cancel_right_eq]
        by_cases sigma : c = capitalSigma
        · simp [lowercaseBetween, sigma, cased, notCased]
        · simp [lowercaseBetween_of_ne sigma before other, sigma]

/-- The lower-case form of a text ends with that of its end, unless the text in front makes
a word end there. -/
theorem lowercase_isSuffix_iff (front rest : Text) :
    lowercase rest <:+ lowercase (front ++ rest) ↔
      ¬ (meetsCased front.reverse = true ∧ EndsWord rest) := by
  have behind : lowercaseFrom front.reverse rest <:+ lowercase (front ++ rest) := by
    simpa [lowercase] using isSuffix_lowercaseFrom_append [] front rest
  have sameLength : (lowercase rest).length = (lowercaseFrom front.reverse rest).length :=
    length_lowercaseFrom [] front.reverse rest
  have same : lowercase rest <:+ lowercase (front ++ rest) ↔
      lowercaseFrom front.reverse rest = lowercase rest := by
    constructor
    · intro isSuffix
      have within := List.suffix_of_suffix_length_le isSuffix behind (Nat.le_of_eq sameLength)
      exact (within.eq_of_length sameLength).symm
    · intro same
      rwa [same] at behind
  rw [same]
  by_cases cased : meetsCased front.reverse = true
  · rw [lowercase, lowercaseFrom_eq_iff cased rfl]
    simp [cased]
  · have plain : meetsCased front.reverse = meetsCased [] := eq_false_of_ne_true cased
    simp [lowercase, lowercaseFrom_congr plain, cased]

/-! ## Small characters -/

/-- The character is its own lower-case form. -/
def IsSmall (c : Char) : Prop :=
  lowercase [c] = [c]

instance : DecidablePred IsSmall := fun c => inferInstanceAs (Decidable (lowercase [c] = [c]))

theorem isSmall_iff : IsSmall c ↔ c ≠ 'İ' ∧ lowercaseChar c = c := by
  by_cases sigma : c = capitalSigma
  · obtain rfl := sigma
    exact iff_of_false (by decide +kernel) (by decide +kernel)
  by_cases dotted : c = 'İ'
  · obtain rfl := dotted
    exact iff_of_false (by decide +kernel) (by simp)
  · simp [IsSmall, lowercase, lowercaseFrom, lowercaseBetween, sigma, dotted]

/-- A small character is written as it is in every context. -/
theorem IsSmall.lowercaseBetween_eq (isSmall : IsSmall c) (before after : Text) :
    lowercaseBetween before c after = [c] := by
  obtain ⟨notDotted, same⟩ := isSmall_iff.mp isSmall
  have notSigma : c ≠ capitalSigma := by
    rintro rfl
    exact absurd isSmall (by decide +kernel)
  rw [lowercaseBetween, if_neg notSigma, if_neg notDotted, same]

/-- So is a text of small characters. -/
theorem lowercaseFrom_append_of_isSmall (small : ∀ c ∈ front, IsSmall c) (before rest : Text) :
    lowercaseFrom before (front ++ rest) =
      front ++ lowercaseFrom (front.reverse ++ before) rest := by
  induction front generalizing before with
  | nil => rfl
  | cons c front ih =>
      obtain ⟨isSmall, others⟩ := List.forall_mem_cons.mp small
      rw [List.cons_append, lowercaseFrom, isSmall.lowercaseBetween_eq, ih others]
      simp

theorem isSmall_of_lowercaseFrom_eq (same : lowercaseFrom before text = text) :
    ∀ c ∈ text, IsSmall c := by
  induction text generalizing before with
  | nil => simp
  | cons c after ih =>
      rw [lowercaseFrom, lowercaseBetween] at same
      by_cases sigma : c = capitalSigma
      · obtain rfl := sigma
        rw [if_pos rfl] at same
        split at same
        · exact absurd (List.cons.inj same).1 (by decide)
        · exact absurd (List.cons.inj same).1 (by decide)
      rw [if_neg sigma] at same
      by_cases dotted : c = 'İ'
      · obtain rfl := dotted
        rw [if_pos rfl] at same
        exact absurd (List.cons.inj same).1 (by decide)
      · rw [if_neg dotted] at same
        obtain ⟨here, behind⟩ := List.cons.inj same
        exact List.forall_mem_cons.mpr ⟨isSmall_iff.mpr ⟨dotted, here⟩, ih behind⟩

/-- The texts that are in lower case are those of small characters. -/
theorem lowercase_eq_self_iff : lowercase text = text ↔ ∀ c ∈ text, IsSmall c := by
  constructor
  · exact isSmall_of_lowercaseFrom_eq
  · intro small
    have same := lowercaseFrom_append_of_isSmall small [] []
    rwa [List.append_nil, lowercaseFrom, List.append_nil] at same

/-! ## Lower-case forms are small -/

/-- No code point that the one run maps to is mapped by the other run: the two are apart, or
both of them have every second code point, and not the same ones. -/
def LowercaseRun.isApart (run other : LowercaseRun) : Bool :=
  Nat.blt (run.image + (run.last - run.first)) other.first || Nat.blt other.last run.image ||
    (run.step == 2 && other.step == 2 && (run.image + other.first) % 2 == 1) ||
    (run.first == run.last && !other.covers run.image)

theorem LowercaseRun.covers_image_eq_false {run other : LowercaseRun}
    (apart : run.isApart other = true) {code : Nat} (covers : run.covers code = true) :
    other.covers (run.image + (code - run.first)) = false := by
  simp only [isApart, LowercaseRun.covers, Bool.or_eq_true, Bool.and_eq_true, beq_iff_eq,
    decide_eq_true_eq, Nat.blt_eq, Bool.not_eq_true'] at apart covers
  obtain ⟨⟨notBefore, notBehind⟩, place⟩ := covers
  rw [LowercaseRun.covers, ← Bool.not_eq_true]
  simp only [Bool.and_eq_true, beq_iff_eq, decide_eq_true_eq]
  rintro ⟨⟨above, below⟩, otherPlace⟩
  rcases apart with ((left | right) | ⟨⟨step, otherStep⟩, odd⟩) | ⟨single, notCovered⟩
  · omega
  · omega
  · rw [step] at place
    rw [otherStep] at otherPlace
    omega
  · have only : code - run.first = 0 := by omega
    rw [only, Nat.add_zero] at above below otherPlace
    simp [above, below, otherPlace] at notCovered

/-- What the run maps to are characters and none of them is the capital I with a dot. If
there is one in ASCII, it is the only one and small. -/
def LowercaseRun.MapsToCharacters (run : LowercaseRun) : Prop :=
  (run.image + (run.last - run.first) < 0xD800 ∨
      0xE000 ≤ run.image ∧ run.image + (run.last - run.first) < 0x110000) ∧
    (run.image + (run.last - run.first) < 0x130 ∨ 0x130 < run.image) ∧
    (0x80 ≤ run.image ∨ run.first = run.last ∧ IsSmall (Char.ofNat run.image))

instance : DecidablePred LowercaseRun.MapsToCharacters := fun run => by
  unfold LowercaseRun.MapsToCharacters
  infer_instance

theorem isApart_of_mem :
    ∀ run ∈ lowercaseRuns, ∀ other ∈ lowercaseRuns, run.isApart other = true := by
  have all : (lowercaseRuns.all fun run => lowercaseRuns.all run.isApart) = true := by
    decide +kernel
  simpa only [List.all_eq_true] using all

theorem mapsToCharacters_of_mem : ∀ run ∈ lowercaseRuns, run.MapsToCharacters := by
  decide +kernel

theorem toNat_ofNat {code : Nat} (valid : code.isValidChar) : (Char.ofNat code).toNat = code := by
  rw [Char.ofNat, dif_pos valid]
  rfl

/-- A code point that no run maps is the code point of a small character. -/
theorem lowercaseChar_of_not_covers (high : ¬ c.toNat < 0x80)
    (notCovered : ∀ run ∈ lowercaseRuns, run.covers c.toNat = false) : lowercaseChar c = c := by
  have none : lowercaseRuns.find? (·.covers c.toNat) = none := by
    rw [List.find?_eq_none]
    exact fun run member => ne_true_of_eq_false (notCovered run member)
  rw [lowercaseChar, if_neg high, none]

theorem isSmall_toLower_of_ascii : ∀ code < 0x80, IsSmall (Char.ofNat code).toLower := by
  decide +kernel

/-- The lower-case form of a character is small. -/
theorem isSmall_lowercaseChar (notDotted : c ≠ 'İ') : IsSmall (lowercaseChar c) := by
  by_cases low : c.toNat < 0x80
  · have small := isSmall_toLower_of_ascii c.toNat low
    rw [Char.ofNat_toNat] at small
    rwa [lowercaseChar, if_pos low]
  cases found : lowercaseRuns.find? (·.covers c.toNat) with
  | none =>
      have same : lowercaseChar c = c := by rw [lowercaseChar, if_neg low, found]
      rw [same]
      exact isSmall_iff.mpr ⟨notDotted, same⟩
  | some run =>
      have member := List.mem_of_find?_eq_some found
      have covers := List.find?_some found
      obtain ⟨valid, dotted, ascii⟩ := mapsToCharacters_of_mem run member
      have within : c.toNat - run.first ≤ run.last - run.first := by
        simp only [LowercaseRun.covers, Bool.and_eq_true, decide_eq_true_eq] at covers
        omega
      have image : lowercaseChar c = Char.ofNat (run.image + (c.toNat - run.first)) := by
        rw [lowercaseChar, if_neg low, found]
      rw [image]
      rcases ascii with high | ⟨single, small⟩
      · have code : (Char.ofNat (run.image + (c.toNat - run.first))).toNat =
            run.image + (c.toNat - run.first) := by
          apply toNat_ofNat
          rw [Nat.isValidChar]
          omega
        refine isSmall_iff.mpr ⟨fun same => ?_, lowercaseChar_of_not_covers ?_ ?_⟩
        · have dottedCode : run.image + (c.toNat - run.first) = 0x130 := by
            rw [← code, same]
            rfl
          omega
        · omega
        · intro other isRun
          rw [code]
          exact LowercaseRun.covers_image_eq_false (isApart_of_mem run member other isRun) covers
      · have only : c.toNat - run.first = 0 := by omega
        rwa [only, Nat.add_zero]

theorem isSmall_of_mem_lowercaseBetween {d : Char}
    (member : c ∈ lowercaseBetween before d after) : IsSmall c := by
  have finalSigma : IsSmall 'ς' := by decide +kernel
  have sigma : IsSmall 'σ' := by decide +kernel
  have letter : IsSmall 'i' := by decide +kernel
  have dot : IsSmall '\u0307' := by decide +kernel
  unfold lowercaseBetween at member
  split at member
  · split at member
    · exact List.mem_singleton.mp member ▸ finalSigma
    · exact List.mem_singleton.mp member ▸ sigma
  · split at member
    · rcases List.mem_cons.mp member with rfl | member
      · exact letter
      · exact List.mem_singleton.mp member ▸ dot
    · next notDotted => exact List.mem_singleton.mp member ▸ isSmall_lowercaseChar notDotted

/-- Every character of a lower-case form is small. -/
theorem isSmall_of_mem_lowercaseFrom (member : c ∈ lowercaseFrom before text) : IsSmall c := by
  induction text generalizing before with
  | nil => simp [lowercaseFrom] at member
  | cons d after ih =>
      rw [lowercaseFrom, List.mem_append] at member
      rcases member with here | behind
      · exact isSmall_of_mem_lowercaseBetween here
      · exact ih behind

/-- What stands in a lower-case form is in lower case. -/
theorem lowercase_eq_self_of_isInfix (found : text <:+: lowercase rest) :
    lowercase text = text := by
  rw [lowercase_eq_self_iff]
  intro c member
  exact isSmall_of_mem_lowercaseFrom (found.subset member)

/-- What stands in a text stands in its lower-case form if it is in lower case itself, and
not otherwise. -/
theorem isInfix_lowercase_iff (within : text <:+: rest) :
    text <:+: lowercase rest ↔ lowercase text = text := by
  constructor
  · exact lowercase_eq_self_of_isInfix
  · intro same
    have small := lowercase_eq_self_iff.mp same
    obtain ⟨front, behind, rfl⟩ := within
    rw [List.append_assoc, lowercase]
    have isSuffix := isSuffix_lowercaseFrom_append [] front (text ++ behind)
    rw [lowercaseFrom_append_of_isSmall small] at isSuffix
    exact (List.prefix_append text _).isInfix.trans isSuffix.isInfix

end Unicode

end SourceLines
