/-
# What counters say about lines

A counter says how many lines of a text are code, comments and blank, and it says the
same of each part of the text that is in another language. Its figures are an account of
some lines when no line is behind two of them: a line is code, a comment or blank, or it
belongs to one part, where the same is said of it again, or it is not counted. How a
counter finds the parts of a text, and how it tells the kinds of lines apart, is left
open. From an account it follows by induction on the parts that all figures together are
no more than the lines.

Counters cut a content into lines at line feeds only. These are no more than its physical
lines, of which some end at carriage returns. The counter of the catalogue judges line
after line and knows no parts, so its figures are an account of every content.
-/

import Mathlib.Data.List.Perm.Subperm
import SourceLines.Language.Counter
import SourceLines.Proofs.BlockComments
import SourceLines.Proofs.LostLines

namespace SourceLines

/-- Lines that are judged one after another are counted by the kinds they get, one kind
for each line. -/
theorem LineCounts.exists_kinds_of_foldl {α σ : Type} (judge : σ → α → LineKind × σ)
    (lines : List α) (counts : LineCounts) (state : σ) :
    ∃ kinds : List LineKind, kinds.length = lines.length ∧
      (lines.foldl
          (fun (counts, state) line =>
            let (kind, next) := judge state line
            (counts + .ofKind kind, next))
          (counts, state)).1 = counts + .ofKinds kinds := by
  induction lines generalizing counts state with
  | nil => exact ⟨[], rfl, rfl⟩
  | cons line rest ih =>
      obtain ⟨kinds, length, counted⟩ := ih (counts + .ofKind (judge state line).1)
        (judge state line).2
      refine ⟨(judge state line).1 :: kinds, ?_, ?_⟩
      · rw [List.length_cons, List.length_cons, length]
      · rw [List.foldl_cons, counted, ofKinds_cons, add_assoc]

namespace Language

/-! ## Lines that end at line feeds only -/

theorem isLineFeed_toNat_iff {byte : UInt8} : IsLineFeed UInt8.toNat byte ↔ byte = 0x0A := by
  rw [IsLineFeed, ← UInt8.toNat_inj]
  rfl

mutual

/-- The figures are an account of these lines: each line is code, a comment or blank, or
it belongs to a part, or it is not counted, and there is never more than one of this. -/
inductive Stats.AccountsFor : Stats → List Bytes → Prop
  | intro {code comment blank ofParts lines : List Bytes} {parts : List (String × Stats)}
      (apart : (code ++ comment ++ blank ++ ofParts).Subperm lines)
      (within : Stats.PartsAccountFor parts ofParts) :
      Stats.AccountsFor (.mk code.length comment.length blank.length parts) lines

/-- The figures of some parts are an account of these lines, in which one part stands
behind another. -/
inductive Stats.PartsAccountFor : List (String × Stats) → List Bytes → Prop
  | nil : Stats.PartsAccountFor [] []
  | cons {language : String} {stats : Stats} {parts : List (String × Stats)}
      {first others : List Bytes} (one : stats.AccountsFor first)
      (more : Stats.PartsAccountFor parts others) :
      Stats.PartsAccountFor ((language, stats) :: parts) (first ++ others)

end

mutual

/-- All figures of an account together are no more than its lines. -/
theorem Stats.AccountsFor.classified_le :
    ∀ {stats : Stats} {lines : List Bytes}, stats.AccountsFor lines →
      stats.summarise.classified ≤ lines.length
  | _, _, .intro apart within => by
      have figures := within.classified_le
      have all := apart.length_le
      simp only [List.length_append] at all
      simp only [LineCounts.classified, Stats.summarise, LineCounts.add_code,
        LineCounts.add_comment, LineCounts.add_blank] at figures ⊢
      omega

theorem Stats.PartsAccountFor.classified_le :
    ∀ {parts : List (String × Stats)} {lines : List Bytes}, Stats.PartsAccountFor parts lines →
      (Stats.summariseParts parts).classified ≤ lines.length
  | _, _, .nil => Nat.le_refl 0
  | _, _, .cons one more => by
      have first := one.classified_le
      have others := more.classified_le
      rw [List.length_append]
      simp only [LineCounts.classified, Stats.summariseParts, LineCounts.add_code,
        LineCounts.add_comment, LineCounts.add_blank] at first others ⊢
      omega

end

/-- Every line has a kind, and the counts are the numbers of lines of each kind. -/
theorem exists_kinds_of_count (language : Language) (content : Bytes) :
    ∃ kinds : List LineKind, kinds.length = (feedLines content).length ∧
      language.count content = .ofKinds kinds := by
  obtain ⟨kinds, length, counted⟩ := LineCounts.exists_kinds_of_foldl
    (fun nesting line => Nesting.readLine language nesting (trimBytes line))
    (feedLines content) .zero .start
  exact ⟨kinds, length, counted.trans (LineCounts.zero_add _)⟩

/-- Without parts there is nothing to add. -/
theorem summarise_stats (language : Language) (content : Bytes) :
    (stats language content).summarise = language.count content := by
  obtain ⟨kinds, -, counted⟩ := exists_kinds_of_count language content
  rw [stats, counted]
  rfl

end Language

end SourceLines
