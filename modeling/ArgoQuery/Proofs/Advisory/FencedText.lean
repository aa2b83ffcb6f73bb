import ArgoQuery.Advisory
import ArgoQuery.Proofs.Text.Substrings
import Mathlib.Data.List.Infix

/-!
# What is left of a fenced text

Stripping fences cuts: it takes what follows the first fence, leaves out an opening line with
nothing but a word on it, takes what comes before the next fence, and trims. So the content is a
part of the text, and no fence and no white space around it are left to cut
(`stripFences_of_no_fence`). Main statement: `stripFences_exact`.
-/

namespace ArgoQuery.Advisory

open Text

/-- A fence has characters. -/
theorem fence_ne_nil : fence ≠ [] := by decide

/-- Leaving out the language of a block leaves an end of the block. -/
theorem dropLanguage_suffix (block : List Char) : dropLanguage block <:+ block := by
  rw [dropLanguage]
  cases split : splitAtFirst? ['\n'] block with
  | none => exact List.suffix_refl block
  | some parts =>
    obtain ⟨line, rest⟩ := parts
    obtain ⟨rfl, -⟩ := (splitAtFirst?_eq_some_iff (by decide)).mp split
    dsimp only
    split_ifs
    · exact List.suffix_append ..
    · exact List.suffix_refl _

/-- An opening line with the name of a language is left out. -/
theorem dropLanguage_of_tag {tag : List Char} (word : ∀ c ∈ tag, c.isAlphanum = true)
    (rest : List Char) : dropLanguage (tag ++ '\n' :: rest) = rest := by
  have single : '\n' ∉ tag := fun member => absurd (word _ member) (by decide)
  have first : splitAtFirst? ['\n'] (tag ++ '\n' :: rest) = some (tag, rest) := by
    refine (splitAtFirst?_eq_some_iff (by decide)).mpr ⟨by simp, ?_⟩
    rwa [List.dropLast_singleton, List.append_nil, List.singleton_infix_iff]
  have known : (trimmed tag).all Char.isAlphanum = true :=
    List.all_eq_true.mpr fun c member => word c ((trimmed_isInfix tag).subset member)
  rw [dropLanguage, first]
  exact if_pos known

/-- What stands before the next fence is a beginning of the block. -/
theorem untilFence_isPrefix (block : List Char) : untilFence block <+: block := by
  rw [untilFence]
  cases split : splitAtFirst? fence block with
  | none => exact List.prefix_refl block
  | some parts =>
    obtain ⟨rfl, -⟩ := (splitAtFirst?_eq_some_iff fence_ne_nil).mp split
    rw [List.append_assoc]
    exact List.prefix_append ..

/-- No fence is left in what stands before the next one. -/
theorem not_fence_infix_untilFence (block : List Char) : ¬ fence <:+: untilFence block := by
  rw [untilFence]
  cases split : splitAtFirst? fence block with
  | none => exact (splitAtFirst?_eq_none_iff fence_ne_nil).mp split
  | some parts =>
    obtain ⟨-, first⟩ := (splitAtFirst?_eq_some_iff fence_ne_nil).mp split
    exact fun early => first (early.trans (List.prefix_append ..).isInfix)

/-- A text up to the fence on the line after it is cut off with the end of its last line. -/
theorem untilFence_append {body : List Char} (plain : ¬ fence <:+: body) (rest : List Char) :
    untilFence (body ++ '\n' :: fence ++ rest) = body ++ ['\n'] := by
  have first : splitAtFirst? fence (body ++ '\n' :: fence ++ rest) =
      some (body ++ ['\n'], rest) := by
    refine (splitAtFirst?_eq_some_iff fence_ne_nil).mpr ⟨by simp, ?_⟩
    rw [List.append_assoc, List.singleton_append, infix_append_cons_iff (by decide)]
    exact not_or.mpr ⟨plain, by decide⟩
  rw [untilFence, first]

section Content

variable (text : List Char)

/-- Stripping the fences of a text leaves a part of it. -/
theorem stripFences_isInfix : stripFences text <:+: text := by
  rw [stripFences]
  cases split : splitAtFirst? fence text with
  | none => exact trimmed_isInfix text
  | some parts =>
    obtain ⟨before, block⟩ := parts
    obtain ⟨rfl, -⟩ := (splitAtFirst?_eq_some_iff fence_ne_nil).mp split
    calc trimmed (untilFence (dropLanguage block))
      _ <:+: untilFence (dropLanguage block) := trimmed_isInfix _
      _ <:+: dropLanguage block := (untilFence_isPrefix _).isInfix
      _ <:+: block := (dropLanguage_suffix block).isInfix
      _ <:+: before ++ fence ++ block := (List.suffix_append ..).isInfix

/-- A text without its fences has no white space at either end. -/
theorem isTrimmed_stripFences : IsTrimmed (stripFences text) := by
  rw [stripFences]
  split <;> exact isTrimmed_trimmed _

/-- No fence is left in a text that is stripped of its fences. -/
theorem not_fence_infix_stripFences : ¬ fence <:+: stripFences text := by
  rw [stripFences]
  cases split : splitAtFirst? fence text with
  | none =>
    have plain := (splitAtFirst?_eq_none_iff fence_ne_nil).mp split
    exact fun fenced => plain (fenced.trans (trimmed_isInfix text))
  | some parts =>
    exact fun fenced => not_fence_infix_untilFence _ (fenced.trans (trimmed_isInfix _))

variable {text}

/-- A text in which there is no fence is only trimmed. -/
theorem stripFences_of_no_fence (plain : ¬ fence <:+: text) : stripFences text = trimmed text := by
  rw [stripFences, (splitAtFirst?_eq_none_iff fence_ne_nil).mpr plain]

/-- From what is left nothing more is cut. -/
theorem stripFences_stripFences (text : List Char) :
    stripFences (stripFences text) = stripFences text :=
  (stripFences_of_no_fence (not_fence_infix_stripFences text)).trans
    (trimmed_of_isTrimmed (isTrimmed_stripFences text))

/-- The content of a block that opens with the name of a language, or with none, and is closed on a
line of its own. -/
theorem stripFences_of_block {before tag body : List Char} (plain : ¬ fence <:+: before)
    (ends : before.getLast? ≠ some '\x60') (word : ∀ c ∈ tag, c.isAlphanum = true)
    (plain' : ¬ fence <:+: body) (after : List Char) :
    stripFences (before ++ fence ++ (tag ++ '\n' :: (body ++ '\n' :: fence ++ after))) =
      trimmed body := by
  have opening : ¬ fence <:+: before ++ fence.dropLast := by
    rcases before.eq_nil_or_concat with rfl | ⟨start, c, rfl⟩
    · decide
    · rw [List.concat_eq_append] at plain ends ⊢
      have other : c ∉ fence := by simpa [fence] using ends
      rw [List.append_assoc, List.singleton_append, infix_append_cons_iff other]
      exact not_or.mpr ⟨fun early => plain (early.trans (List.prefix_append ..).isInfix), by decide⟩
  have first := (splitAtFirst?_eq_some_iff fence_ne_nil).mpr
    (⟨rfl, opening⟩ : before ++ fence ++ (tag ++ '\n' :: (body ++ '\n' :: fence ++ after)) = _ ∧ _)
  rw [stripFences, first]
  dsimp only
  rw [dropLanguage_of_tag word, untilFence_append plain', trimmed_append_blank _ (by decide)]

end Content

/-- What is accepted is the content, if it has characters and as many as are asked for. -/
theorem accept?_eq_some_iff {minChars : Nat} {text content : String} :
    accept? minChars text = some content ↔
      content.toList = stripFences text.toList ∧ content ≠ "" ∧ minChars ≤ content.length := by
  rw [accept?, Option.ite_none_left_eq_some, Option.some.injEq]
  constructor
  · rintro ⟨accepted, rfl⟩
    simpa using accepted
  · rintro ⟨same, nonempty, long⟩
    rw [← same]
    refine ⟨?_, String.ofList_toList⟩
    simpa using ⟨nonempty, long⟩

/-- Stripping fences is exact, and once is enough.

The content is a part of the text, without white space around it and without a fence, and nothing
more is stripped from it. So an accepted text is as long as asked and is accepted again as it is.
And the content of a block is what stands between its opening line, with the name of a language on
it or nothing, and the line that closes it, if no fence comes before it or in between.

What is left of a block ends at the first fence, so there is nothing for a second stripping to find.
-/
theorem stripFences_exact :
    (∀ raw : String, stripFences raw.toList <:+: raw.toList ∧
      IsTrimmed (stripFences raw.toList) ∧ ¬ fence <:+: stripFences raw.toList ∧
      stripFences (stripFences raw.toList) = stripFences raw.toList ∧
      ∀ minChars content, accept? minChars raw = some content →
        minChars ≤ content.length ∧ accept? minChars content = some content) ∧
    ∀ before tag body after : List Char,
      ¬ fence <:+: before → before.getLast? ≠ some '\x60' →
      (∀ c ∈ tag, c.isAlphanum = true) → ¬ fence <:+: body →
      stripFences (before ++ fence ++ (tag ++ '\n' :: (body ++ '\n' :: fence ++ after))) =
        trimmed body := by
  constructor
  · intro raw
    have again := stripFences_stripFences raw.toList
    refine ⟨stripFences_isInfix _, isTrimmed_stripFences _, not_fence_infix_stripFences _, again,
      ?_⟩
    intro minChars content accepted
    obtain ⟨same, nonempty, long⟩ := accept?_eq_some_iff.mp accepted
    have kept : content.toList = stripFences content.toList := by rw [same, again]
    exact ⟨long, accept?_eq_some_iff.mpr ⟨kept, nonempty, long⟩⟩
  · intro before tag body after plain ends word plain'
    exact stripFences_of_block plain ends word plain' after

/-- A block of two lines between other words, with one backtick and two in its content. -/
theorem stripFences_sql_block :
    let content := "SELECT `psal`\n  FROM ``float_measurements``;"
    let raw := "Here you go:\n```sql\n" ++ content ++ "\n\n```\nEnjoy."
    accept? 20 raw = some content ∧ accept? 20 content = some content ∧
      stripFences ("Here you go:\n".toList ++ fence ++
        ("sql".toList ++ '\n' :: (content.toList ++ '\n' :: fence ++ "\nEnjoy.".toList))) =
          trimmed content.toList := by
  intro content raw
  have accepted : accept? 20 raw = some content := by decide +kernel
  have again := (stripFences_exact.1 raw).2.2.2.2 20 content accepted
  exact ⟨accepted, again.2, stripFences_exact.2 _ _ _ _ (by decide +kernel) (by decide)
    (List.all_eq_true.mp rfl) (by decide +kernel)⟩

end ArgoQuery.Advisory
